import DeskCalc.Text.Case
import DeskCalc.Text.Color

namespace DeskCalc.Text

/-- A style of markup, given by words in any order: traits such as bold, a colour, and after `not`,
`on` and `link` a trait to clear, a background and a target. The traits set or cleared are listed
the latest first; of the others the last one given counts. -/
structure Style where
  traits : List (String × Bool)
  color : Option String
  background : Option String
  link : Option String
  deriving DecidableEq

namespace Style

/-- Why a text gives no style: it has no meaning as one, or part of a colour cannot be read. -/
inductive Error
  | meaningless
  | badPart (e : Reading.IntegerError)
  deriving DecidableEq

def plain : Style := ⟨[], none, none, none⟩

/-- The traits, each with its short names. -/
def traitNames : List (String × List String) :=
  [("bold", ["b"]), ("dim", ["d"]), ("italic", ["i"]), ("underline", ["u"]), ("blink", []),
    ("blink2", []), ("reverse", ["r"]), ("conceal", ["c"]), ("strike", ["s"]),
    ("underline2", ["uu"]), ("frame", []), ("encircle", []), ("overline", ["o"])]

def trait? (word : String) : Option String :=
  (traitNames.find? fun a => a.1 = word || a.2.contains word).map (·.1)

def set (s : Style) (name : String) (on : Bool) : Style := { s with traits := (name, on) :: s.traits }

def lowered (word : String) : String := .ofList (lowerCase word.toList)

/-- The name of the colour that a word in lower case stands for. -/
def colorName (word : String) : Except Error String :=
  match isColor word with
  | .ok true => .ok word
  | .ok false => .error .meaningless
  | .error e => .error (.badPart e)

/-- The words that say what the next word is. -/
def qualifiers : List String := ["not", "on", "link"]

/-- A style with a word after a qualifier. -/
def withQualified (s : Style) (qualifier word : String) : Except Error Style :=
  if qualifier = "not" then
    match trait? word with
    | some a => .ok (s.set a false)
    | none => .error .meaningless
  else if qualifier = "link" then .ok { s with link := some word }
  else (colorName (lowered word)).map fun color => { s with background := some color }

/-- A style with a word that stands alone. -/
def withWord (s : Style) (word : String) : Except Error Style :=
  match trait? word with
  | some a => .ok (s.set a true)
  | none => (colorName word).map fun color => { s with color := some color }

def withWords (s : Style) : List String → Except Error Style
  | [] => .ok s
  | word :: rest =>
    if qualifiers.contains (lowered word) then
      match rest with
      | [] => .error .meaningless
      | target :: rest => (s.withQualified (lowered word) target).bind fun s => s.withWords rest
    else (s.withWord (lowered word)).bind fun s => s.withWords rest

def ofText (text : List Char) : Except Error Style :=
  plain.withWords (((splitAt isBlank text).filter (· ≠ [])).map .ofList)

/-- The words of a style: traits in their order, then colour, background and link. -/
def words (s : Style) : List String :=
  (traitNames.filterMap fun a =>
    (s.traits.lookup a.1).map fun on => if on then a.1 else "not " ++ a.1) ++
    s.color.toList ++ (s.background.map ("on " ++ ·)).toList ++ (s.link.map ("link " ++ ·)).toList

/-- Texts that give the same style come to one name. -/
def name (s : Style) : String := if s.words = [] then "none" else " ".intercalate s.words

/-- The name of the style that a text gives; a text without meaning is compared without regard to
case. -/
def nameOf (text : List Char) : Except Reading.IntegerError String :=
  match ofText text with
  | .ok s => .ok s.name
  | .error .meaningless => .ok (lowered (.ofList (trimmed isBlank text)))
  | .error (.badPart e) => .error e

end Style

end DeskCalc.Text
