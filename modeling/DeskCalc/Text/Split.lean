namespace DeskCalc.Text

/-- The pieces between the characters of class `p`; there is one more of them than separators. -/
def splitAt (p : Char → Bool) : List Char → List (List Char)
  | [] => [[]]
  | c :: cs =>
    if p c then [] :: splitAt p cs
    else
      match splitAt p cs with
      | [] => [[c]]
      | piece :: rest => (c :: piece) :: rest

def pieces (separator : Char) (text : String) : List String :=
  (splitAt (· = separator) text.toList).map .ofList

/-- What stands before and after the first separator, if there is one. -/
def cut? (separator : Char) (text : String) : Option (String × String) :=
  match text.toList.dropWhile (· ≠ separator) with
  | [] => none
  | _ :: rest => some (.ofList (text.toList.takeWhile (· ≠ separator)), .ofList rest)

/-- The lines of a text, where `line` holds what has been read of the first one, last character
first. A last line without an end counts if it is not empty. -/
def linesFrom (line : List Char) : List Char → List (List Char)
  | [] => if line = [] then [] else [line.reverse]
  | '\r' :: '\n' :: rest => line.reverse :: linesFrom [] rest
  | c :: rest =>
    if c = '\n' ∨ c = '\r' then line.reverse :: linesFrom [] rest else linesFrom (c :: line) rest

/-- A line ends with a line feed, a carriage return, or the two together. -/
def lines (text : String) : List String := (linesFrom [] text.toList).map .ofList

inductive WordsError
  | unclosedQuote
  | nothingEscaped
  deriving DecidableEq

def WordsError.message : WordsError → String
  | unclosedQuote => "No closing quotation"
  | nothingEscaped => "No escaped character"

namespace Words

/-- Where in a word the reading stands. -/
inductive Mode
  | plain
  | escape
  | single
  | double
  | doubleEscape
  deriving DecidableEq

def separates (c : Char) : Bool := c = ' ' || c = '\t' || c = '\r' || c = '\n'

/-- What the next character does to the mode, and the characters it adds to the word. -/
def next : Mode → Char → Mode × List Char
  | .plain, c =>
    if c = '\\' then (.escape, []) else if c = '\'' then (.single, [])
    else if c = '"' then (.double, []) else (.plain, [c])
  | .escape, c => (.plain, [c])
  | .single, c => if c = '\'' then (.plain, []) else (.single, [c])
  | .double, c =>
    if c = '"' then (.plain, []) else if c = '\\' then (.doubleEscape, []) else (.double, [c])
  | .doubleEscape, c => (.double, if c = '"' ∨ c = '\\' then [c] else ['\\', c])

/-- The words of a text, of which `word` has been begun. Quotes begin a word that may stay empty. -/
def read (mode : Mode) (word : Option (List Char)) : List Char → Except WordsError (List (List Char))
  | [] =>
    match mode with
    | .plain => .ok word.toList
    | .escape | .doubleEscape => .error .nothingEscaped
    | .single | .double => .error .unclosedQuote
  | c :: rest =>
    if mode = .plain ∧ separates c then (read .plain none rest).map (word.toList ++ ·)
    else
      let (mode, added) := next mode c
      read mode (some (word.getD [] ++ added)) rest

end Words

/-- The words of a command. Blanks separate them; single quotes take everything between them, double
quotes all but an escaped quote or backslash, and a backslash outside quotes takes one character. -/
def words (text : String) : Except WordsError (List String) :=
  (Words.read .plain none text.toList).map (·.map .ofList)

end DeskCalc.Text
