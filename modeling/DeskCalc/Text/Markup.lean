import DeskCalc.Fault
import DeskCalc.Literal.Value
import DeskCalc.Text.Letter
import DeskCalc.Text.Markup.Piece
import DeskCalc.Text.Style

namespace DeskCalc.Text

namespace Markup

inductive Error
  | unmatched (inside : String) (position : Nat)
  | nothingOpen (position : Nat)
  /-- The style of a tag cannot be read. -/
  | badStyle (e : Reading.IntegerError)
  /-- The arguments of a handler, found in its parameters, write no value. -/
  | badArguments (arguments parameters : String) (e : Literal.Error)
  deriving DecidableEq

namespace Error

def message : Error → String
  | unmatched inside position =>
    "closing tag '[" ++ inside ++ "]' at position " ++ toString position ++
      " doesn't match any open tag"
  | nothingOpen position =>
    "closing tag '[/]' at position " ++ toString position ++ " has nothing to close"
  | badStyle e => e.message
  | badArguments arguments parameters (.unreadable message) =>
    "error parsing " ++ quoted arguments ++ " in " ++ quoted parameters ++ "; " ++ message
  | badArguments _ parameters e =>
    "error parsing " ++ quoted parameters ++ "; " ++ e.message

def fault (e : Error) : Fault :=
  match e with
  | badStyle _ => .value e.message
  | _ => ⟨.markup, some e.message⟩

end Error

/-- A style that is open: its name, what an equals sign gave it, and where it begins. -/
structure Opened where
  name : String
  parameters : Option (List Char)
  start : Nat
  deriving DecidableEq

/-- A style over the shown characters from `start` on and before `stop`. -/
structure Span where
  style : List Char
  start : Nat
  stop : Nat
  deriving DecidableEq

/-- The inside of a tag up to its first equals sign, if it has one. -/
def tagName (inside : List Char) : List Char := inside.takeWhile (· ≠ '=')

/-- The inside of a tag after its first equals sign. -/
def tagParameters? (inside : List Char) : Option (List Char) :=
  match inside.dropWhile (· ≠ '=') with
  | [] => none
  | _ :: parameters => some parameters

def styleName (name : List Char) : Except Error String := (Style.nameOf name).mapError .badStyle

namespace Opened

/-- Parameters are read as further words of a style. -/
def span (o : Opened) (stop : Nat) : Span :=
  ⟨o.name.toList ++ (o.parameters.map (' ' :: ·)).getD [], o.start, stop⟩

/-- An at sign marks a handler, which is no style. -/
def isHandler (o : Opened) : Bool := o.name.toList.head? = some '@'

/-- The arguments in the parameters of a handler: they stand in brackets after a dotted name, or
alone. -/
def arguments (parameters : List Char) : List Char :=
  match parameters.dropWhile fun c => isWordChar c || c = '.' with
  | [] => ['(', ')']
  | '(' :: inner =>
    if inner.getLast? = some ')' && !inner.contains '\n' then '(' :: inner else parameters
  | _ => parameters

/-- Checks the arguments of a handler. No parameters are no arguments. -/
def checkArguments (parameters : List Char) : Except Error Unit :=
  if parameters = [] then .ok ()
  else
    let text := arguments (trimmed isBlank parameters)
    (Literal.check text).mapError (.badArguments (.ofList text) (.ofList parameters))

/-- Closes a tag: a style leaves a span. -/
def close (o : Opened) (stop : Nat) : Except Error (List Span) :=
  if o.isHandler then (checkArguments (o.parameters.getD [])).map fun _ => []
  else .ok [o.span stop]

end Opened

/-- What is open after a tag, last opened first, and the span that it leaves if it closes one. -/
def apply (opened : List Opened) (width : Nat) (inside : List Char) (position : Nat) :
    Except Error (List Opened × List Span) :=
  match tagName inside with
  | '/' :: closing =>
    if trimmed isBlank closing = [] then
      match opened with
      | [] => .error (.nothingOpen position)
      | o :: rest => (o.close width).map (rest, ·)
    else
      (styleName closing).bind fun name =>
        match opened.find? (·.name = name) with
        | none => .error (.unmatched (.ofList inside) position)
        | some o => (o.close width).map (opened.eraseP (·.name = name), ·)
  | opening =>
    (styleName opening).map fun name => (⟨name, tagParameters? inside, width⟩ :: opened, [])

/-- The spans of what is read after `width` characters, as they end. What is open at the end of the
text ends there. -/
def spans (opened : List Opened) (width : Nat) : List Mark → Except Error (List Span)
  | [] => .ok (opened.map (·.span width))
  | .tag inside position :: rest =>
    (apply opened width inside position).bind fun (opened, closed) =>
      (spans opened width rest).map (closed ++ ·)
  | mark :: rest => spans opened (if mark.shown?.isSome then width + 1 else width) rest

/-- Whether a span has a character in one of the lines of a text. -/
def Span.isVisible (s : Span) (text : List Char) : Bool :=
  ((text.take s.stop).drop s.start).any (· ≠ '\n')

/-- Puts a span in front of those that do not start before it. -/
def Span.intoOrder (s : Span) : List Span → List Span
  | [] => [s]
  | t :: later => if s.start ≤ t.start then s :: t :: later else t :: s.intoOrder later

/-- The spans drawn, from left to right, and of those that start together the last to end first. A
text of more than one line or column is drawn in parts, and there a span without a character is
lost. The console is taken to be wide enough for every line: one that it breaks is drawn in parts as
well. -/
def drawn (text : List Char) (ended : List Span) : List Span :=
  let ordered := ended.foldl (fun later s => s.intoOrder later) []
  if text.contains '\n' || text.contains '\t' then ordered.filter (·.isVisible text) else ordered

/-- What keeps a span from being drawn. A style without meaning is no style, and does not. -/
def Span.fault? (s : Span) : Option Error :=
  match Style.ofText s.style with
  | .error (.badPart e) => some (.badStyle e)
  | _ => none

end Markup

/-- The text that markup shows: it, without its tags. A tag opens a style, and a tag that begins
with a slash closes one: the style it names, or the last that is open. Markup cannot be shown if a
tag closes nothing, or if a style that is drawn cannot be read. -/
def plainText (markup : String) : Except Markup.Error String :=
  let read := Markup.marks 0 (Markup.pieces 0 markup.toList)
  let text := read.filterMap Markup.Mark.shown?
  (Markup.spans [] 0 read).bind fun ended =>
    match (Markup.drawn text ended).findSome? Markup.Span.fault? with
    | some e => .error e
    | none => .ok (.ofList text)

end DeskCalc.Text
