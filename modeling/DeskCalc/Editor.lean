import DeskCalc.Fault
import DeskCalc.Keyboard
import DeskCalc.Transcript

namespace DeskCalc

open Text

/-- The composer remembers the class of the last token inserted and the generation of the cell that
it went into. -/
@[ext] structure Composer where
  modifier : Option Modifier
  lastInserted : Option TokenClass
  generation : Nat
  deriving DecidableEq

/-- A transcript and the composer that writes key strokes into its active cell. A token is set off
by one space from a token of another class that was the last one inserted into the same cell; a
modifier goes in front of the next token if that is a unit, and lasts for one token. -/
@[ext] structure Editor where
  transcript : Transcript
  composer : Composer
  deriving DecidableEq

inductive EditError
  | noActiveCell
  | nothingToUpdate
  | noSubmitHandler
  | unknownKey (label : String)
  | unknownModifier (symbol : String)
  | unknownClass (name : String)
  | unknownAction (name : String)
  deriving DecidableEq

def EditError.fault : EditError → Fault
  | noActiveCell => .precondition "No active input cell"
  | nothingToUpdate => .precondition "No active input cell to update"
  | noSubmitHandler => .precondition "No submission handler attached to the keyboard"
  | unknownKey label => ⟨.key, some ("No such key: " ++ quoted label)⟩
  | unknownModifier symbol =>
    .value ("Unknown modifier: " ++ quoted symbol ++ ". Choose: " ++
      ", ".intercalate (Modifier.all.map Modifier.symbol))
  | unknownClass name => .value (quoted name ++ " is not a valid TokenType")
  | unknownAction name => .value (quoted name ++ " is not a valid UiAction")

/-- What an action or a key comes to: an edit that is made, or a submission asked for. -/
inductive Effect
  | edited (e : Editor)
  | submit
  deriving DecidableEq

namespace Editor

/-- A composer is new to the cells that are there when it is attached. -/
def attach (t : Transcript) : Editor := ⟨t, ⟨none, none, t.generation⟩⟩

def empty : Editor := attach .empty

/-- The class of the last token inserted into the cell that is active now. -/
def lastClass (e : Editor) : Option TokenClass :=
  if e.composer.generation = e.transcript.generation then e.composer.lastInserted else none

def setText (e : Editor) (text : String) : Except EditError Editor :=
  match e.transcript.update? text with
  | some t => .ok { e with transcript := t }
  | none => .error .nothingToUpdate

/-- The modifier selected, if any, as it stands in front of a unit. -/
def modifierText (e : Editor) : String := (e.composer.modifier.map Modifier.symbol).getD ""

/-- A token as it is inserted. -/
def written (e : Editor) (token : String) : TokenClass → String
  | .unit => "(" ++ e.modifierText ++ token ++ ")"
  | _ => token

/-- What stands between the text so far and a token of class `cls`. -/
def separator (e : Editor) (cls : TokenClass) : String :=
  match e.lastClass with
  | some last => if last = cls then "" else " "
  | none => ""

/-- Inserts a token and gives the new text of the active cell. -/
def insert (e : Editor) (token : String) (cls : TokenClass) : Except EditError (String × Editor) :=
  match e.transcript.active? with
  | none => .error .noActiveCell
  | some text =>
    let text := text ++ e.separator cls ++ e.written token cls
    match e.transcript.update? text with
    | none => .error .noActiveCell
    | some t => .ok (text, ⟨t, ⟨none, some cls, t.generation⟩⟩)

def insertNamed (e : Editor) (token className : String) : Except EditError (String × Editor) :=
  match TokenClass.ofName? className with
  | some cls => e.insert token cls
  | none => .error (if e.transcript.active?.isSome then .unknownClass className else .noActiveCell)

/-- The text that an action makes of a text, nothing for a submission. -/
def acted (text : String) : Action → Option String
  | .space => some (text ++ " ")
  | .newline => some (text ++ "\n")
  | .backspace => some (.ofList text.toList.dropLast)
  | .clear => some ""
  | .submit => none

def act (e : Editor) (a : Action) : Except EditError Effect :=
  match e.transcript.active? with
  | none => .error .noActiveCell
  | some text =>
    match acted text a with
    | none => .ok .submit
    | some text => (e.setText text).map .edited

def actNamed (e : Editor) (name : String) : Except EditError Effect :=
  match Action.ofName? name with
  | some a => e.act a
  | none => .error (if e.transcript.active?.isSome then .unknownAction name else .noActiveCell)

/-- Selects a modifier, or clears the selection if it is that modifier already. -/
def toggle (e : Editor) (m : Modifier) : Editor :=
  { e with composer := { e.composer with
      modifier := if e.composer.modifier = some m then none else some m } }

def toggleNamed (e : Editor) (symbol : String) : Except EditError Editor :=
  match Modifier.ofSymbol? symbol with
  | some m => .ok (e.toggle m)
  | none => .error (.unknownModifier symbol)

def strike (e : Editor) : Stroke → Except EditError Effect
  | .token token cls => (e.insert token cls).map fun (_, e) => .edited e
  | .action a => e.act a
  | .modifier m => .ok (.edited (e.toggle m))

/-- Presses the key with a label. -/
def press (e : Editor) (label : String) : Except EditError Effect :=
  match Keyboard.find? label with
  | some key => e.strike key.stroke
  | none => .error (.unknownKey label)

end Editor

/-- The editor after an effect, where `handler` takes submissions; without one they are refused. -/
def Effect.resolve (effect : Effect) (handler : Option Editor) : Except EditError Editor :=
  match effect, handler with
  | edited e, _ => .ok e
  | submit, some e => .ok e
  | submit, none => .error .noSubmitHandler

end DeskCalc
