import DeskCalc.Text.Quoted

namespace DeskCalc

open Text

inductive Fault.Kind
  | engine
  | bootstrap
  | submission
  | precondition
  | value
  | runtime
  | key
  | overflow
  | type
  | member
  | index
  | markup
  /-- Any other kind of fault, by its name. -/
  | other (name : String) (named : name ≠ "")
  /-- A fault that stops the program rather than the operation. -/
  | interrupt
  deriving DecidableEq

def Fault.Kind.name : Fault.Kind → String
  | engine => "EngineError"
  | bootstrap => "BootstrapFailure"
  | submission => "SubmissionFailure"
  | precondition => "PreconditionViolation"
  | value => "ValueError"
  | runtime => "RuntimeError"
  | key => "KeyError"
  | overflow => "OverflowError"
  | type => "TypeError"
  | member => "AttributeError"
  | index => "IndexError"
  | markup => "MarkupError"
  | other name _ => name
  | interrupt => "KeyboardInterrupt"

/-- What an operation or an engine ends with instead of an answer: its kind, whose name may be
shown, and a message, which may be missing. -/
structure Fault where
  kind : Fault.Kind
  message : Option String
  deriving DecidableEq

namespace Fault

/-- The words of a fault. A missing key is shown quoted, so that an empty one can be seen. -/
def text (f : Fault) : String :=
  match f.kind, f.message with
  | _, none => ""
  | .key, some message => quoted message
  | _, some message => message

/-- The words of a fault, or the name of its kind where it has none. -/
def description (f : Fault) : String := if f.text = "" then f.kind.name else f.text

/-- An interrupt is the one fault that nothing on its way catches. -/
def isOrdinary (f : Fault) : Bool := f.kind ≠ .interrupt

def precondition (message : String) : Fault := ⟨.precondition, some message⟩

def value (message : String) : Fault := ⟨.value, some message⟩

end Fault

end DeskCalc
