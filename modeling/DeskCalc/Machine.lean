import DeskCalc.Fault
import DeskCalc.Number.Numeral
import DeskCalc.Quantity
import DeskCalc.Token.Lexer

namespace DeskCalc

inductive MachineError
  | stackUnderflow
  | incompatibleUnits (unit : Units)
  | divisionByZero
  | undefinedVariable (name : String)
  | unsupportedOperator (op : Operator)
  | invalidNumber (text : String)
  | invalidUnit (text : String)
  | overflow
  | exponentTooLong
  | invalidCharacter (e : LexError)
  deriving DecidableEq

/-- The words for a place that fits no token. -/
def LexError.message (e : LexError) : String :=
  let found := match e.found with
    | some c => c.toString
    | none => "end of input"
  "Invalid character: " ++ found ++ " at " ++ toString e.position.line ++ ":" ++
    toString e.position.column

namespace MachineError

def message : MachineError → String
  | stackUnderflow => "Stack underflow"
  | incompatibleUnits u => "Incompatible units: " ++ u.text
  | divisionByZero => "Division by zero"
  | undefinedVariable name => "Undefined variable: " ++ name
  | unsupportedOperator op => "Unsupported operator: " ++ op.char.toString
  | invalidNumber text => "Invalid number: " ++ text
  | invalidUnit text => "Invalid unit: (" ++ text ++ ")"
  | overflow => "Overflow"
  | exponentTooLong => (Quantity.ShowError.exponentTooLong.fault).text
  | invalidCharacter e => e.message

/-- An exponent too long to be written is no fault of the text that led to it. -/
def kind : MachineError → Fault.Kind
  | exponentTooLong => .value
  | _ => .engine

def fault (e : MachineError) : Fault := ⟨e.kind, some e.message⟩

def ofShow : Quantity.ShowError → MachineError
  | .overflow => overflow
  | .exponentTooLong => exponentTooLong

/-- Two units that should agree and do not; the message names the one that was there first. -/
def mismatch (u : Units) : MachineError :=
  if u.isWritable then incompatibleUnits u else exponentTooLong

end MachineError

/-- What a machine prints: one value, or the whole stack from its bottom. -/
inductive Printout
  | one (r : Result)
  | all (rs : List Result)
  deriving DecidableEq

/-- The stack machine. It carries out a text token by token; a token that fails ends the run, and
the state it leaves is kept. The stack has its top first; `memory` lists each variable once; what is
printed goes nowhere unless someone is listening. -/
@[ext] structure Machine where
  stack : List Quantity
  memory : List (String × Quantity)
  listening : Bool
  deriving DecidableEq

/-- What a piece of text leaves behind: the machine, what was printed, and why it stopped early. -/
@[ext] structure Outcome where
  machine : Machine
  printed : List Printout
  error : Option MachineError
  deriving DecidableEq

namespace Outcome

def done (m : Machine) : Outcome := ⟨m, [], none⟩

def failed (m : Machine) (e : MachineError) : Outcome := ⟨m, [], some e⟩

/-- Goes on with `next` unless the run has stopped. -/
def andThen (o : Outcome) (next : Machine → Outcome) : Outcome :=
  match o.error with
  | some _ => o
  | none =>
    let rest := next o.machine
    ⟨rest.machine, o.printed ++ rest.printed, rest.error⟩

end Outcome

namespace Machine

def empty : Machine := ⟨[], [], false⟩

/-- What a machine prints, as far as it is heard. -/
def heard (m : Machine) (p : Printout) : List Printout := if m.listening then [p] else []

/-- The variables with one of them given a value; a new one comes last. -/
def assign (name : String) (q : Quantity) : List (String × Quantity) → List (String × Quantity)
  | [] => [(name, q)]
  | v :: vs => if v.1 = name then (name, q) :: vs else v :: assign name q vs

def withStack (m : Machine) (stack : List Quantity) : Machine := { m with stack := stack }

/-- Gives the top value a unit, or checks the unit it has; the unit `1` takes it away. A text that
writes no unit costs the value it was to annotate. -/
def annotate (m : Machine) (text : String) : Outcome :=
  match m.stack with
  | [] => .failed m .stackUnderflow
  | q :: rest =>
    match Units.ofText? text with
    | none => .failed (m.withStack rest) (.invalidUnit text)
    | some u =>
      if u = .one then .done (m.withStack (⟨q.number, .one⟩ :: rest))
      else if q.unit = .one then .done (m.withStack (⟨q.number, u⟩ :: rest))
      else if q.unit.same u then .done m
      else .failed m (.mismatch q.unit)

/-- Replaces the top two values by `f lower top`. -/
def combineTop (m : Machine) (f : Quantity → Quantity → Except MachineError Quantity) : Outcome :=
  match m.stack with
  | top :: lower :: rest =>
    match f lower top with
    | .ok q => .done (m.withStack (q :: rest))
    | .error e => .failed m e
  | _ => .failed m .stackUnderflow

/-- A sum or difference, which needs one unit on both sides. -/
def ifSameUnit (f : Quantity → Quantity → Quantity) (x y : Quantity) :
    Except MachineError Quantity :=
  if x.unit.same y.unit then .ok (f x y) else .error (.mismatch x.unit)

def quotient (x y : Quantity) : Except MachineError Quantity :=
  if y.number = 0 then .error .divisionByZero else .ok (x.dividedBy y)

/-- Prints the top value and leaves the machine as `after`, whether or not it can be shown. -/
def printTop (q : Quantity) (after : Machine) : Outcome :=
  match q.result with
  | .ok r => ⟨after, after.heard (.one r), none⟩
  | .error e => .failed after (.ofShow e)

def carryOut (m : Machine) : Operator → Outcome
  | .add => m.combineTop (ifSameUnit Quantity.plus)
  | .subtract => m.combineTop (ifSameUnit Quantity.minus)
  | .multiply => m.combineTop fun x y => .ok (x.times y)
  | .divide => m.combineTop quotient
  | .print =>
    match m.stack with
    | [] => .failed m .stackUnderflow
    | q :: _ => printTop q m
  | .take =>
    match m.stack with
    | [] => .failed m .stackUnderflow
    | q :: rest => printTop q (m.withStack rest)
  | .list =>
    match m.stack.reverse.mapM Quantity.result with
    | .ok rs => ⟨m, m.heard (.all rs), none⟩
    | .error e => .failed m (.ofShow e)
  | .clear => .done (m.withStack [])
  | .duplicate =>
    match m.stack with
    | [] => .failed m .stackUnderflow
    | q :: rest => .done (m.withStack (q :: q :: rest))
  | .swap =>
    match m.stack with
    | top :: lower :: rest => .done (m.withStack (lower :: top :: rest))
    | _ => .failed m .stackUnderflow
  | op => .failed m (.unsupportedOperator op)

def step (m : Machine) : Lexeme → Outcome
  | .number text =>
    match number? text with
    | some n => .done (m.withStack (.pure n :: m.stack))
    | none => .failed m (.invalidNumber text)
  | .unit text => m.annotate text
  | .store name =>
    match m.stack with
    | [] => .failed m .stackUnderflow
    | q :: rest => .done { m with stack := rest, memory := assign name q m.memory }
  | .load name =>
    match m.memory.lookup name with
    | none => .failed m (.undefinedVariable name)
    | some q => .done (m.withStack (q :: m.stack))
  | .operator op => m.carryOut op

/-- The tokens in order, up to the first that fails. -/
def runTokens (m : Machine) : List Lexeme → Outcome
  | [] => .done m
  | t :: ts => (m.step t).andThen fun m => m.runTokens ts

/-- A whole text. A place that fits no token counts once the tokens before it are carried out. -/
def run (m : Machine) (text : String) : Outcome :=
  let lexed := lex text
  (m.runTokens (lexed.tokens.map (·.lexeme))).andThen fun m =>
    match lexed.error with
    | none => .done m
    | some e => .failed m (.invalidCharacter e)

end Machine

end DeskCalc
