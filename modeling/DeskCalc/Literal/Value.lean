import DeskCalc.Literal.Quotation
import DeskCalc.Number.Double

namespace DeskCalc.Literal

inductive Error
  /-- It does not fit the grammar. -/
  | unreadable (message : String)
  | nullCharacter
  /-- It is an expression other than a value. -/
  | noValue
  | noKey
  /-- A set or dictionary stands where a value is looked up. -/
  | unhashable (kind : String)
  | tooLarge
  deriving DecidableEq

def Error.message : Error → String
  | unreadable message => message
  | nullCharacter => "source code string cannot contain null bytes"
  | noValue => "malformed node or string"
  | noKey => "malformed node or string: None"
  | unhashable kind => "unhashable type: '" ++ kind ++ "'"
  | tooLarge => "int too large to convert to float"

namespace Node

def isNumber : Node → Bool
  | whole _ | real | imaginary => true
  | _ => false

def isSigned : Node → Bool
  | unary sign operand => (sign = "+" || sign = "-") && operand.isNumber
  | n => n.isNumber

def unsigned : Node → Node
  | unary _ operand => operand
  | n => n

/-- A complex number: a sum or difference of a real and an imaginary part. -/
def complex (left right : Node) : Except Error Unit :=
  if !left.isSigned || !right.isNumber then .error .noValue
  else
    match left.unsigned, right with
    | whole n, imaginary => if (Double.ofRat? n).isSome then .ok () else .error .tooLarge
    | real, imaginary => .ok ()
    | _, _ => .error .noValue

mutual

/-- The first part of a value that cannot be looked up. -/
def unhashable? : Node → Option String
  | tuple items => firstUnhashable? items
  | set _ | call .. => some "set"
  | dict _ => some "dict"
  | _ => none

def firstUnhashable? : List Node → Option String
  | [] => none
  | n :: ns => (unhashable? n).or (firstUnhashable? ns)

end

def lookedUp (n : Node) : Except Error Unit :=
  match n.unhashable? with
  | some kind => .error (.unhashable kind)
  | none => .ok ()

mutual

/-- Checks that an expression is a value. -/
def value : Node → Except Error Unit
  | constant _ | text | bytes | whole _ | real | imaginary => .ok ()
  | tuple items => values items
  | set items => members items
  | dict entries => entryValues entries
  | call (name "set") (list []) => .ok ()
  | unary sign operand =>
    if (sign = "+" || sign = "-") && operand.isNumber then .ok () else .error .noValue
  | binary sign left right =>
    if sign = "+" || sign = "-" then left.complex right else .error .noValue
  | _ => .error .noValue

def values : List Node → Except Error Unit
  | [] => .ok ()
  | n :: ns => do
    value n
    values ns

/-- Each member of a set is looked up as it is added. -/
def members : List Node → Except Error Unit
  | [] => .ok ()
  | n :: ns => do
    value n
    n.lookedUp
    members ns

def entryValues : List Node → Except Error Unit
  | [] => .ok ()
  | entry (some key) v :: ns => do
    value key
    value v
    key.lookedUp
    entryValues ns
  | _ :: _ => .error .noKey

end

end Node

def read (text : List Char) : Except Verdict Node :=
  Parser.read ⟨tokensOf (text.dropWhile fun c => c = ' ' || c = '\t') 1,
    Quotation.texts (text.length + 1)⟩ .whole

/-- Checks that a text writes a value: a number, a text, a constant, or a tuple, set or dictionary
of them. Anything else that the grammar admits is an expression and no value. -/
def check (text : List Char) : Except Error Unit :=
  if text.contains '\x00' then .error .nullCharacter
  else
    match read text with
    | .error v => .error (.unreadable v.message)
    | .ok n => n.value

end DeskCalc.Literal
