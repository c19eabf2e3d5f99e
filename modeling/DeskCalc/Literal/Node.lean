namespace DeskCalc.Literal

/-- Written values and expressions as trees. Only what tells values from expressions is kept, and
what mistakes in them are described by. -/
inductive Node
  /-- A sign or keyword that carries no value. -/
  | word (spelling : String)
  | name (spelling : String)
  /-- A value that is a word or sign of its own. -/
  | constant (spelling : String)
  | whole (n : Nat)
  | real
  | imaginary
  | text
  | bytes
  /-- A text with expressions in it. -/
  | formatted
  | tuple (items : List Node)
  | set (items : List Node)
  | dict (entries : List Node)
  /-- An entry of a dictionary, without a key if it stands for a whole dictionary. -/
  | entry (key : Option Node) (value : Node)
  | starred (value : Node)
  | member (object : Node)
  | call (function : Node) (arguments : Node)
  /-- The arguments of a call: those by position, then those by name. -/
  | arguments (positional : List Node) (named : List Node)
  /-- An argument by name, or without one a dictionary of such arguments. -/
  | argument (isNamed : Bool)
  | unary (sign : String) (operand : Node)
  | binary (sign : String) (left right : Node)
  | comparison (left : Node) (sign : String)
  /-- Any other expression, by its description. -/
  | other (description : String)
  /-- What a repeated part of a rule has read. -/
  | list (items : List Node)

namespace Node

def nothing : Node := list []

def items : Node → List Node
  | list items => items
  | _ => []

/-- How a message names an expression. -/
def description : Node → String
  | name _ => "name"
  | constant spelling => if spelling = "..." then "ellipsis" else spelling
  | formatted => "f-string expression"
  | tuple _ => "tuple"
  | set _ => "set display"
  | dict _ => "dict literal"
  | starred _ => "starred"
  | member _ => "attribute"
  | call .. => "function call"
  | unary .. | binary .. => "expression"
  | comparison .. => "comparison"
  | other description => description
  | _ => "literal"

/-- Whether a name is that of a statement which looks like a call without brackets. -/
def isStatement : Node → Bool
  | name spelling => spelling = "print" || spelling = "exec"
  | _ => false

mutual

/-- The part of an expression that a loop cannot assign to. -/
def unassignable? : Node → Option Node
  | tuple items => firstUnassignable? items
  | starred value => unassignable? value
  | comparison left sign => if sign = "in" then unassignable? left else none
  | name _ | member _ => none
  | n => some n

def firstUnassignable? : List Node → Option Node
  | [] => none
  | n :: ns => (unassignable? n).or (firstUnassignable? ns)

end

end Node

end DeskCalc.Literal
