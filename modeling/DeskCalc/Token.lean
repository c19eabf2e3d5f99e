namespace DeskCalc

/-- The operator letters. The last three are read but no machine carries them out. -/
inductive Operator
  | add
  | subtract
  | multiply
  | divide
  | print
  | take
  | list
  | clear
  | duplicate
  | swap
  | reservedS
  | reservedU
  | reservedV
  deriving DecidableEq

namespace Operator

def char : Operator → Char
  | add => '+'
  | subtract => '-'
  | multiply => '*'
  | divide => '/'
  | print => 'p'
  | take => 'n'
  | list => 'f'
  | clear => 'c'
  | duplicate => 'd'
  | swap => 'r'
  | reservedS => 's'
  | reservedU => 'U'
  | reservedV => 'v'

def all : List Operator :=
  [add, subtract, multiply, divide, print, take, list, clear, duplicate, swap, reservedS,
    reservedU, reservedV]

def ofChar? (c : Char) : Option Operator := all.find? (·.char = c)

end Operator

/-- What a token says. -/
inductive Lexeme
  | number (text : String)
  | unit (text : String)
  | store (name : String)
  | load (name : String)
  | operator (op : Operator)
  deriving DecidableEq

namespace Lexeme

/-- The token as it stands in a text. -/
def spelling : Lexeme → List Char
  | number text => text.toList
  | unit text => '(' :: text.toList ++ [')']
  | store name => '>' :: name.toList
  | load name => '<' :: name.toList
  | operator op => [op.char]

def className : Lexeme → String
  | number _ => "number"
  | unit _ => "unit"
  | store _ => "store"
  | load _ => "recall"
  | operator _ => "op"

/-- What the token carries beside its class. -/
def text : Lexeme → String
  | number text => text
  | unit text => text
  | store name => name
  | load name => name
  | operator op => op.char.toString

end Lexeme

/-- A place in a text, lines and columns counted from one. -/
@[ext] structure Position where
  line : Nat
  column : Nat
  deriving DecidableEq

namespace Position

def start : Position := ⟨1, 1⟩

def next (p : Position) (c : Char) : Position :=
  if c = '\n' then ⟨p.line + 1, 1⟩ else ⟨p.line, p.column + 1⟩

/-- The place after a piece of text that begins at `p`. -/
def past (p : Position) (cs : List Char) : Position := cs.foldl next p

end Position

structure Token where
  lexeme : Lexeme
  position : Position
  deriving DecidableEq

end DeskCalc
