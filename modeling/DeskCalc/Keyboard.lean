namespace DeskCalc

/-- The classes of tokens that keys insert. -/
inductive TokenClass
  | operator
  | number
  | unit
  deriving DecidableEq

namespace TokenClass

def name : TokenClass → String
  | operator => "operator"
  | number => "literal_num"
  | unit => "unit"

def ofName? (name : String) : Option TokenClass :=
  [operator, number, unit].find? (·.name = name)

end TokenClass

/-- What keys do to the active cell apart from inserting tokens. -/
inductive Action
  | space
  | newline
  | backspace
  | clear
  | submit
  deriving DecidableEq

namespace Action

def name : Action → String
  | space => "append_space"
  | newline => "append_newline"
  | backspace => "backspace"
  | clear => "clear"
  | submit => "submit"

def ofName? (name : String) : Option Action :=
  [space, newline, backspace, clear, submit].find? (·.name = name)

end Action

/-- The prefixes that can be put in front of a unit. -/
inductive Modifier
  | kilo
  | centi
  | deci
  | milli
  | micro
  | nano
  deriving DecidableEq

namespace Modifier

def symbol : Modifier → String
  | kilo => "k"
  | centi => "c"
  | deci => "d"
  | milli => "m"
  | micro => "u"
  | nano => "n"

/-- In keyboard order. -/
def all : List Modifier := [kilo, centi, deci, milli, micro, nano]

def ofSymbol? (symbol : String) : Option Modifier := all.find? (·.symbol = symbol)

end Modifier

/-- What a key does. -/
inductive Stroke
  | token (token : String) (cls : TokenClass)
  | action (action : Action)
  | modifier (m : Modifier)
  deriving DecidableEq

structure Key where
  label : String
  stroke : Stroke
  deriving DecidableEq

namespace Key

def operator (token : String) : Key := ⟨token, .token token .operator⟩

def number (token : String) : Key := ⟨token, .token token .number⟩

def unit (token : String) : Key := ⟨"(" ++ token ++ ")", .token token .unit⟩

def modifier (m : Modifier) : Key := ⟨"(" ++ m.symbol ++ "*)", .modifier m⟩

def action (label : String) (a : Action) : Key := ⟨label, .action a⟩

end Key

namespace Keyboard

/-- The columns from left to right, each from top to bottom. -/
def layout : List (List Key) :=
  [.operator "c" :: [.kilo, .centi, .deci].map Key.modifier ++ [.action "␣" .space],
    .operator "d" :: [.milli, .micro, .nano].map Key.modifier ++ [.action "←" .backspace],
    .operator "v" :: ["7", "4", "1", "."].map Key.number,
    .operator "p" :: ["8", "5", "2", "0"].map Key.number,
    .operator "n" :: ["9", "6", "3", "e"].map Key.number ++ [.action "↩" .newline],
    ["f", "+", "-", "*", "/"].map Key.operator ++ [.action "✓" .submit],
    [.operator "r", .operator "s"] ++ ["1", "g", "l", "iu"].map Key.unit,
    [.action "CLR" .clear, .operator "U"] ++ ["m", "mol", "M", "Da"].map Key.unit]

def find? (label : String) : Option Key := layout.flatten.find? (·.label = label)

end Keyboard

end DeskCalc
