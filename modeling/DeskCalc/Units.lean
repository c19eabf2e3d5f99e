import DeskCalc.Text.Character

namespace DeskCalc

/-- One factor of a unit: a symbol to a power. -/
structure Factor where
  symbol : String
  exponent : Int
  deriving DecidableEq

/-- A unit as a product of powers. It lists its factors in the order in which they first came up; as
a map from symbols to exponents that order means nothing. -/
@[ext] structure Units where
  factors : List Factor
  deriving DecidableEq

namespace Units

/-- The unit of a pure number. -/
def one : Units := ⟨[]⟩

/-- The power of a symbol, zero for one that is not listed. -/
def exponent (u : Units) (symbol : String) : Int :=
  ((u.factors.find? (·.symbol = symbol)).map (·.exponent)).getD 0

/-- A list of factors with `e` more of one symbol, which keeps its place or comes last. -/
def bump (symbol : String) (e : Int) : List Factor → List Factor
  | [] => [⟨symbol, e⟩]
  | f :: fs => if f.symbol = symbol then ⟨symbol, f.exponent + e⟩ :: fs else f :: bump symbol e fs

/-- The unit of a list of factors, without those of power zero. -/
def reduced (fs : List Factor) : Units := ⟨fs.filter (·.exponent ≠ 0)⟩

/-- The unit that assigns each symbol the last of its exponents in the list, in the order of first
mention. -/
def assigning (fs : List Factor) : Units :=
  ⟨fs.foldl (fun done f =>
    if done.any (·.symbol = f.symbol) then done.map fun g => if g.symbol = f.symbol then f else g
    else done ++ [f]) []⟩

/-- Equality as maps, for units that list no symbol twice. -/
def same (u v : Units) : Bool :=
  u.factors.length = v.factors.length && u.factors.all (v.factors.contains ·)

/-- `u · v ^ sign`: a product for sign 1 and a quotient for sign -1. -/
def combine (u v : Units) (sign : Int) : Units :=
  reduced (v.factors.foldl (fun fs f => bump f.symbol (sign * f.exponent) fs) u.factors)

def isSeparator (c : Char) : Bool := c = '*' || c = '/'

/-- The symbol at the front of a text. -/
def symbolOf (cs : List Char) : List Char := cs.takeWhile (!isSeparator ·)

/-- What follows that symbol. -/
def afterSymbol (cs : List Char) : List Char := cs.dropWhile (!isSeparator ·)

theorem afterSymbol_length (cs : List Char) : (afterSymbol cs).length ≤ cs.length :=
  (List.dropWhile_suffix _).length_le

/-- A factor after a slash is divided by. -/
def signAfter (separator : Char) : Int := if separator = '/' then -1 else 1

/-- `fs` with the factors that a text lists, the first of them to the power `sign`; nothing if one
of them is empty. The symbol `1` stands for no factor. -/
def gather (fs : List Factor) (sign : Int) (cs : List Char) : Option (List Factor) :=
  let symbol := symbolOf cs
  if symbol = [] then none
  else
    let fs := if symbol = ['1'] then fs else bump (.ofList symbol) sign fs
    match _h : afterSymbol cs with
    | [] => some fs
    | separator :: rest => gather fs (signAfter separator) rest
termination_by cs.length
decreasing_by
  have := afterSymbol_length cs
  simp only [_h, List.length_cons] at this
  omega

/-- The unit that a text such as `a*b/c` writes. -/
def ofText? (text : String) : Option Units := (gather [] 1 text.toList).map reduced

/-- A factor as it is shown: `m`, or `(m^2)` to a power other than one. -/
def factorText (f : Factor) : String :=
  if f.exponent = 1 then f.symbol else "(" ++ f.symbol ++ "^" ++ toString f.exponent ++ ")"

/-- The factors in the order of show: higher powers first, equal ones as listed. -/
def ordered (u : Units) : List Factor :=
  (reduced u.factors).factors.mergeSort fun f g => g.exponent ≤ f.exponent

def text (u : Units) : String :=
  match u.ordered with
  | [] => "1"
  | fs => String.join (fs.map factorText)

/-- Whether each exponent has few enough digits to be written. -/
def isWritable (u : Units) : Bool := u.factors.all (·.exponent.natAbs < Nat.pow 10 Text.digitLimit)

end Units

end DeskCalc
