import DeskCalc.Text.Character

namespace DeskCalc

open Text

/-- A numeral as written: a ratio `N/D` or a decimal `I.FeX`, with an optional sign. Each of its
runs of digits is a list of decimal digits of any script, and an empty exponent is one that is not
there. -/
inductive Numeral
  | ratio (negative : Bool) (numerator denominator : List Char)
  | decimal (negative : Bool) (whole fraction : List Char) (exponentNegative : Bool)
      (exponent : List Char)
  deriving DecidableEq

namespace Numeral

/-- An optional sign: whether it is a minus, and what follows it. -/
def takeSign : List Char → Bool × List Char
  | '-' :: rest => (true, rest)
  | '+' :: rest => (false, rest)
  | rest => (false, rest)

def takeFraction : List Char → List Char × List Char
  | '.' :: rest => (rest.takeWhile isDigit, rest.dropWhile isDigit)
  | rest => ([], rest)

/-- An exponent that ends the text, or the end of the text. -/
def exponent? : List Char → Option (Bool × List Char)
  | [] => some (false, [])
  | c :: rest =>
    let (negative, digits) := takeSign rest
    if (c = 'e' ∨ c = 'E') ∧ digits ≠ [] ∧ digits.all isDigit then some (negative, digits) else none

/-- The decimal after a sign: digits before the point or after it, or both, and an exponent. -/
def decimal? (negative : Bool) (text : List Char) : Option Numeral :=
  let whole := text.takeWhile isDigit
  let (fraction, rest) := takeFraction (text.dropWhile isDigit)
  if whole = [] ∧ fraction = [] then none
  else (exponent? rest).map fun (exponentNegative, exponent) =>
    .decimal negative whole fraction exponentNegative exponent

/-- The ratio after a sign: two runs of digits with a slash between them. -/
def ratio? (negative : Bool) (text : List Char) : Option Numeral :=
  let numerator := text.takeWhile isDigit
  match text.dropWhile isDigit with
  | '/' :: denominator =>
    if numerator ≠ [] ∧ denominator ≠ [] ∧ denominator.all isDigit then
      some (.ratio negative numerator denominator)
    else none
  | _ => none

/-- The numeral that a text without blanks writes. -/
def ofText? (text : List Char) : Option Numeral :=
  let (negative, rest) := takeSign text
  (ratio? negative rest).or (decimal? negative rest)

def signed (negative : Bool) (q : Rat) : Rat := if negative then -q else q

/-- `n · 10 ^ k`, for an exponent given by its sign and its size. -/
def shifted (n : Rat) (negative : Bool) (k : Nat) : Rat :=
  if negative then n / (Nat.pow 10 k : Nat) else n * (Nat.pow 10 k : Nat)

/-- The exact value, nothing for a denominator of zero or a run of digits above the limit. -/
def value? : Numeral → Option Rat
  | ratio negative numerator denominator =>
    if numerator.length ≤ digitLimit ∧ denominator.length ≤ digitLimit ∧
        digitsValue denominator ≠ 0 then
      some (signed negative (mkRat (digitsValue numerator) (digitsValue denominator)))
    else none
  | decimal negative whole fraction exponentNegative exponent =>
    if whole.length ≤ digitLimit ∧ fraction.length ≤ digitLimit ∧ exponent.length ≤ digitLimit then
      let mantissa := mkRat (digitsValue (whole ++ fraction)) (Nat.pow 10 fraction.length)
      some (signed negative (shifted mantissa exponentNegative (digitsValue exponent)))
    else none

end Numeral

/-- The exact number that a text writes: a numeral with blanks around it, in which `_` separates
digits for the eye and means nothing. -/
def number? (text : String) : Option Rat :=
  (Numeral.ofText? (trimmed isBlank (text.toList.filter (· ≠ '_')))).bind Numeral.value?

end DeskCalc
