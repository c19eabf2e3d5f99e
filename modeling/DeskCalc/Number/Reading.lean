import DeskCalc.Number.Double
import DeskCalc.Number.Numeral
import DeskCalc.Text.Quoted

namespace DeskCalc

open Text

namespace Reading

/-- Blanks that may stand around the text. Unlike around a numeral, the four information separators
do not. -/
def isPadding (c : Char) : Bool := isBlank c && !(0x1c ≤ c.toNat && c.toNat ≤ 0x1f)

/-- Without the `_` between digits, nothing if one stands elsewhere; a numeral may hold it anywhere.
`afterDigit` says whether the text follows a digit. -/
def ungrouped? (afterDigit : Bool) : List Char → Option (List Char)
  | [] => some []
  | '_' :: rest => if afterDigit && rest.head?.any isDigit then ungrouped? false rest else none
  | c :: rest => (ungrouped? (isDigit c) rest).map (c :: ·)

inductive IntegerError
  | malformed (text : String)
  | tooLong (digits : Nat)
  deriving DecidableEq

/-- The part of a quoted text that a message has room for. -/
def clipped (s : String) : String := .ofList ((quoted s).toList.take 200)

def IntegerError.message : IntegerError → String
  | malformed text => "invalid literal for int() with base 10: " ++ clipped text
  | tooLong digits =>
    "Exceeds the limit (4300 digits) for integer string conversion: value has " ++
      toString digits ++ " digits; use sys.set_int_max_str_digits() to increase the limit"

/-- The whole number that a text writes: a sign and one run of digits. -/
def integer (text : String) : Except IntegerError Int :=
  let (negative, body) := Numeral.takeSign (trimmed isPadding text.toList)
  let inRun (c : Char) : Bool := isDigit c || c = '_'
  match ungrouped? false (body.takeWhile inRun) with
  | none => .error (.malformed text)
  | some digits =>
    if digitLimit < digits.length then .error (.tooLong digits.length)
    else if digits = [] ∨ body.dropWhile inRun ≠ [] then .error (.malformed text)
    else .ok (if negative then -(digitsValue digits) else digitsValue digits)

/-- The double nearest to `± n · 10 ^ k`. Beyond 400 places it is infinite or zero. -/
def decimalDouble (negative : Bool) (n : Nat) (k : Int) : Double :=
  let order := (Nat.toDigits 10 n).length + k
  if n = 0 ∨ order < -400 then .nearest negative 0 1
  else if 400 < order then .infinite negative
  else .nearest negative (n * Nat.pow 10 k.toNat) (Nat.pow 10 (-k).toNat)

/-- The names of the doubles that are not finite. -/
def namedDouble? (negative : Bool) (word : String) : Option Double :=
  if word = "inf" ∨ word = "infinity" then some (.infinite negative)
  else if word = "nan" then some .nan
  else none

/-- The double that a text writes: a decimal, or one of the names in either case. -/
def double? (text : String) : Option Double := do
  let body ← ungrouped? false (trimmed isPadding text.toList)
  let (negative, rest) := Numeral.takeSign body
  match namedDouble? negative (.ofList (rest.map Char.toLower)) with
  | some x => some x
  | none =>
    match Numeral.decimal? negative rest with
    | some (.decimal negative whole fraction exponentNegative exponent) =>
      let k : Int := digitsValue exponent
      some (decimalDouble negative (digitsValue (whole ++ fraction))
        ((if exponentNegative then -k else k) - fraction.length))
    | _ => none

end Reading

end DeskCalc
