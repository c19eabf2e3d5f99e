import DeskCalc.Number.Double

namespace DeskCalc.Double

/-- Whether `10 ^ k ≤ n / d`. -/
def reaches (n d : Nat) (k : Int) : Bool := d * Nat.pow 10 k.toNat ≤ n * Nat.pow 10 (-k).toNat

/-- The decimal order of a positive finite double's value `n / d`: the power of ten of its first
significant digit. For orders of doubles the multiple of the binary order is at most one off. -/
def decimalOrder (n d : Nat) : Int :=
  let k := (binaryOrder n d * 30103).fdiv 100000
  if !reaches n d k then k - 1 else if reaches n d (k + 1) then k + 1 else k

/-- The rounding interval of a positive double, all over one denominator: its lower end, value and
upper end, and whether the ends belong to it. Below a power of two the gap is half as wide. -/
structure Interval where
  low : Nat
  value : Nat
  high : Nat
  denominator : Nat
  closed : Bool

def interval (m : Nat) (e : Int) : Interval :=
  let below := if m = Nat.pow 2 52 ∧ leastExponent < e then 1 else 2
  let (unit, denominator) := scaled 1 (e - 2)
  ⟨(4 * m - below) * unit, 4 * m * unit, (4 * m + 2) * unit, denominator, m % 2 = 0⟩

/-- Whether `n / d` lies in the interval. -/
def Interval.holds (i : Interval) (n d : Nat) : Bool :=
  let x := n * i.denominator
  if i.closed then i.low * d ≤ x && x ≤ i.high * d else i.low * d < x && x < i.high * d

/-- The multiple of `10 ^ k` in the interval that is nearest to the value, if one of the two
around the value is in it. -/
def Interval.onGrid (i : Interval) (k : Int) : Option Nat :=
  let up := Nat.pow 10 k.toNat
  let down := Nat.pow 10 (-k).toNat
  let floor := i.value * down / (i.denominator * up)
  let rest := i.value * down % (i.denominator * up)
  match i.holds (floor * up) down, i.holds ((floor + 1) * up) down with
  | true, true =>
    if 2 * rest < i.denominator * up ∨ 2 * rest = i.denominator * up ∧ floor % 2 = 0 then some floor
    else some (floor + 1)
  | true, false => some floor
  | false, true => some (floor + 1)
  | false, false => none

/-- Significant digits `d₁d₂…` and the power of ten of the first: the number `d₁.d₂… · 10 ^ order`. -/
structure Digits where
  digits : List Char
  order : Int

/-- The digits of the coarsest decimal grid that has a point in the interval, from `count` digits
upwards; seventeen always suffice. -/
def coarsest (i : Interval) (order : Int) : (fuel count : Nat) → Digits
  | 0, _ => ⟨[], 0⟩
  | fuel + 1, count =>
    let k := order + 1 - count
    match i.onGrid k with
    | some n =>
      let digits := Nat.toDigits 10 n
      ⟨digits, k + digits.length - 1⟩
    | none => coarsest i order fuel (count + 1)

/-- Without the zeros at its end. -/
def Digits.normalized (d : Digits) : Digits :=
  { d with digits := (d.digits.reverse.dropWhile (· = '0')).reverse }

/-- The fewest significant digits that read back as the same double, and of those the nearest. -/
def shortest (m : Nat) (e : Int) : Digits :=
  let i := interval m e
  (coarsest i (decimalOrder i.value i.denominator) 17 1).normalized

/-- Digits are written with a point from order -4 up to order 15, and with an exponent of at least
two digits beyond; a number always shows a point or an exponent. -/
def Digits.text (d : Digits) : List Char :=
  let count := d.digits.length
  if -4 ≤ d.order ∧ d.order < 0 then
    '0' :: '.' :: List.replicate (-d.order - 1).toNat '0' ++ d.digits
  else if 0 ≤ d.order ∧ d.order < 16 then
    let whole := d.order.toNat + 1
    if count ≤ whole then d.digits ++ List.replicate (whole - count) '0' ++ ['.', '0']
    else d.digits.take whole ++ '.' :: d.digits.drop whole
  else
    let fraction := if count = 1 then [] else '.' :: d.digits.drop 1
    let exponent := Nat.toDigits 10 d.order.natAbs
    d.digits.take 1 ++ fraction ++ 'e' :: (if d.order < 0 then '-' else '+') ::
      (if exponent.length = 1 then '0' :: exponent else exponent)

/-- The sign shows on a negative zero too; a number that is none has no sign. -/
def text : Double → String
  | nan => "nan"
  | infinite negative => if negative then "-inf" else "inf"
  | finite negative m e =>
    let digits := if m = 0 then ['0', '.', '0'] else (shortest m e).text
    .ofList (if negative then '-' :: digits else digits)

end DeskCalc.Double
