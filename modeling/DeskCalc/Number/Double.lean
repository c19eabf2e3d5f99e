namespace DeskCalc

/-- A number of double precision, as data, so that rounding and printing are exact arithmetic on
whole numbers. A finite one is `± mantissa · 2 ^ exponent` in the form that `Double.nearest` gives
it: `mantissa < 2 ^ 53`, `exponent ≥ -1074`, and the mantissa has all its 53 bits unless the
exponent is the least. -/
inductive Double
  | nan
  | infinite (negative : Bool)
  | finite (negative : Bool) (mantissa : Nat) (exponent : Int)
  deriving DecidableEq

namespace Double

def leastExponent : Int := -1074

def greatestExponent : Int := 971

/-- The whole number nearest to `n / d`; a half goes to the even neighbour. -/
def roundQuotient (n d : Nat) : Nat :=
  let q := n / d
  let twice := 2 * (n % d)
  if twice < d then q else if d < twice then q + 1 else q + q % 2

/-- `n · 2 ^ k` as a numerator and a denominator, so that `k` may be negative. -/
def scaled (n : Nat) (k : Int) : Nat × Nat := (n * Nat.pow 2 k.toNat, Nat.pow 2 (-k).toNat)

/-- The exponent `l` with `2 ^ l ≤ n / d < 2 ^ (l + 1)`, for positive `n` and `d`. -/
def binaryOrder (n d : Nat) : Int :=
  let l := (n.log2 : Int) - d.log2
  if d * Nat.pow 2 l.toNat ≤ n * Nat.pow 2 (-l).toNat then l else l - 1

/-- The double nearest to `± n / d`, for positive `d`; a tie goes to the even mantissa, and what is
too large for a finite double becomes infinite. -/
def nearest (negative : Bool) (n d : Nat) : Double :=
  if n = 0 then finite negative 0 leastExponent
  else
    let e := max (binaryOrder n d - 52) leastExponent
    let m := roundQuotient (n * Nat.pow 2 (-e).toNat) (d * Nat.pow 2 e.toNat)
    let (m, e) := if m = Nat.pow 2 53 then (Nat.pow 2 52, e + 1) else (m, e)
    if greatestExponent < e then infinite negative else finite negative m e

def isFinite : Double → Bool
  | finite .. => true
  | _ => false

def isNaN : Double → Bool
  | nan => true
  | _ => false

/-- The nearest double of an exact number, nothing where that is too large. -/
def ofRat? (q : Rat) : Option Double :=
  let x := nearest (q.num < 0) q.num.natAbs q.den
  if x.isFinite then some x else none

def toRat? : Double → Option Rat
  | finite negative m e =>
    let (n, d) := scaled m e
    some (mkRat (if negative then -n else n) d)
  | _ => none

/-- A finite double without its fraction. -/
def truncate? : Double → Option Int
  | finite negative m e =>
    let (n, d) := scaled m e
    some (if negative then -(n / d : Nat) else (n / d : Nat))
  | _ => none

end Double

end DeskCalc
