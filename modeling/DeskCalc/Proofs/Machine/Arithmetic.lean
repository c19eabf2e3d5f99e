import DeskCalc.Proofs.Machine.Run
import DeskCalc.Proofs.Units
import Mathlib.Algebra.Field.Rat

namespace DeskCalc

/-- Equal numbers with units that agree. -/
structure Quantity.Same (x y : Quantity) : Prop where
  number : x.number = y.number
  unit : x.unit.Agree y.unit

/-- What is to be calculated: the operands of an operator first, then the operator. -/
inductive Calculation
  | value (q : Quantity)
  | apply (op : Operator) (lower top : Calculation)

namespace Calculation

instance : Add Calculation := ⟨apply .add⟩

instance : Sub Calculation := ⟨apply .subtract⟩

instance : Mul Calculation := ⟨apply .multiply⟩

instance : Div Calculation := ⟨apply .divide⟩

/-- A given value is put on the stack, and an operator is a token that is carried out. -/
def run (m : Machine) : Calculation → Outcome
  | value q => .done (m.withStack (q :: m.stack))
  | apply op lower top =>
    ((lower.run m).andThen fun m => top.run m).andThen (·.step (.operator op))

/-- On every machine the calculation succeeds, prints nothing and leaves one more value on the
stack and all else as it was. -/
def Yields (c : Calculation) (q : Quantity) : Prop :=
  ∀ m : Machine, c.run m = .done (m.withStack (q :: m.stack))

/-- Both calculations succeed, and with the same result. -/
def Agree (c d : Calculation) : Prop := ∃ p q, c.Yields p ∧ d.Yields q ∧ p.Same q

variable {c d : Calculation} {x y z q : Quantity}

theorem yields_value (q : Quantity) : (value q).Yields q := fun _ => rfl

/-- An operator on two calculations works on what they yield. -/
theorem Yields.apply {op : Operator}
    (h : ∀ (m : Machine) (rest : List Quantity),
      (m.withStack (y :: x :: rest)).carryOut op = .done (m.withStack (q :: rest)))
    (hc : c.Yields x) (hd : d.Yields y) : (Calculation.apply op c d).Yields q := by
  intro m
  have hlower : (c.run m).error = none := by rw [hc]; rfl
  have hboth : (c.run m).andThen (fun m => d.run m) =
      .done (m.withStack (y :: x :: m.stack)) := by
    rw [Outcome.andThen_going hlower, hc, hd]
    rfl
  rw [run, hboth, Outcome.andThen_going rfl]
  exact h m m.stack

theorem Yields.mul (hc : c.Yields x) (hd : d.Yields y) : (c * d).Yields (x.times y) :=
  .apply (fun _ _ => rfl) hc hd

theorem Yields.div (hc : c.Yields x) (hd : d.Yields y) (hy : y.number ≠ 0) :
    (c / d).Yields (x.dividedBy y) := by
  refine .apply ?_ hc hd
  intro m rest
  simp only [Machine.carryOut, Machine.combineTop, Machine.withStack, Machine.quotient, if_neg hy]

theorem Yields.add (hc : c.Yields x) (hd : d.Yields y) (h : x.unit.same y.unit = true) :
    (c + d).Yields (x.plus y) := by
  refine .apply ?_ hc hd
  intro m rest
  simp only [Machine.carryOut, Machine.combineTop, Machine.withStack, Machine.ifSameUnit, if_pos h]

theorem Yields.sub (hc : c.Yields x) (hd : d.Yields y) (h : x.unit.same y.unit = true) :
    (c - d).Yields (x.minus y) := by
  refine .apply ?_ hc hd
  intro m rest
  simp only [Machine.carryOut, Machine.combineTop, Machine.withStack, Machine.ifSameUnit, if_pos h]

theorem product_comm (hx : x.unit.Reduced) (hy : y.unit.Reduced) :
    (value x * value y).Agree (value y * value x) := by
  have left := (yields_value x).mul (yields_value y)
  have right := (yields_value y).mul (yields_value x)
  exact ⟨_, _, left, right, mul_comm .., hx.combine_comm hy⟩

theorem product_assoc (hx : x.unit.Reduced) (hy : y.unit.Reduced) (hz : z.unit.Reduced) :
    (value x * value y * value z).Agree (value x * (value y * value z)) := by
  have left := ((yields_value x).mul (yields_value y)).mul (yields_value z)
  have right := (yields_value x).mul ((yields_value y).mul (yields_value z))
  exact ⟨_, _, left, right, mul_assoc .., hx.combine_assoc hy hz⟩

/-- Dividing undoes multiplying, for exact numbers and for units alike. -/
theorem product_divided (hx : x.unit.Reduced) (hy : y.unit.Reduced) (h : y.number ≠ 0) :
    (value x * value y / value y).Agree (value x) := by
  have left := ((yields_value x).mul (yields_value y)).div (yields_value y) h
  exact ⟨_, _, left, yields_value x, mul_div_cancel_right₀ _ h, hx.combine_undo hy 1⟩

theorem quotient_multiplied (hx : x.unit.Reduced) (hy : y.unit.Reduced) (h : y.number ≠ 0) :
    (value x / value y * value y).Agree (value x) := by
  have left := ((yields_value x).div (yields_value y) h).mul (yields_value y)
  exact ⟨_, _, left, yields_value x, div_mul_cancel₀ _ h, hx.combine_undo hy (-1)⟩

/-- A value divided by itself is the pure number one, and not only up to the order of factors. -/
theorem quotient_self (hx : x.unit.Reduced) (h : x.number ≠ 0) :
    (value x / value x).Yields (.pure 1) := by
  have hq : x.dividedBy x = .pure 1 := by
    rw [Quantity.dividedBy, hx.combine_self, div_self h]
    rfl
  have left := (yields_value x).div (yields_value x) h
  rwa [hq] at left

theorem sum_comm (hx : x.unit.Reduced) (hy : y.unit.Reduced) (h : x.unit.Agree y.unit) :
    (value x + value y).Agree (value y + value x) := by
  have left := (yields_value x).add (yields_value y) ((hx.same_iff hy).mpr h)
  have right := (yields_value y).add (yields_value x) ((hy.same_iff hx).mpr h.symm)
  exact ⟨_, _, left, right, add_comm .., h⟩

/-- A sum keeps the unit of its first part, so the grouping shows in neither number nor unit. -/
theorem sum_assoc (hx : x.unit.Reduced) (hy : y.unit.Reduced) (hz : z.unit.Reduced)
    (h : x.unit.Agree y.unit) (k : y.unit.Agree z.unit) :
    (value x + value y + value z).Agree (value x + (value y + value z)) := by
  have hxy : x.unit.same y.unit = true := (hx.same_iff hy).mpr h
  have hyz : y.unit.same z.unit = true := (hy.same_iff hz).mpr k
  have hxz : x.unit.same z.unit = true := (hx.same_iff hz).mpr (h.trans k)
  have left := ((yields_value x).add (yields_value y) hxy).add (yields_value z) hxz
  have right := (yields_value x).add ((yields_value y).add (yields_value z) hyz) hxy
  exact ⟨_, _, left, right, add_assoc .., fun _ => rfl⟩

theorem sum_reduced_by (hx : x.unit.Reduced) (hy : y.unit.Reduced) (h : x.unit.Agree y.unit) :
    (value x + value y - value y).Agree (value x) := by
  have hxy : x.unit.same y.unit = true := (hx.same_iff hy).mpr h
  have left := ((yields_value x).add (yields_value y) hxy).sub (yields_value y) hxy
  exact ⟨_, _, left, yields_value x, add_sub_cancel_right .., fun _ => rfl⟩

/-- The laws of a field for three quantities, sums only of those whose units agree. -/
structure Laws (x y z : Quantity) : Prop where
  mul_comm : (value x * value y).Agree (value y * value x)
  mul_assoc : (value x * value y * value z).Agree (value x * (value y * value z))
  mul_div_cancel : y.number ≠ 0 → (value x * value y / value y).Agree (value x)
  div_mul_cancel : y.number ≠ 0 → (value x / value y * value y).Agree (value x)
  div_self : x.number ≠ 0 → (value x / value x).Yields (.pure 1)
  add_comm : x.unit.Agree y.unit → (value x + value y).Agree (value y + value x)
  add_assoc : x.unit.Agree y.unit → y.unit.Agree z.unit →
    (value x + value y + value z).Agree (value x + (value y + value z))
  add_sub_cancel : x.unit.Agree y.unit → (value x + value y - value y).Agree (value x)

theorem laws_of_reduced (hx : x.unit.Reduced) (hy : y.unit.Reduced) (hz : z.unit.Reduced) :
    Laws x y z where
  mul_comm := product_comm hx hy
  mul_assoc := product_assoc hx hy hz
  mul_div_cancel := product_divided hx hy
  div_mul_cancel := quotient_multiplied hx hy
  div_self := quotient_self hx
  add_comm := sum_comm hx hy
  add_assoc := sum_assoc hx hy hz
  add_sub_cancel := sum_reduced_by hx hy

end Calculation

/-- The laws of an abelian group for three units, with 1 for the product and -1 for the quotient.
What units come to is compared as a map, which is how the machine compares them. -/
structure Units.Laws (u v w : Units) : Prop where
  reduced (sign : Int) : (u.combine v sign).Reduced
  same_iff : u.same v = true ↔ u.Agree v
  comm : (u.combine v 1).Agree (v.combine u 1)
  assoc : ((u.combine v 1).combine w 1).Agree (u.combine (v.combine w 1) 1)
  combine_one : (u.combine .one 1).Agree u
  one_combine : (Units.one.combine u 1).Agree u
  combine_self : u.combine u (-1) = .one
  product_divided : ((u.combine v 1).combine v (-1)).Agree u
  quotient_multiplied : ((u.combine v (-1)).combine v 1).Agree u

theorem Units.laws_of_reduced {u v w : Units} (hu : u.Reduced) (hv : v.Reduced) (hw : w.Reduced) :
    Units.Laws u v w where
  reduced := hu.combine v
  same_iff := hu.same_iff hv
  comm := hu.combine_comm hv
  assoc := hu.combine_assoc hv hw
  combine_one := hu.combine_one
  one_combine := (one_reduced.combine_comm hu).trans hu.combine_one
  combine_self := hu.combine_self
  product_divided := hu.combine_undo hv 1
  quotient_multiplied := hu.combine_undo hv (-1)

/-- Quantities whose units list no symbol twice and no power of zero obey the laws of exact
arithmetic, and their units those of an abelian group. -/
theorem exact_arithmetic (x y z : Quantity) (hx : x.unit.Reduced) (hy : y.unit.Reduced)
    (hz : z.unit.Reduced) :
    Calculation.Laws x y z ∧ Units.Laws x.unit y.unit z.unit :=
  ⟨Calculation.laws_of_reduced hx hy hz, Units.laws_of_reduced hx hy hz⟩

/-- Two accelerations whose units list the same factors in another order, and a unit that cancels
one of these factors. -/
theorem exact_arithmetic_accelerations :
    let x : Quantity := ⟨6, ⟨[⟨"m", 1⟩, ⟨"s", -2⟩]⟩⟩
    let y : Quantity := ⟨-2, ⟨[⟨"s", -2⟩, ⟨"m", 1⟩]⟩⟩
    let z : Quantity := ⟨1 / 2, ⟨[⟨"m", -1⟩]⟩⟩
    x.unit.Reduced ∧ y.unit.Reduced ∧ z.unit.Reduced ∧
      (Calculation.value x * .value y / .value y).Agree (.value x) ∧
      (Calculation.value x + .value y - .value y).Agree (.value x) ∧
      ((x.unit.combine y.unit 1).combine z.unit 1).Agree
        (x.unit.combine (y.unit.combine z.unit 1) 1) := by
  intro x y z
  have hx : x.unit.Reduced := ⟨by decide, by decide⟩
  have hy : y.unit.Reduced := ⟨by decide, by decide⟩
  have hz : z.unit.Reduced := ⟨by decide, by decide⟩
  obtain ⟨hlaws, hunits⟩ := exact_arithmetic x y z hx hy hz
  have hagree : x.unit.Agree y.unit := hunits.same_iff.mp (by decide)
  exact ⟨hx, hy, hz, hlaws.mul_div_cancel (by decide), hlaws.add_sub_cancel hagree, hunits.assoc⟩

end DeskCalc
