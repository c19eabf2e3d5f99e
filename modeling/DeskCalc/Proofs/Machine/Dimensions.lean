import DeskCalc.Proofs.Machine.Run
import DeskCalc.Proofs.Units

namespace DeskCalc.Machine

/-- The machine after some texts, whether or not they fail. -/
def runs (m : Machine) (texts : List String) : Machine :=
  texts.foldl (fun m text => (m.run text).machine) m

/-- All values on the stack and in the variables have units in normal form. -/
structure Normal (m : Machine) : Prop where
  stack : ∀ q ∈ m.stack, q.unit.Normal
  memory : ∀ v ∈ m.memory, v.2.unit.Normal

variable {m : Machine} {q top lower : Quantity} {rest : List Quantity}

theorem Normal.withStack {stack : List Quantity} (h : m.Normal)
    (hs : ∀ q ∈ stack, q.unit.Normal) : (m.withStack stack).Normal := ⟨hs, h.memory⟩

theorem Normal.tail (h : m.Normal) (hs : m.stack = q :: rest) : ∀ r ∈ rest, r.unit.Normal := by
  intro r hr
  exact h.stack r (hs ▸ List.mem_cons_of_mem q hr)

theorem Normal.head (h : m.Normal) (hs : m.stack = q :: rest) : q.unit.Normal :=
  h.stack q (hs ▸ List.mem_cons_self)

theorem Normal.annotate (h : m.Normal) (text : String) : (m.annotate text).machine.Normal := by
  unfold Machine.annotate
  split
  · exact h
  · rename_i q rest hs
    have hrest := h.tail hs
    split
    · exact h.withStack hrest
    · rename_i u hu
      split_ifs
      · exact h.withStack (List.forall_mem_cons.mpr ⟨Units.one_normal, hrest⟩)
      · exact h.withStack (List.forall_mem_cons.mpr ⟨Units.ofText?_normal hu, hrest⟩)
      · exact h
      · exact h

/-- Two values are combined into one in normal form, or both are put back. -/
theorem Normal.combineTop {f : Quantity → Quantity → Except MachineError Quantity} (h : m.Normal)
    (hf : ∀ x y q, x.unit.Normal → y.unit.Normal → f x y = .ok q → q.unit.Normal) :
    (m.combineTop f).machine.Normal := by
  unfold Machine.combineTop
  split
  · rename_i top lower rest hs
    obtain ⟨hlower, hrest⟩ := List.forall_mem_cons.mp (h.tail hs)
    split
    · rename_i q hq
      have hmade : q.unit.Normal := hf lower top q hlower (h.head hs) hq
      exact h.withStack (List.forall_mem_cons.mpr ⟨hmade, hrest⟩)
    · exact h
  · exact h

theorem Normal.printTop {after : Machine} (h : after.Normal) (q : Quantity) :
    (printTop q after).machine.Normal := by
  unfold Machine.printTop
  split
  · exact h
  · exact h

theorem ifSameUnit_normal {f : Quantity → Quantity → Quantity}
    (hf : ∀ x y, (f x y).unit = x.unit) (x y q : Quantity) (hx : x.unit.Normal) (_ : y.unit.Normal)
    (hq : ifSameUnit f x y = .ok q) : q.unit.Normal := by
  unfold ifSameUnit at hq
  split at hq
  · rw [← Except.ok.inj hq, hf]
    exact hx
  · cases hq

theorem quotient_normal (x y q : Quantity) (hx : x.unit.Normal) (hy : y.unit.Normal)
    (hq : quotient x y = .ok q) : q.unit.Normal := by
  unfold quotient at hq
  split at hq
  · cases hq
  · rw [← Except.ok.inj hq]
    exact hx.combine hy (-1)

theorem Normal.carryOut (h : m.Normal) (op : Operator) : (m.carryOut op).machine.Normal := by
  cases op with
  | add => exact h.combineTop (ifSameUnit_normal fun _ _ => rfl)
  | subtract => exact h.combineTop (ifSameUnit_normal fun _ _ => rfl)
  | multiply =>
    refine h.combineTop ?_
    intro x y q hx hy hq
    rw [← Except.ok.inj hq]
    exact hx.combine hy 1
  | divide => exact h.combineTop quotient_normal
  | print =>
    simp only [Machine.carryOut]
    split
    · exact h
    · exact h.printTop _
  | take =>
    simp only [Machine.carryOut]
    split
    · exact h
    · rename_i q rest hs
      exact (h.withStack (h.tail hs)).printTop q
  | list =>
    simp only [Machine.carryOut]
    split
    · exact h
    · exact h
  | clear => exact h.withStack (by simp)
  | duplicate =>
    simp only [Machine.carryOut]
    split
    · exact h
    · rename_i q rest hs
      have hkept : ∀ r ∈ q :: rest, r.unit.Normal := hs ▸ h.stack
      exact h.withStack (List.forall_mem_cons.mpr ⟨h.head hs, hkept⟩)
  | swap =>
    simp only [Machine.carryOut]
    split
    · rename_i top lower rest hs
      obtain ⟨hlower, hrest⟩ := List.forall_mem_cons.mp (h.tail hs)
      have hswapped : ∀ r ∈ top :: rest, r.unit.Normal :=
        List.forall_mem_cons.mpr ⟨h.head hs, hrest⟩
      exact h.withStack (List.forall_mem_cons.mpr ⟨hlower, hswapped⟩)
    · exact h
  | reservedS | reservedU | reservedV => exact h

theorem forall_mem_assign {P : String × Quantity → Prop} {name : String}
    {memory : List (String × Quantity)} (hq : P (name, q)) (hm : ∀ v ∈ memory, P v) :
    ∀ v ∈ assign name q memory, P v := by
  induction memory with
  | nil => simpa [assign] using hq
  | cons w memory ih =>
    obtain ⟨hw, hmemory⟩ := List.forall_mem_cons.mp hm
    rw [assign]
    split
    · exact List.forall_mem_cons.mpr ⟨hq, hmemory⟩
    · exact List.forall_mem_cons.mpr ⟨hw, ih hmemory⟩

/-- No token leaves a value without a unit in normal form. -/
theorem Normal.step (h : m.Normal) (t : Lexeme) : (m.step t).machine.Normal := by
  cases t with
  | number text =>
    simp only [Machine.step]
    split
    · exact h.withStack (List.forall_mem_cons.mpr ⟨Units.one_normal, h.stack⟩)
    · exact h
  | unit text => exact h.annotate text
  | store name =>
    simp only [Machine.step]
    split
    · exact h
    · rename_i q rest hs
      exact ⟨h.tail hs, forall_mem_assign (h.head hs) h.memory⟩
  | load name =>
    simp only [Machine.step]
    split
    · exact h
    · rename_i q hq
      obtain ⟨before, after, hmem, -⟩ := List.lookup_eq_some_iff.mp hq
      have hv : (name, q) ∈ m.memory := by simp [hmem]
      exact h.withStack (List.forall_mem_cons.mpr ⟨h.memory _ hv, h.stack⟩)
  | operator op => exact h.carryOut op

theorem Normal.andThen {o : Outcome} {next : Machine → Outcome} (h : o.machine.Normal)
    (hn : ∀ n : Machine, n.Normal → (next n).machine.Normal) : (o.andThen next).machine.Normal := by
  cases ho : o.error with
  | some e =>
    rw [Outcome.andThen_stopped ho]
    exact h
  | none =>
    rw [Outcome.andThen_going ho]
    exact hn o.machine h

theorem Normal.runTokens (h : m.Normal) (ts : List Lexeme) :
    (m.runTokens ts).machine.Normal := by
  induction ts generalizing m with
  | nil => exact h
  | cons t ts ih => exact Normal.andThen (h.step t) fun n hn => ih hn

/-- By induction on the tokens, so it holds in the middle of a text too. -/
theorem Normal.run (h : m.Normal) (text : String) : (m.run text).machine.Normal := by
  rw [run_eq]
  refine Normal.andThen (h.runTokens _) fun n hn => ?_
  cases (lex text).error with
  | none => exact hn
  | some e => exact hn

theorem Normal.runs (h : m.Normal) (texts : List String) : (m.runs texts).Normal := by
  induction texts generalizing m with
  | nil => exact h
  | cons text texts ih => exact ih (h.run text)

/-- A sum or a difference is made exactly if its two sides have one dimension. -/
theorem Normal.combineTop_same_iff (h : m.Normal) (hs : m.stack = top :: lower :: rest)
    (f : Quantity → Quantity → Quantity) :
    (m.combineTop (ifSameUnit f)).error = none ↔
      ∀ s, lower.unit.exponent s = top.unit.exponent s := by
  have hlower : lower.unit.Normal := h.tail hs lower List.mem_cons_self
  have hsame : lower.unit.same top.unit = true ↔ ∀ s, lower.unit.exponent s = top.unit.exponent s :=
    hlower.isReduced.same_iff (h.head hs).isReduced
  rw [← hsame]
  simp only [Machine.combineTop, hs, ifSameUnit]
  cases lower.unit.same top.unit with
  | true => simp [Outcome.done]
  | false => simp [Outcome.failed]

/-- A value that has a unit takes another one exactly if that means the same dimensions, or none at
all. -/
theorem Normal.annotate_iff (h : m.Normal) (hs : m.stack = q :: rest) (hq : q.unit ≠ .one)
    (text : String) :
    (m.annotate text).error = none ↔ ∃ u, Units.ofText? text = some u ∧
      (u = .one ∨ ∀ s, u.exponent s = q.unit.exponent s) := by
  unfold Machine.annotate
  simp only [hs]
  cases hu : Units.ofText? text with
  | none => simp [Outcome.failed]
  | some u =>
    have hsame := (h.head hs).isReduced.same_iff (Units.ofText?_normal hu).isReduced
    by_cases hone : u = .one
    · simp [hone, Outcome.done]
    · by_cases hd : q.unit.same u = true
      · have he : ∀ s, u.exponent s = q.unit.exponent s := fun s => (hsame.mp hd s).symm
        simp [hone, hq, hd, Outcome.done, he]
      · have he : ¬ ∀ s, u.exponent s = q.unit.exponent s :=
          fun he => hd (hsame.mpr fun s => (he s).symm)
        simp [hone, hq, hd, Outcome.failed, he]

/-- In every state that some texts lead to from an empty machine, also in the midst of a text, all
units are in normal form; so sums, differences and annotations go by the powers of all symbols, in
whatever order they are listed, and products and quotients add and subtract these powers. -/
theorem units_mean_dimensions (listening : Bool) (texts : List String) (tokens : List Lexeme) :
    let m := (((⟨[], [], listening⟩ : Machine).runs texts).runTokens tokens).machine
    m.Normal ∧
    (∀ top lower rest, m.stack = top :: lower :: rest →
      (∀ op ∈ [Operator.add, .subtract], (m.step (.operator op)).error = none ↔
        ∀ s, lower.unit.exponent s = top.unit.exponent s) ∧
      (∃ q, m.step (.operator .multiply) = .done (m.withStack (q :: rest)) ∧
        ∀ s, q.unit.exponent s = lower.unit.exponent s + top.unit.exponent s) ∧
      (top.number ≠ 0 → ∃ q, m.step (.operator .divide) = .done (m.withStack (q :: rest)) ∧
        ∀ s, q.unit.exponent s = lower.unit.exponent s - top.unit.exponent s)) ∧
    ∀ q rest text, m.stack = q :: rest → q.unit ≠ .one →
      ((m.step (.unit text)).error = none ↔ ∃ u, Units.ofText? text = some u ∧
        (u = .one ∨ ∀ s, u.exponent s = q.unit.exponent s)) := by
  intro m
  have hempty : (⟨[], [], listening⟩ : Machine).Normal := ⟨by simp, by simp⟩
  have h : m.Normal := (hempty.runs texts).runTokens tokens
  refine ⟨h, ?_, fun q rest text hs hq => h.annotate_iff hs hq text⟩
  intro top lower rest hs
  have hlower : lower.unit.Normal := h.tail hs lower List.mem_cons_self
  refine ⟨?_, ⟨lower.times top, ?_, ?_⟩, ?_⟩
  · intro op hop
    rcases List.mem_pair.mp hop with rfl | rfl
    · exact h.combineTop_same_iff hs Quantity.plus
    · exact h.combineTop_same_iff hs Quantity.minus
  · simp only [Machine.step, Machine.carryOut, Machine.combineTop, hs]
  · intro s
    rw [Quantity.times, hlower.isReduced.exponent_combine (h.head hs).isReduced, one_mul]
  · intro hzero
    refine ⟨lower.dividedBy top, ?_, ?_⟩
    · simp only [Machine.step, Machine.carryOut, Machine.combineTop, hs, quotient, if_neg hzero]
    · intro s
      rw [Quantity.dividedBy, hlower.isReduced.exponent_combine (h.head hs).isReduced]
      ring

/-- Two values whose units list the same symbols in another order. -/
def reordered : Machine := ⟨[⟨4, ⟨[⟨"s", 1⟩, ⟨"m", 1⟩]⟩⟩, ⟨3, ⟨[⟨"m", 1⟩, ⟨"s", 1⟩]⟩⟩], [], false⟩

/-- Reached behind a text that fails, these values have one dimension: they can be added, their
quotient is a pure number, and the one's unit is accepted for the other. -/
theorem reordered_units_mean_dimensions :
    (((⟨[], [], false⟩ : Machine).runs ["3 (m*s) +", "4 (s*m)"]).runTokens []).machine =
      reordered ∧
    (reordered.step (.operator .add)).error = none ∧
    (∃ q, reordered.step (.operator .divide) = .done (reordered.withStack [q]) ∧
      ∀ s, q.unit.exponent s = 0) ∧
    (reordered.step (.unit "m*s")).error = none := by
  have hrun : (((⟨[], [], false⟩ : Machine).runs ["3 (m*s) +", "4 (s*m)"]).runTokens []).machine =
      reordered := by cbv
  have hu : Units.ofText? "m*s" = some ⟨[⟨"m", 1⟩, ⟨"s", 1⟩]⟩ := by cbv
  have hsame : ∀ s, (⟨[⟨"m", 1⟩, ⟨"s", 1⟩]⟩ : Units).exponent s =
      (⟨[⟨"s", 1⟩, ⟨"m", 1⟩]⟩ : Units).exponent s := by
    intro s
    by_cases hm : "m" = s
    · subst hm
      decide
    · by_cases hs : "s" = s <;> simp [Units.exponent, hm, hs]
  obtain ⟨-, harithmetic, hunit⟩ :=
    units_mean_dimensions false ["3 (m*s) +", "4 (s*m)"] []
  rw [hrun] at harithmetic hunit
  obtain ⟨hsum, -, hquotient⟩ := harithmetic _ _ _ rfl
  obtain ⟨q, hq, he⟩ := hquotient (by decide)
  refine ⟨hrun, (hsum .add (by decide)).mpr hsame, ⟨q, hq, ?_⟩, ?_⟩
  · intro s
    rw [he, hsame, sub_self]
  · exact (hunit _ _ _ rfl (by decide)).mpr ⟨_, hu, .inr hsame⟩

end DeskCalc.Machine
