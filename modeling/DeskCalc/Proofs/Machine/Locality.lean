import DeskCalc.Proofs.Machine.Run
import Mathlib.Tactic.SplitIfs

namespace DeskCalc

/-- Whether a token works at the top of the stack. Listing and clearing concern all of it. -/
def Lexeme.isLocal : Lexeme → Bool
  | operator .list | operator .clear => false
  | _ => true

/-- The machine with more values under those on its stack. -/
def Machine.above (m : Machine) (below : List Quantity) : Machine := m.withStack (m.stack ++ below)

/-- The same outcome, but with more values at the bottom of the stack that is left. -/
def Outcome.above (o : Outcome) (below : List Quantity) : Outcome :=
  { o with machine := o.machine.above below }

namespace Machine

open Outcome

variable {m : Machine} {below : List Quantity} {t : Lexeme} {ts : List Lexeme}

theorem above_withStack (m : Machine) (stack below : List Quantity) :
    (m.withStack stack).above below = (m.above below).withStack (stack ++ below) := rfl

theorem above_stack {stack : List Quantity} (hs : m.stack = stack) (below : List Quantity) :
    (m.above below).stack = stack ++ below := by
  rw [← hs]
  rfl

theorem printTop_above (q : Quantity) (after : Machine) (below : List Quantity) :
    printTop q (after.above below) = (printTop q after).above below := by
  unfold printTop
  split <;> rfl

theorem combineTop_above {f : Quantity → Quantity → Except MachineError Quantity}
    (h : (m.combineTop f).error ≠ some .stackUnderflow) (below : List Quantity) :
    (m.above below).combineTop f = (m.combineTop f).above below := by
  cases hs : m.stack with
  | nil => exact absurd (by simp [combineTop, hs, failed]) h
  | cons top tail =>
    cases tail with
    | nil => exact absurd (by simp [combineTop, hs, failed]) h
    | cons lower rest =>
      have hdeep := above_stack hs below
      simp only [List.cons_append] at hdeep
      simp only [combineTop, hs, hdeep]
      split <;> rfl

/-- Both a value lost and a value put back are on the top. -/
theorem annotate_above {text : String} (h : (m.annotate text).error ≠ some .stackUnderflow)
    (below : List Quantity) : (m.above below).annotate text = (m.annotate text).above below := by
  cases hs : m.stack with
  | nil => exact absurd (by simp [annotate, hs, failed]) h
  | cons q rest =>
    have hdeep := above_stack hs below
    rw [List.cons_append] at hdeep
    simp only [annotate, hs, hdeep]
    split
    · rfl
    · split_ifs <;> rfl

theorem carryOut_above {op : Operator} (hop : (Lexeme.operator op).isLocal = true)
    (h : (m.carryOut op).error ≠ some .stackUnderflow) (below : List Quantity) :
    (m.above below).carryOut op = (m.carryOut op).above below := by
  cases op with
  | add | subtract | multiply | divide => exact combineTop_above h below
  | print | take =>
    cases hs : m.stack with
    | nil => exact absurd (by simp [carryOut, hs, failed]) h
    | cons q rest =>
      have hdeep := above_stack hs below
      rw [List.cons_append] at hdeep
      simp only [carryOut, hs, hdeep, ← above_withStack, printTop_above]
  | duplicate =>
    cases hs : m.stack with
    | nil => exact absurd (by simp [carryOut, hs, failed]) h
    | cons q rest =>
      have hdeep := above_stack hs below
      rw [List.cons_append] at hdeep
      simp only [carryOut, hs, hdeep]
      rfl
  | swap =>
    cases hs : m.stack with
    | nil => exact absurd (by simp [carryOut, hs, failed]) h
    | cons top tail =>
      cases tail with
      | nil => exact absurd (by simp [carryOut, hs, failed]) h
      | cons lower rest =>
        have hdeep := above_stack hs below
        simp only [List.cons_append] at hdeep
        simp only [carryOut, hs, hdeep]
        rfl
  | list | clear => cases hop
  | reservedS | reservedU | reservedV => rfl

/-- A token that finds enough on the stack does not see what lies below. -/
theorem step_above (ht : t.isLocal = true) (h : (m.step t).error ≠ some .stackUnderflow)
    (below : List Quantity) : (m.above below).step t = (m.step t).above below := by
  cases t with
  | number text =>
    simp only [step]
    split <;> rfl
  | unit text => exact annotate_above h below
  | store name =>
    cases hs : m.stack with
    | nil => exact absurd (by simp [step, hs, failed]) h
    | cons q rest =>
      have hdeep := above_stack hs below
      rw [List.cons_append] at hdeep
      simp only [step, hs, hdeep]
      rfl
  | load name =>
    have hmemory : (m.above below).memory = m.memory := rfl
    simp only [step, hmemory]
    split <;> rfl
  | operator op => exact carryOut_above ht h below

theorem andThen_above {o : Outcome} {next : Machine → Outcome}
    (h : o.error = none → next (o.machine.above below) = (next o.machine).above below) :
    (o.above below).andThen next = (o.andThen next).above below := by
  cases he : o.error with
  | some e =>
    have hdeep : (o.above below).error = some e := he
    rw [andThen_stopped he, andThen_stopped hdeep]
  | none =>
    have hdeep : (o.above below).error = none := he
    have hnext : next (o.above below).machine = (next o.machine).above below := h he
    rw [andThen_going he, andThen_going hdeep, hnext]
    rfl

/-- By induction on the tokens. One that underflows ends the run with that error, so none does. -/
theorem runTokens_above (ht : ∀ t ∈ ts, t.isLocal = true)
    (h : (m.runTokens ts).error ≠ some .stackUnderflow) (below : List Quantity) :
    (m.above below).runTokens ts = (m.runTokens ts).above below := by
  induction ts generalizing m with
  | nil => rfl
  | cons t ts ih =>
    obtain ⟨hlocal, hrest⟩ := List.forall_mem_cons.mp ht
    have hstep : (m.step t).error ≠ some .stackUnderflow := by
      intro hu
      rw [runTokens, andThen_stopped hu] at h
      exact h hu
    rw [runTokens, runTokens, step_above hlocal hstep]
    apply andThen_above
    intro he
    rw [runTokens, andThen_going he] at h
    exact ih hrest h

theorem run_above {text : String} (ht : ∀ t ∈ lexemes text, t.isLocal = true)
    (h : (m.run text).error ≠ some .stackUnderflow) (below : List Quantity) :
    (m.above below).run text = (m.run text).above below := by
  have htokens : (m.runTokens (lexemes text)).error ≠ some .stackUnderflow := by
    intro hu
    rw [run_stopped hu] at h
    exact h hu
  rw [run_eq, run_eq, runTokens_above ht htokens]
  apply andThen_above
  intro _
  cases (lex text).error <;> rfl

/-- A text without listing and clearing, for which the values on a stack are enough, ends in the
same way with more values below them: with the same error if it fails, with the same variables and
what it prints, and with the values below as they were, under what it leaves without them. -/
theorem values_below_untouched (stack below : List Quantity) (memory : List (String × Quantity))
    (listening : Bool) (text : String) (hlocal : ∀ t ∈ lexemes text, t.isLocal = true) :
    let alone := (⟨stack, memory, listening⟩ : Machine).run text
    let deeper := (⟨stack ++ below, memory, listening⟩ : Machine).run text
    alone.error ≠ some .stackUnderflow →
      deeper.error = alone.error ∧ deeper.machine.memory = alone.machine.memory ∧
        deeper.printed = alone.printed ∧
        deeper.machine.stack = alone.machine.stack ++ below := by
  intro alone deeper h
  have hdeep : deeper = alone.above below :=
    run_above (m := ⟨stack, memory, listening⟩) hlocal h below
  rw [hdeep]
  exact ⟨rfl, rfl, rfl, rfl⟩

/-- A stack of two seconds, to which three metres are to be added. -/
def seconds : Machine := ⟨[⟨2, ⟨[⟨"s", 1⟩]⟩⟩], [], true⟩

/-- That sum fails with another value below as it does without, and both sides of it are put back in
their order. -/
theorem failing_sum_above_value :
    (∀ t ∈ lexemes "3 (m) +", t.isLocal = true) ∧
    (seconds.run "3 (m) +").error ≠ some .stackUnderflow ∧
    ((⟨seconds.stack ++ [.pure 7], [], true⟩ : Machine).run "3 (m) +").error =
      some (.incompatibleUnits ⟨[⟨"s", 1⟩]⟩) ∧
    ((⟨seconds.stack ++ [.pure 7], [], true⟩ : Machine).run "3 (m) +").machine.stack =
      [⟨3, ⟨[⟨"m", 1⟩]⟩⟩, ⟨2, ⟨[⟨"s", 1⟩]⟩⟩, .pure 7] := by
  have hl : lexemes "3 (m) +" = [.number "3", .unit "m", .operator .add] := by cbv
  have hlocal : ∀ t ∈ lexemes "3 (m) +", t.isLocal = true := by
    rw [hl]
    decide
  have htokens : seconds.runTokens (lexemes "3 (m) +") =
      ⟨⟨[⟨3, ⟨[⟨"m", 1⟩]⟩⟩, ⟨2, ⟨[⟨"s", 1⟩]⟩⟩], [], true⟩, [],
        some (.incompatibleUnits ⟨[⟨"s", 1⟩]⟩)⟩ := by
    rw [hl]
    decide +kernel
  have halone : seconds.run "3 (m) +" = seconds.runTokens (lexemes "3 (m) +") :=
    run_stopped (by rw [htokens])
  have h : (seconds.run "3 (m) +").error ≠ some .stackUnderflow := by
    rw [halone, htokens]
    decide
  obtain ⟨herror, -, -, hstack⟩ :=
    values_below_untouched seconds.stack [.pure 7] [] true _ hlocal h
  have hfound : (⟨seconds.stack, [], true⟩ : Machine).run "3 (m) +" = _ := halone.trans htokens
  rw [hfound] at herror hstack
  exact ⟨hlocal, h, herror, hstack⟩

end Machine

end DeskCalc
