import DeskCalc.Proofs.Machine.Run
import Mathlib.Tactic.ByContra
import Mathlib.Tactic.SplitIfs

namespace DeskCalc.Machine

/-- Whether a token that fails costs the machine the top of its stack. -/
def losesTop (m : Machine) : Lexeme → Bool
  | .unit text => !m.stack.isEmpty && (Units.ofText? text).isNone
  | .operator .take => m.stack.head?.any fun q => !q.result.isOk
  | _ => false

/-- What a failing token leaves. -/
def afterFailure (m : Machine) (t : Lexeme) : Machine :=
  if m.losesTop t then m.withStack m.stack.tail else m

theorem losesTop_stack {m : Machine} {t : Lexeme} (h : m.losesTop t = true) : m.stack ≠ [] := by
  intro hs
  cases t with
  | unit text => simp [losesTop, hs] at h
  | operator op => cases op <;> simp [losesTop, hs] at h
  | _ => simp [losesTop] at h

/-- The loss shows: the machine is another one exactly where a token loses a value. -/
theorem afterFailure_eq_iff (m : Machine) (t : Lexeme) :
    m.afterFailure t = m ↔ m.losesTop t = false := by
  constructor
  · intro h
    by_contra hl
    have hl : m.losesTop t = true := by simpa using hl
    rw [afterFailure, if_pos hl] at h
    have hlen : m.stack.tail.length = m.stack.length := by
      rw [show m.stack.tail = m.stack from congrArg Machine.stack h]
    have hpos : 0 < m.stack.length := List.length_pos_iff.mpr (losesTop_stack hl)
    rw [List.length_tail] at hlen
    omega
  · intro h
    simp [afterFailure, h]

theorem failed_eq {m : Machine} {e e' : MachineError}
    (h : (Outcome.failed m e').error = some e) : Outcome.failed m e' = .failed m e := by
  rw [Option.some.inj h]

/-- A failure that is found before a value is lost. -/
theorem failed_keeping {m : Machine} {t : Lexeme} {e e' : MachineError}
    (hl : m.losesTop t = false) (h : (Outcome.failed m e').error = some e) :
    Outcome.failed m e' = .failed (m.afterFailure t) e := by
  rw [failed_eq h, afterFailure, if_neg (by simp [hl])]

theorem combineTop_failed {m : Machine} {f : Quantity → Quantity → Except MachineError Quantity}
    {e : MachineError} (h : (m.combineTop f).error = some e) : m.combineTop f = .failed m e := by
  unfold combineTop at h ⊢
  split at h
  · rename_i top lower rest _
    cases hf : f lower top with
    | ok q => simp [hf, Outcome.done] at h
    | error e' =>
      simp only [hf] at h ⊢
      exact failed_eq h
  · exact failed_eq h

/-- Printing fails only where the value cannot be shown, and leaves the machine that it is given. -/
theorem printTop_failed {q : Quantity} {after : Machine} {e : MachineError}
    (h : (printTop q after).error = some e) :
    printTop q after = .failed after e ∧ q.result.isOk = false := by
  unfold printTop at h ⊢
  cases hq : q.result with
  | ok r => simp [hq] at h
  | error e' =>
    simp only [hq, Outcome.failed, Option.some.injEq] at h ⊢
    exact ⟨by rw [h], rfl⟩

/-- A text that writes no unit is found out only when the top of the stack is taken. -/
theorem annotate_failed {m : Machine} {text : String} {e : MachineError}
    (h : (m.annotate text).error = some e) :
    m.annotate text = .failed (m.afterFailure (.unit text)) e := by
  unfold annotate at h ⊢
  cases hs : m.stack with
  | nil =>
    simp only [hs] at h ⊢
    exact failed_keeping (by simp [losesTop, hs]) h
  | cons q rest =>
    cases hu : Units.ofText? text with
    | none =>
      simp only [hs, hu, Outcome.failed, Option.some.injEq] at h ⊢
      rw [h, afterFailure, if_pos (by simp [losesTop, hs, hu]), hs, List.tail_cons]
    | some u =>
      have keep : m.afterFailure (.unit text) = m := by simp [afterFailure, losesTop, hu]
      simp only [hs, hu] at h ⊢
      rw [keep]
      split_ifs at h ⊢
      · simp [Outcome.done] at h
      · simp [Outcome.done] at h
      · simp [Outcome.done] at h
      · exact failed_eq h

/-- One case for each operator; only taking a value loses it. -/
theorem carryOut_failed {m : Machine} {op : Operator} {e : MachineError}
    (h : (m.carryOut op).error = some e) :
    m.carryOut op = .failed (m.afterFailure (.operator op)) e := by
  have keep (hop : op ≠ .take) : m.afterFailure (.operator op) = m := by
    rw [afterFailure, if_neg]
    cases op <;> simp [losesTop] at hop ⊢
  cases op with
  | add => rw [keep (by decide)]; exact combineTop_failed h
  | subtract => rw [keep (by decide)]; exact combineTop_failed h
  | multiply => rw [keep (by decide)]; exact combineTop_failed h
  | divide => rw [keep (by decide)]; exact combineTop_failed h
  | print =>
    rw [keep (by decide)]
    simp only [carryOut] at h ⊢
    cases hs : m.stack with
    | nil =>
      simp only [hs] at h ⊢
      exact failed_eq h
    | cons q rest =>
      simp only [hs] at h ⊢
      exact (printTop_failed h).1
  | take =>
    simp only [carryOut] at h ⊢
    cases hs : m.stack with
    | nil =>
      simp only [hs] at h ⊢
      exact failed_keeping (by simp [losesTop, hs]) h
    | cons q rest =>
      simp only [hs] at h ⊢
      obtain ⟨hp, hq⟩ := printTop_failed h
      rw [hp, afterFailure, if_pos (by simp [losesTop, hs, hq]), hs, List.tail_cons]
  | list =>
    rw [keep (by decide)]
    simp only [carryOut] at h ⊢
    cases hr : m.stack.reverse.mapM Quantity.result with
    | ok rs => simp [hr] at h
    | error e' =>
      simp only [hr] at h ⊢
      exact failed_eq h
  | clear => simp [carryOut, Outcome.done] at h
  | duplicate =>
    rw [keep (by decide)]
    simp only [carryOut] at h ⊢
    cases hs : m.stack with
    | nil =>
      simp only [hs] at h ⊢
      exact failed_eq h
    | cons q rest => simp [hs, Outcome.done] at h
  | swap =>
    rw [keep (by decide)]
    simp only [carryOut] at h ⊢
    split at h
    · simp [Outcome.done] at h
    · exact failed_eq h
  | reservedS | reservedU | reservedV =>
    rw [keep (by decide)]
    exact failed_eq h

/-- A failing token prints nothing, and leaves the machine as it was but for a value lost. -/
theorem step_failed {m : Machine} {t : Lexeme} {e : MachineError}
    (h : (m.step t).error = some e) : m.step t = .failed (m.afterFailure t) e := by
  cases t with
  | number text =>
    simp only [step] at h ⊢
    cases hn : number? text with
    | some n => simp [hn, Outcome.done] at h
    | none =>
      simp only [hn] at h ⊢
      exact failed_keeping rfl h
  | unit text => exact annotate_failed h
  | store name =>
    simp only [step] at h ⊢
    cases hs : m.stack with
    | nil =>
      simp only [hs] at h ⊢
      exact failed_keeping rfl h
    | cons q rest => simp [hs, Outcome.done] at h
  | load name =>
    simp only [step] at h ⊢
    cases hv : m.memory.lookup name with
    | some q => simp [hv, Outcome.done] at h
    | none =>
      simp only [hv] at h ⊢
      exact failed_keeping rfl h
  | operator op => exact carryOut_failed h

/-- A token that fails prints nothing, and leaves the machine as it was exactly if it loses no
value; so a failing text leaves what the tokens before the failing one leave, under that condition.
-/
theorem failing_token_atomic_iff (m : Machine) :
    (∀ (t : Lexeme) (e : MachineError), (m.step t).error = some e →
      (m.step t).printed = [] ∧ (m.step t).machine = m.afterFailure t ∧
        ((m.step t).machine = m ↔ m.losesTop t = false)) ∧
    ∀ (text : String) (e : MachineError), (m.run text).error = some e →
      ∃ before rest, lexemes text = before ++ rest ∧ (m.runTokens before).error = none ∧
        (m.run text).printed = (m.runTokens before).printed ∧
        ((rest = [] ∧ (lex text).error.map .invalidCharacter = some e ∧
            (m.run text).machine = (m.runTokens before).machine) ∨
          ∃ t after, rest = t :: after ∧ ((m.runTokens before).machine.step t).error = some e ∧
            (m.run text).machine = (m.runTokens before).machine.afterFailure t ∧
            ((m.run text).machine = (m.runTokens before).machine ↔
              (m.runTokens before).machine.losesTop t = false)) := by
  constructor
  · intro t e h
    rw [step_failed h]
    exact ⟨rfl, rfl, afterFailure_eq_iff m t⟩
  · intro text e h
    cases hr : (m.runTokens (lexemes text)).error with
    | none =>
      -- All tokens are carried out: what fails is the reading behind them.
      rw [run_going hr] at h ⊢
      exact ⟨lexemes text, [], by simp, hr, rfl, .inl ⟨rfl, h, rfl⟩⟩
    | some e' =>
      rw [run_stopped hr] at h ⊢
      obtain ⟨before, t, after, hts, hb, ht⟩ := runTokens_failed h
      rw [hts, runTokens_cut hb ht, step_failed ht]
      refine ⟨before, t :: after, rfl, hb, by simp [Outcome.failed], .inr ?_⟩
      exact ⟨t, after, rfl, ht, rfl, afterFailure_eq_iff _ t⟩

def lengthAndTime : Machine := empty.withStack [⟨1, ⟨[⟨"s", 1⟩]⟩⟩, ⟨1, ⟨[⟨"m", 1⟩]⟩⟩]

/-- A sum of unlike units keeps both of them, on its own and as a text. -/
theorem failing_sum_atomic :
    (lengthAndTime.step (.operator .add)).error = some (.incompatibleUnits ⟨[⟨"m", 1⟩]⟩) ∧
    (lengthAndTime.step (.operator .add)).machine = lengthAndTime ∧
    (lengthAndTime.run "+").error = some (.incompatibleUnits ⟨[⟨"m", 1⟩]⟩) ∧
    ∃ before rest, lexemes "+" = before ++ rest ∧
      (lengthAndTime.run "+").printed = (lengthAndTime.runTokens before).printed := by
  have hs : (lengthAndTime.step (.operator .add)).error =
      some (.incompatibleUnits ⟨[⟨"m", 1⟩]⟩) := by decide +kernel
  have hl : lexemes "+" = [.operator .add] := by cbv
  have ht : (lengthAndTime.runTokens (lexemes "+")).error =
      some (.incompatibleUnits ⟨[⟨"m", 1⟩]⟩) := by
    rw [hl]
    decide +kernel
  have hr : (lengthAndTime.run "+").error = some (.incompatibleUnits ⟨[⟨"m", 1⟩]⟩) := by
    rw [run_stopped ht, ht]
  have keep := ((failing_token_atomic_iff _).1 _ _ hs).2.2.2 rfl
  obtain ⟨before, rest, hts, -, hp, -⟩ := (failing_token_atomic_iff _).2 _ _ hr
  exact ⟨hs, keep, hr, before, rest, hts, hp⟩

/-- Two tokens that lose the value under them: an empty unit, and taking a value too large to be
shown. -/
theorem failing_tokens_lose_values :
    ((empty.withStack [.pure 5]).step (.unit "")).error = some (.invalidUnit "") ∧
    ((empty.withStack [.pure 5]).step (.unit "")).machine = empty ∧
    (empty.run "5").machine.stack = [.pure 5] ∧ (empty.run "5 ()").machine.stack = [] ∧
    (empty.run "1e400").machine.stack.length = 1 ∧
    (empty.run "1e400 n").error = some .overflow ∧ (empty.run "1e400 n").machine.stack = [] := by
  have hb : lexemes "1e400" = [.number "1e400"] := by cbv
  have hbig : (empty.runTokens (lexemes "1e400")).error = none := by
    rw [hb]
    decide +kernel
  have hl : lexemes "1e400 n" = [.number "1e400", .operator .take] := by cbv
  have htake : (empty.runTokens (lexemes "1e400 n")).error = some .overflow := by
    rw [hl]
    decide +kernel
  refine ⟨by cbv, by cbv, by cbv, by cbv, ?_, ?_, ?_⟩
  · rw [run_going hbig, hb]
    decide +kernel
  · rw [run_stopped htake, htake]
  · rw [run_stopped htake, hl]
    decide +kernel

end DeskCalc.Machine
