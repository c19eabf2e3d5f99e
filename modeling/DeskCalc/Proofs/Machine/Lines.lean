import DeskCalc.Proofs.Machine.Run
import DeskCalc.Proofs.Token.Lines

namespace DeskCalc

namespace MachineError

/-- The error that the same text has some lines further down. -/
def down (lines : Nat) : MachineError → MachineError
  | invalidCharacter e => invalidCharacter (e.down lines)
  | e => e

/-- The error that the same text has where it goes on with `c`. -/
def before (c : Char) : MachineError → MachineError
  | invalidCharacter e => invalidCharacter (e.before c)
  | e => e

/-- Whether a text fails in its reading, and not as a token is carried out. -/
def isLexical : MachineError → Bool
  | invalidCharacter _ => true
  | _ => false

theorem down_of_not_lexical {e : MachineError} (h : e.isLexical = false) (lines : Nat) :
    e.down lines = e := by
  cases e with
  | invalidCharacter => cases h
  | _ => rfl

theorem before_of_not_lexical {e : MachineError} (h : e.isLexical = false) (c : Char) :
    e.before c = e := by
  cases e with
  | invalidCharacter => cases h
  | _ => rfl

theorem isLexical_mismatch (u : Units) : (mismatch u).isLexical = false := by
  unfold mismatch
  split <;> rfl

theorem isLexical_ofShow (e : Quantity.ShowError) : (ofShow e).isLexical = false := by
  cases e <;> rfl

/-- Further down an error is told in the same words, but for the line it names. -/
theorem fault_down (e : MachineError) (lines : Nat) :
    (e.down lines).fault = match e with
      | invalidCharacter ⟨found, line, column⟩ =>
        ⟨.engine, some (failureText ⟨found, line + lines, column⟩)⟩
      | e => e.fault := by
  cases e with
  | invalidCharacter e => exact invalidCharacter_fault (e.down lines)
  | _ => rfl

end MachineError

namespace Outcome

/-- No token makes an error of the reading. -/
def Carried (o : Outcome) : Prop := ∀ e, o.error = some e → e.isLexical = false

theorem carried_done (m : Machine) : (done m).Carried := by
  intro e h
  cases h

theorem carried_failed (m : Machine) {e : MachineError} (he : e.isLexical = false) :
    (failed m e).Carried := by
  intro e' h
  rw [← Option.some.inj h]
  exact he

theorem Carried.andThen {o : Outcome} {next : Machine → Outcome} (h : o.Carried)
    (hn : ∀ m, (next m).Carried) : (o.andThen next).Carried := by
  intro e he
  cases ho : o.error with
  | some e' =>
    rw [andThen_stopped ho] at he
    exact h e he
  | none =>
    rw [andThen_going ho] at he
    exact hn o.machine e he

end Outcome

namespace Machine

open MachineError Outcome

theorem carried_printTop (q : Quantity) (after : Machine) : (printTop q after).Carried := by
  unfold printTop
  split
  · intro e h
    cases h
  · exact carried_failed _ (isLexical_ofShow _)

theorem carried_combineTop (m : Machine) {f : Quantity → Quantity → Except MachineError Quantity}
    (hf : ∀ x y e, f x y = .error e → e.isLexical = false) : (m.combineTop f).Carried := by
  unfold combineTop
  split
  · split
    · exact carried_done _
    · rename_i e h
      exact carried_failed _ (hf _ _ e h)
  · exact carried_failed _ rfl

theorem ifSameUnit_error {f : Quantity → Quantity → Quantity} (x y : Quantity) (e : MachineError)
    (h : ifSameUnit f x y = .error e) : e.isLexical = false := by
  unfold ifSameUnit at h
  split at h
  · cases h
  · rw [← Except.error.inj h]
    exact isLexical_mismatch _

theorem quotient_error (x y : Quantity) (e : MachineError) (h : quotient x y = .error e) :
    e.isLexical = false := by
  unfold quotient at h
  split at h
  · rw [← Except.error.inj h]
    rfl
  · cases h

theorem carried_annotate (m : Machine) (text : String) : (m.annotate text).Carried := by
  unfold annotate
  split
  · exact carried_failed _ rfl
  · split
    · exact carried_failed _ rfl
    · split_ifs
      · exact carried_done _
      · exact carried_done _
      · exact carried_done _
      · exact carried_failed _ (isLexical_mismatch _)

theorem carried_carryOut (m : Machine) (op : Operator) : (m.carryOut op).Carried := by
  cases op with
  | add | subtract => exact m.carried_combineTop ifSameUnit_error
  | multiply =>
    refine m.carried_combineTop ?_
    intro x y e h
    cases h
  | divide => exact m.carried_combineTop quotient_error
  | print | take =>
    simp only [carryOut]
    split
    · exact carried_failed _ rfl
    · exact carried_printTop _ _
  | list =>
    simp only [carryOut]
    split
    · intro e h
      cases h
    · exact carried_failed _ (isLexical_ofShow _)
  | clear => exact carried_done _
  | duplicate =>
    simp only [carryOut]
    split
    · exact carried_failed _ rfl
    · exact carried_done _
  | swap =>
    simp only [carryOut]
    split
    · exact carried_done _
    · exact carried_failed _ rfl
  | reservedS | reservedU | reservedV => exact carried_failed _ rfl

theorem carried_step (m : Machine) (t : Lexeme) : (m.step t).Carried := by
  cases t with
  | number text =>
    simp only [step]
    split
    · exact carried_done _
    · exact carried_failed _ rfl
  | unit text => exact m.carried_annotate text
  | store name =>
    simp only [step]
    split
    · exact carried_failed _ rfl
    · exact carried_done _
  | load name =>
    simp only [step]
    split
    · exact carried_failed _ rfl
    · exact carried_done _
  | operator op => exact m.carried_carryOut op

theorem carried_runTokens (m : Machine) (ts : List Lexeme) : (m.runTokens ts).Carried := by
  induction ts generalizing m with
  | nil => exact carried_done m
  | cons t ts ih => exact (m.carried_step t).andThen ih

/-- A text further down is carried out in the same way, and its error names another line. -/
theorem runTokens_ending_down (m : Machine) (text : String) (lines : Nat) :
    (m.runTokens (lexemes text)).andThen (ending ((lex text).error.map (LexError.down lines))) =
      ⟨(m.run text).machine, (m.run text).printed, (m.run text).error.map (down lines)⟩ := by
  cases hr : (m.runTokens (lexemes text)).error with
  | some e =>
    have he : e.isLexical = false := m.carried_runTokens (lexemes text) e hr
    rw [andThen_stopped hr, run_stopped hr, hr, Option.map_some, down_of_not_lexical he, ← hr]
  | none =>
    rw [andThen_going hr, run_going hr]
    cases (lex text).error with
    | none => simp [ending, done]
    | some e => simp [ending, failed, down]

/-- A line that can be read is read by itself, for no token goes beyond its end. -/
theorem lexemes_append {a : String} (b : String) (h : (lex a).error = none) :
    lexemes (a ++ "\n" ++ b) = lexemes a ++ lexemes b := by
  have hdown : ((lex b).tokens.map (Token.down (linesOf a))).map (·.lexeme) = lexemes b := by
    rw [List.map_map]
    rfl
  rw [lexemes, lex_append b h, List.map_append]
  exact congrArg (lexemes a ++ ·) hdown

/-- Where a line cannot be read, nothing behind it is. -/
theorem lexemes_append_failed {a : String} {e : LexError} (b : String)
    (h : (lex a).error = some e) : lexemes (a ++ "\n" ++ b) = lexemes a := by
  rw [lexemes, lex_append_failed b h]
  rfl

/-- A text that completes is followed by the next one as if that were run by itself. -/
theorem run_append {m : Machine} {a : String} (b : String) (h : (m.run a).error = none) :
    m.run (a ++ "\n" ++ b) =
      ⟨((m.run a).machine.run b).machine, (m.run a).printed ++ ((m.run a).machine.run b).printed,
        ((m.run a).machine.run b).error.map (down (linesOf a))⟩ := by
  obtain ⟨hl, hr, -⟩ := run_completed h
  have hend : (lex (a ++ "\n" ++ b)).error = (lex b).error.map (LexError.down (linesOf a)) := by
    rw [lex_append b hl]
    rfl
  rw [run_eq, lexemes_append b hl, hend, runTokens_append, andThen_assoc, andThen_going hr,
    runTokens_ending_down, run_going hr]

/-- A text that fails leaves nothing to the next one. -/
theorem run_append_failed {m : Machine} {a : String} {e : MachineError} (b : String)
    (h : (m.run a).error = some e) :
    m.run (a ++ "\n" ++ b) = ⟨(m.run a).machine, (m.run a).printed, some (e.before '\n')⟩ := by
  cases hr : (m.runTokens (lexemes a)).error with
  | some e' =>
    -- The failing token is one of `a`, whatever the reading comes to behind it.
    have he : e'.isLexical = false := m.carried_runTokens (lexemes a) e' hr
    obtain ⟨more, hmore⟩ : ∃ more, lexemes (a ++ "\n" ++ b) = lexemes a ++ more := by
      cases hl : (lex a).error with
      | none => exact ⟨lexemes b, lexemes_append b hl⟩
      | some x => exact ⟨[], by rw [lexemes_append_failed b hl, List.append_nil]⟩
    have hall : m.runTokens (lexemes (a ++ "\n" ++ b)) = m.runTokens (lexemes a) := by
      rw [hmore, runTokens_append, andThen_stopped hr]
    rw [run_stopped hr, hr] at h
    rw [run_eq, hall, andThen_stopped hr, run_stopped hr, ← Option.some.inj h,
      before_of_not_lexical he, ← hr]
  | none =>
    rw [run_going hr] at h
    obtain ⟨x, hl, rfl⟩ := Option.map_eq_some_iff.mp h
    have hend : (lex (a ++ "\n" ++ b)).error = some (x.before '\n') := by
      rw [lex_append_failed b hl]
    rw [run_eq, lexemes_append_failed b hl, hend, andThen_going hr, run_going hr]
    simp [ending, failed, before]

/-- Two texts with a line break between them are run one after the other, if the first completes:
the machine, what is printed and the error are the same, except that an error of the reading counts
the lines of the first text too. If the first fails, nothing of the second is run. -/
theorem run_line_by_line (m : Machine) (a b : String) :
    let joined := m.run (a ++ "\n" ++ b)
    match (m.run a).error with
    | none =>
      let next := (m.run a).machine.run b
      joined.machine = next.machine ∧ joined.printed = (m.run a).printed ++ next.printed ∧
        joined.error = next.error.map (down (a.toList.count '\n' + 1)) ∧
        joined.error.map fault = next.error.map fun
          | invalidCharacter ⟨found, line, column⟩ =>
            ⟨.engine, some (failureText ⟨found, line + (a.toList.count '\n' + 1), column⟩)⟩
          | e => e.fault
    | some e =>
      joined.machine = (m.run a).machine ∧ joined.printed = (m.run a).printed ∧
        joined.error = some (e.before '\n') := by
  intro joined
  cases h : (m.run a).error with
  | none =>
    have hj : joined = _ := run_append b h
    rw [hj]
    refine ⟨rfl, rfl, rfl, ?_⟩
    rw [Option.map_map]
    refine congrArg (Option.map · ((m.run a).machine.run b).error) ?_
    funext e
    exact e.fault_down (linesOf a)
  | some e =>
    have hj : joined = _ := run_append_failed b h
    rw [hj]
    exact ⟨rfl, rfl, rfl⟩

end Machine

end DeskCalc
