import DeskCalc.Machine

namespace DeskCalc

namespace Outcome

theorem andThen_stopped {o : Outcome} {e : MachineError} (h : o.error = some e)
    (next : Machine → Outcome) : o.andThen next = o := by
  rw [andThen, h]

theorem andThen_going {o : Outcome} (h : o.error = none) (next : Machine → Outcome) :
    o.andThen next =
      ⟨(next o.machine).machine, o.printed ++ (next o.machine).printed,
        (next o.machine).error⟩ := by
  rw [andThen, h]

theorem andThen_assoc (o : Outcome) (f g : Machine → Outcome) :
    (o.andThen f).andThen g = o.andThen fun m => (f m).andThen g := by
  cases h : o.error with
  | some e => rw [andThen_stopped h, andThen_stopped h, andThen_stopped h]
  | none =>
    rw [andThen_going h, andThen_going h]
    cases hf : (f o.machine).error with
    | some e => rw [andThen_stopped hf, andThen_stopped rfl, hf]
    | none => rw [andThen_going hf, andThen_going rfl, List.append_assoc]

end Outcome

namespace Machine

theorem runTokens_append (m : Machine) (ts us : List Lexeme) :
    m.runTokens (ts ++ us) = (m.runTokens ts).andThen (·.runTokens us) := by
  induction ts generalizing m with
  | nil =>
    rw [List.nil_append, runTokens, Outcome.andThen_going rfl]
    rfl
  | cons t ts ih =>
    rw [List.cons_append, runTokens, runTokens, Outcome.andThen_assoc]
    congr 1
    funext n
    exact ih n

/-- A run that fails has one token at which it does, reached without a failure. -/
theorem runTokens_failed {m : Machine} {ts : List Lexeme} {e : MachineError}
    (h : (m.runTokens ts).error = some e) :
    ∃ before t rest, ts = before ++ t :: rest ∧ (m.runTokens before).error = none ∧
      ((m.runTokens before).machine.step t).error = some e := by
  induction ts generalizing m with
  | nil => simp [runTokens, Outcome.done] at h
  | cons t ts ih =>
    cases hs : (m.step t).error with
    | some e' =>
      have he : e' = e := by
        rw [runTokens, Outcome.andThen_stopped hs, hs] at h
        exact Option.some.inj h
      exact ⟨[], t, ts, rfl, rfl, he ▸ hs⟩
    | none =>
      rw [runTokens, Outcome.andThen_going hs] at h
      obtain ⟨before, u, rest, hts, hb, hu⟩ := ih h
      have hrun : m.runTokens (t :: before) =
          ⟨((m.step t).machine.runTokens before).machine,
            (m.step t).printed ++ ((m.step t).machine.runTokens before).printed, none⟩ := by
        rw [runTokens, Outcome.andThen_going hs, hb]
      exact ⟨t :: before, u, rest, by rw [hts, List.cons_append], by rw [hrun],
        by rw [hrun]; exact hu⟩

/-- What such a run leaves is what its failing token leaves, and it prints what came before. -/
theorem runTokens_cut {m : Machine} {before rest : List Lexeme} {t : Lexeme} {e : MachineError}
    (hb : (m.runTokens before).error = none)
    (ht : ((m.runTokens before).machine.step t).error = some e) :
    m.runTokens (before ++ t :: rest) =
      ⟨((m.runTokens before).machine.step t).machine,
        (m.runTokens before).printed ++ ((m.runTokens before).machine.step t).printed, some e⟩ := by
  rw [runTokens_append, Outcome.andThen_going hb, runTokens, Outcome.andThen_stopped ht, ht]

def lexemes (text : String) : List Lexeme := (lex text).tokens.map (·.lexeme)

/-- What a run comes to once the tokens of its text are carried out. -/
def ending (error : Option LexError) (m : Machine) : Outcome :=
  match error with
  | none => .done m
  | some e => .failed m (.invalidCharacter e)

theorem run_eq (m : Machine) (text : String) :
    m.run text = (m.runTokens (lexemes text)).andThen (ending (lex text).error) := by
  cases h : (lex text).error with
  | none => simp only [run, h]; rfl
  | some e => simp only [run, h]; rfl

theorem run_stopped {m : Machine} {text : String} {e : MachineError}
    (h : (m.runTokens (lexemes text)).error = some e) :
    m.run text = m.runTokens (lexemes text) := by
  rw [run_eq, Outcome.andThen_stopped h]

/-- Where all tokens are carried out, what cannot be read behind them is the error. -/
theorem run_going {m : Machine} {text : String}
    (h : (m.runTokens (lexemes text)).error = none) :
    m.run text = ⟨(m.runTokens (lexemes text)).machine, (m.runTokens (lexemes text)).printed,
      (lex text).error.map .invalidCharacter⟩ := by
  rw [run_eq, Outcome.andThen_going h]
  cases (lex text).error with
  | none => simp [ending, Outcome.done]
  | some e => simp [ending, Outcome.failed]

/-- A text that is carried out is read to its end, and does what its tokens do. -/
theorem run_completed {m : Machine} {text : String} (h : (m.run text).error = none) :
    (lex text).error = none ∧ (m.runTokens (lexemes text)).error = none ∧
      m.run text = m.runTokens (lexemes text) := by
  cases he : (m.runTokens (lexemes text)).error with
  | some e =>
    rw [run_stopped he, he] at h
    cases h
  | none =>
    have hrun := run_going he
    have hlex : (lex text).error = none := by
      rw [hrun] at h
      exact Option.map_eq_none_iff.mp h
    rw [hlex, Option.map_none, ← he] at hrun
    exact ⟨hlex, rfl, hrun⟩

end Machine

end DeskCalc
