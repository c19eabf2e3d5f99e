import DeskCalc.Proofs.Token.Grammar

namespace DeskCalc

open Text Lexer

namespace Lexeme

theorem endsBefore_nil (t : Lexeme) : t.EndsBefore [] := by
  cases t with
  | number | store | load => exact stops_nil _
  | unit | operator => trivial

/-- A space is in no number and in no name. -/
theorem endsBefore_space (t : Lexeme) (cs : List Char) : t.EndsBefore (' ' :: cs) := by
  cases t with
  | number | store | load => exact stops_cons.mpr (by decide)
  | unit | operator => trivial

theorem spelled_singleton (t : Lexeme) : spelled [t] = t.spelling := by
  simp [spelled, List.intercalate]

theorem spelled_cons_cons (t u : Lexeme) (ts : List Lexeme) :
    spelled (t :: u :: ts) = t.spelling ++ ' ' :: spelled (u :: ts) := by
  simp [spelled, List.intercalate]

end Lexeme

namespace Lexer

variable {p : Position} {cs : List Char} {l : Lexed} {ts : List Lexeme}

/-- One space is enough to keep any two tokens apart. -/
theorem readsAs_spelled (h : ∀ t ∈ ts, t.WellFormed) : ReadsAs (Lexeme.spelled ts) ts := by
  induction ts with
  | nil => exact readsAs_nil
  | cons t ts ih =>
    obtain ⟨ht, hts⟩ := List.forall_mem_cons.mp h
    cases ts with
    | nil =>
      have hlast : ReadsAs (t.spelling ++ []) [t] := readsAs_nil.token ht t.endsBefore_nil
      rwa [List.append_nil, ← Lexeme.spelled_singleton] at hlast
    | cons u us =>
      have hrest : ReadsAs (' ' :: Lexeme.spelled (u :: us)) (u :: us) := (ih hts).blank (by decide)
      rw [Lexeme.spelled_cons_cons]
      exact hrest.token ht (t.endsBefore_space _)

/-- What is read can be written out: each token holds the characters of its class. -/
theorem Reads.wellFormed (h : Reads p cs l) : ∀ t ∈ l.tokens.map Token.lexeme, t.WellFormed := by
  induction h with
  | done | unclosed | stray => simp
  | blank _ _ ih => exact ih
  | comment _ _ _ ih => exact ih
  | token hw _ _ ih => exact List.forall_mem_cons.mpr ⟨hw, ih⟩

end Lexer

/-- Well-formed lexemes, written out with one space between any two, are read as they are, to the
end of the text. Those that are read from a text are well formed, also if its reading fails after
them; so to write them out and read them again changes none of them. -/
theorem lex_spelled :
    (∀ ts : List Lexeme, (∀ t ∈ ts, t.WellFormed) →
      (lex (.ofList (Lexeme.spelled ts))).error = none ∧
        (lex (.ofList (Lexeme.spelled ts))).tokens.map Token.lexeme = ts) ∧
    ∀ text : String,
      let ts := (lex text).tokens.map Token.lexeme
      (lex (.ofList (Lexeme.spelled ts))).error = none ∧
        (lex (.ofList (Lexeme.spelled ts))).tokens.map Token.lexeme = ts := by
  have hread : ∀ ts : List Lexeme, (∀ t ∈ ts, t.WellFormed) →
      (lex (.ofList (Lexeme.spelled ts))).error = none ∧
        (lex (.ofList (Lexeme.spelled ts))).tokens.map Token.lexeme = ts := by
    intro ts hts
    apply ReadsAs.lex
    rw [String.toList_ofList]
    exact readsAs_spelled hts
  refine ⟨hread, ?_⟩
  intro text ts
  exact hread ts (reads_scan .start text.toList).wellFormed

/-- Tokens that would be read as others if they were not kept apart, among them a unit and a name
that are empty; and a text of the same tokens with comments and blanks between them. -/
theorem lex_spelled_apart :
    let ts : List Lexeme := [.number "1e-", .operator .subtract, .number "_2", .store "",
      .operator .duplicate, .load "d", .operator .divide, .unit "", .unit "m/s*kg"]
    (∀ t ∈ ts, t.WellFormed) ∧
    String.ofList (Lexeme.spelled ts) = "1e- - _2 > d <d / () (m/s*kg)" ∧
    (lex "1e- - _2 > d <d / () (m/s*kg)").error = none ∧
    (lex "1e- - _2 > d <d / () (m/s*kg)").tokens.map Token.lexeme = ts ∧
    (lex "1e-# one\n-\t_2>\nd<d/()(m/s*kg) # end").tokens.map Token.lexeme = ts := by
  intro ts
  have hts : ∀ t ∈ ts, t.WellFormed := by
    have hfirst : (Lexeme.number "1e-").WellFormed :=
      ⟨'1', ['e', '-'], rfl, rfl, by simp [inNumber]⟩
    have hsecond : (Lexeme.number "_2").WellFormed :=
      ⟨'_', ['2'], rfl, rfl, by simp [inNumber, isFigure]⟩
    have hload : (Lexeme.load "d").WellFormed := by simp [Lexeme.WellFormed, inName, isLetter]
    have hunit : (Lexeme.unit "m/s*kg").WellFormed := by
      simp [Lexeme.WellFormed, inUnit, inName, isLetter]
    have hempty : (Lexeme.store "").WellFormed ∧ (Lexeme.unit "").WellFormed := by
      simp [Lexeme.WellFormed]
    simp only [ts, List.forall_mem_cons]
    exact ⟨hfirst, trivial, hsecond, hempty.1, trivial, hload, trivial, hempty.2, hunit, by simp⟩
  have hs : String.ofList (Lexeme.spelled ts) = "1e- - _2 > d <d / () (m/s*kg)" := by decide
  have hread := lex_spelled.1 ts hts
  rw [hs] at hread
  exact ⟨hts, hs, hread.1, hread.2, by decide +kernel⟩

end DeskCalc
