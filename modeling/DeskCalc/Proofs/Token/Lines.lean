import DeskCalc.Proofs.Token.Spans

namespace DeskCalc

open Text Lexer

/-- The same column, some lines further down. -/
def Position.down (lines : Nat) (p : Position) : Position := ⟨p.line + lines, p.column⟩

def Token.down (lines : Nat) (t : Token) : Token := ⟨t.lexeme, t.position.down lines⟩

def LexError.down (lines : Nat) (e : LexError) : LexError := ⟨e.found, e.position.down lines⟩

def Lexed.down (lines : Nat) (l : Lexed) : Lexed :=
  ⟨l.tokens.map (Token.down lines), l.error.map (LexError.down lines)⟩

/-- The error of a text that goes on with `c`: what ended with the text meets `c` now. -/
def LexError.before (c : Char) (e : LexError) : LexError := ⟨some (e.found.getD c), e.position⟩

theorem Position.next_down (lines : Nat) (p : Position) (c : Char) :
    (p.down lines).next c = (p.next c).down lines := by
  unfold next
  split
  · simp only [down, Position.mk.injEq, and_true]
    omega
  · rfl

theorem Position.past_down (lines : Nat) (p : Position) (cs : List Char) :
    (p.down lines).past cs = (p.past cs).down lines := by
  induction cs generalizing p with
  | nil => rfl
  | cons c cs ih =>
    have hc : (p.down lines).past (c :: cs) = ((p.down lines).next c).past cs := rfl
    rw [hc, next_down]
    exact ih (p.next c)

/-- Behind a text and a line break the first column comes next, as many lines down. -/
theorem Position.past_break (cs : List Char) :
    (start.past cs).next '\n' = start.down (cs.count '\n' + 1) := by
  have hafter : start.past cs = after cs := past_after [] cs
  rw [hafter]
  simp only [next, after, down, start, if_pos, Position.mk.injEq, and_true]
  omega

namespace Lexer

variable {p : Position} {a b rest : List Char} {l k : Lexed} {e : LexError}

theorem Reads.down (h : Reads p a l) (lines : Nat) : Reads (p.down lines) a (l.down lines) := by
  induction h with
  | done => exact .done
  | @blank p c rest l hc _ ih =>
    rw [← Position.next_down] at ih
    exact .blank hc ih
  | @comment p body rest l hb hs _ ih =>
    rw [← Position.past_down] at ih
    exact .comment hb hs ih
  | @token p rest l t hw he _ ih =>
    rw [← Position.past_down] at ih
    exact .token hw he ih
  | @unclosed p body rest hb hs hr =>
    have hu := Reads.unclosed (p := p.down lines) hb hs hr
    rwa [Position.past_down] at hu
  | stray hc => exact .stray hc

theorem isBlank_break : isBlank '\n' = true := by decide

/-- A line break stops what the end of a text would stop. -/
theorem Stops.followed {q : Char → Bool} (h : Stops q rest) (hq : q '\n' = false)
    (b : List Char) : Stops q (rest ++ '\n' :: b) := by
  cases rest with
  | nil => exact stops_cons.mpr hq
  | cons c rest => exact stops_cons.mpr (stops_cons.mp h)

/-- No token goes on behind a line break. -/
theorem endsBefore_followed {t : Lexeme} (h : t.EndsBefore rest) (b : List Char) :
    t.EndsBefore (rest ++ '\n' :: b) := by
  cases t with
  | number text => exact Stops.followed h (by decide) b
  | store name => exact Stops.followed h (by decide) b
  | load name => exact Stops.followed h (by decide) b
  | unit text => trivial
  | operator op => trivial

/-- A text that is read to its end leaves a second one, behind a line break, to be read on its own.
-/
theorem Reads.append (h : Reads p a l) (hl : l.error = none)
    (hb : Reads ((p.past a).next '\n') b k) :
    Reads p (a ++ '\n' :: b) ⟨l.tokens ++ k.tokens, k.error⟩ := by
  induction h with
  | done => exact .blank isBlank_break hb
  | blank hc _ ih => exact .blank hc (ih hl hb)
  | @comment p body rest l hbody hs _ ih =>
    have hpast : (p.past ('#' :: (body ++ rest))) = (p.past ('#' :: body)).past rest := by
      rw [← List.cons_append]
      exact List.foldl_append
    rw [hpast] at hb
    have hr := Reads.comment hbody (hs.followed (by decide) b) (ih hl hb)
    rwa [← List.append_assoc] at hr
  | @token p rest l t hw he _ ih =>
    have hpast : p.past (t.spelling ++ rest) = (p.past t.spelling).past rest := List.foldl_append
    rw [hpast] at hb
    have hr := Reads.token hw (endsBefore_followed he b) (ih hl hb)
    rwa [← List.append_assoc] at hr
  | unclosed => cases hl
  | stray => cases hl

/-- Where the reading of a text fails, it fails in front of a line break as well. -/
theorem Reads.append_failed (h : Reads p a l) (hl : l.error = some e) (b : List Char) :
    Reads p (a ++ '\n' :: b) ⟨l.tokens, some (e.before '\n')⟩ := by
  induction h with
  | done => cases hl
  | blank hc _ ih => exact .blank hc (ih hl)
  | comment hbody hs _ ih =>
    have hr := Reads.comment hbody (hs.followed (by decide) b) (ih hl)
    rwa [← List.append_assoc] at hr
  | token hw he _ ih =>
    have hr := Reads.token hw (endsBefore_followed he b) (ih hl)
    rwa [← List.append_assoc] at hr
  | @unclosed p body rest hb hs hr =>
    have hfound : (rest ++ '\n' :: b).head? = some (rest.head?.getD '\n') := by
      cases rest <;> rfl
    have hopen : (rest ++ '\n' :: b).head? ≠ some ')' := by
      cases rest with
      | nil => simp
      | cons c rest => exact hr
    have hu := Reads.unclosed (p := p) hb (hs.followed (by decide) b) hopen
    rw [hfound, ← List.append_assoc] at hu
    rw [← Option.some.inj hl]
    exact hu
  | stray hc =>
    rw [← Option.some.inj hl]
    exact .stray hc

end Lexer

theorem toList_line (a b : String) : (a ++ "\n" ++ b).toList = a.toList ++ '\n' :: b.toList := by
  simp

/-- The lines that a text takes up when another one is put behind it. -/
def linesOf (text : String) : Nat := text.toList.count '\n' + 1

/-- What is read of two lines is read of each, at its own place. -/
theorem lex_append {a : String} (b : String) (h : (lex a).error = none) :
    lex (a ++ "\n" ++ b) = ⟨(lex a).tokens ++ ((lex b).down (linesOf a)).tokens,
      ((lex b).down (linesOf a)).error⟩ := by
  have ha : Reads .start a.toList (lex a) := reads_scan _ _
  have hb : Reads ((Position.start.past a.toList).next '\n') b.toList
      ((lex b).down (linesOf a)) := by
    rw [Position.past_break]
    exact (reads_scan _ _).down _
  rw [lex, toList_line]
  exact scan_of_reads (ha.append h hb)

/-- Where the first line cannot be read, the line break may be what is found. -/
theorem lex_append_failed {a : String} {e : LexError} (b : String) (h : (lex a).error = some e) :
    lex (a ++ "\n" ++ b) = ⟨(lex a).tokens, some (e.before '\n')⟩ := by
  have ha : Reads .start a.toList (lex a) := reads_scan _ _
  rw [lex, toList_line]
  exact scan_of_reads (ha.append_failed h b.toList)

end DeskCalc
