import DeskCalc.Token.Lexer
import Mathlib.Data.List.TakeWhile

namespace DeskCalc

open Text

namespace Lexer

/-- No character of class `p` comes next. -/
def Stops (p : Char → Bool) (rest : List Char) : Prop := ∀ c ∈ rest.head?, p c = false

/-- A character that begins a gap or a token. -/
def begins (c : Char) : Bool :=
  isBlank c || c = '#' || startsNumber c || c = '(' || c = '>' || c = '<' ||
    (Operator.ofChar? c).isSome

end Lexer

open Lexer

namespace Lexeme

/-- The text of a lexeme keeps to the characters of its class. -/
def WellFormed : Lexeme → Prop
  | number text => ∃ c cs, text.toList = c :: cs ∧ startsNumber c = true ∧
      ∀ d ∈ cs, inNumber d = true
  | unit text => ∀ d ∈ text.toList, inUnit d = true
  | store name => ∀ d ∈ name.toList, inName d = true
  | load name => ∀ d ∈ name.toList, inName d = true
  | operator _ => True

/-- Numbers and names go on as long as they can; units and operators end by themselves. -/
def EndsBefore (rest : List Char) : Lexeme → Prop
  | number _ => Stops inNumber rest
  | store _ => Stops inName rest
  | load _ => Stops inName rest
  | unit _ => True
  | operator _ => True

end Lexeme

namespace Lexer

/-- What is read from a text that stands at a place. -/
inductive Reads : Position → List Char → Lexed → Prop
  | done {p} : Reads p [] ⟨[], none⟩
  | blank {p c rest l} : isBlank c = true → Reads (p.next c) rest l → Reads p (c :: rest) l
  | comment {p body rest l} : (∀ d ∈ body, inComment d = true) → Stops inComment rest →
      Reads (p.past ('#' :: body)) rest l → Reads p ('#' :: (body ++ rest)) l
  | token {p rest l} {t : Lexeme} : t.WellFormed → t.EndsBefore rest →
      Reads (p.past t.spelling) rest l → Reads p (t.spelling ++ rest) (l.cons ⟨t, p⟩)
  | unclosed {p body rest} : (∀ d ∈ body, inUnit d = true) → Stops inUnit rest →
      rest.head? ≠ some ')' →
      Reads p ('(' :: (body ++ rest)) ⟨[], some ⟨rest.head?, p.past ('(' :: body)⟩⟩
  | stray {p c rest} : begins c = false → Reads p (c :: rest) ⟨[], some ⟨some c, p⟩⟩

variable {q : Char → Bool} {body rest cs : List Char} {c : Char}

theorem stops_nil (q : Char → Bool) : Stops q [] := by
  intro c hc
  cases hc

theorem stops_cons : Stops q (c :: cs) ↔ q c = false := by
  simp [Stops]

theorem stops_dropWhile (q : Char → Bool) (cs : List Char) : Stops q (cs.dropWhile q) := by
  intro c hc
  have h := List.head?_dropWhile_not q cs
  rw [hc] at h
  exact h

theorem exists_run (q : Char → Bool) (cs : List Char) :
    ∃ body rest, cs = body ++ rest ∧ (∀ d ∈ body, q d = true) ∧ Stops q rest :=
  ⟨cs.takeWhile q, cs.dropWhile q, List.takeWhile_append_dropWhile.symm,
    fun _ => List.mem_takeWhile_imp, stops_dropWhile q cs⟩

theorem takeWhile_run (hb : ∀ d ∈ body, q d = true) (hs : Stops q rest) :
    (body ++ rest).takeWhile q = body := by
  rw [List.takeWhile_append_of_pos hb]
  cases rest with
  | nil => simp
  | cons c rest => simp [stops_cons.mp hs]

theorem dropWhile_run (hb : ∀ d ∈ body, q d = true) (hs : Stops q rest) :
    (body ++ rest).dropWhile q = rest := by
  rw [List.dropWhile_append_of_pos hb]
  cases rest with
  | nil => simp
  | cons c rest => simp [stops_cons.mp hs]

/-- No visible character of the basic block is a blank. -/
theorem isBlank_of_visible (hlow : 33 ≤ c.toNat) (hhigh : c.toNat ≤ 126) : isBlank c = false := by
  simp only [isBlank, blankCodes, List.contains_eq_mem, decide_eq_false_iff_not, List.mem_cons,
    List.not_mem_nil, or_false, not_or]
  omega

theorem isBlank_of_startsNumber (h : startsNumber c = true) : isBlank c = false := by
  simp only [startsNumber, isFigure, Bool.or_eq_true, Bool.and_eq_true, decide_eq_true_eq] at h
  rcases h with ⟨hlow, hhigh⟩ | rfl
  · have hl : 48 ≤ c.toNat := hlow
    have hh : c.toNat ≤ 57 := hhigh
    exact isBlank_of_visible (by omega) (by omega)
  · decide

theorem ne_of_startsNumber (h : startsNumber c = true) : c ≠ '#' := by
  rintro rfl
  simp [startsNumber, isFigure] at h

theorem char_of_ofChar? {op : Operator} (h : Operator.ofChar? c = some op) : c = op.char := by
  simpa [eq_comm] using List.find?_some h

theorem ofChar?_char (op : Operator) : Operator.ofChar? op.char = some op := by
  cases op <;> decide

variable {p : Position}

theorem scan_blank (h : isBlank c = true) : scan p (c :: cs) = scan (p.next c) cs := by
  rw [scan, if_pos h]

theorem scan_comment (hb : ∀ d ∈ body, inComment d = true) (hs : Stops inComment rest) :
    scan p ('#' :: (body ++ rest)) = scan (p.past ('#' :: body)) rest := by
  rw [scan, if_neg (by decide), if_pos rfl, takeWhile_run hb hs, dropWhile_run hb hs]

theorem scan_number (h : startsNumber c = true) (hb : ∀ d ∈ body, inNumber d = true)
    (hs : Stops inNumber rest) :
    scan p (c :: (body ++ rest)) =
      (scan (p.past (c :: body)) rest).cons ⟨.number (.ofList (c :: body)), p⟩ := by
  rw [scan, if_neg (by simp [isBlank_of_startsNumber h]), if_neg (ne_of_startsNumber h), if_pos h,
    takeWhile_run hb hs, dropWhile_run hb hs]

theorem scan_unit (hb : ∀ d ∈ body, inUnit d = true) :
    scan p ('(' :: (body ++ ')' :: rest)) =
      (scan (p.past ('(' :: (body ++ [')']))) rest).cons ⟨.unit (.ofList body), p⟩ := by
  have hs : Stops inUnit (')' :: rest) := stops_cons.mpr (by decide)
  rw [scan, if_neg (by decide), if_neg (by decide), if_neg (by decide), if_pos rfl]
  have ht := takeWhile_run hb hs
  have hd := dropWhile_run hb hs
  split
  · rename_i rest' h
    rw [ht]
    rw [hd] at h
    rw [(List.cons.inj h).2]
    rfl
  · rename_i h
    exact absurd hd (h rest)

/-- A unit that is not closed ends the reading at the character that cannot go on with it. -/
theorem scan_unclosed (hb : ∀ d ∈ body, inUnit d = true) (hs : Stops inUnit rest)
    (hr : rest.head? ≠ some ')') :
    scan p ('(' :: (body ++ rest)) = ⟨[], some ⟨rest.head?, p.past ('(' :: body)⟩⟩ := by
  rw [scan, if_neg (by decide), if_neg (by decide), if_neg (by decide), if_pos rfl]
  have ht := takeWhile_run hb hs
  have hd := dropWhile_run hb hs
  split
  · rename_i rest' h
    rw [hd] at h
    simp [h] at hr
  · rw [ht, hd]

theorem scan_variable (h : c = '>' ∨ c = '<') (hb : ∀ d ∈ body, inName d = true)
    (hs : Stops inName rest) :
    scan p (c :: (body ++ rest)) =
      (scan (p.past (c :: body)) rest).cons ⟨variableLexeme c body, p⟩ := by
  have hclass : isBlank c = false ∧ c ≠ '#' ∧ startsNumber c = false ∧ c ≠ '(' := by
    rcases h with rfl | rfl <;> decide
  obtain ⟨hblank, hcomment, hnumber, hunit⟩ := hclass
  rw [scan, if_neg (by simp [hblank]), if_neg hcomment, if_neg (by simp [hnumber]), if_neg hunit,
    if_pos h, takeWhile_run hb hs, dropWhile_run hb hs]

theorem scan_operator (op : Operator) :
    scan p (op.char :: cs) = (scan (p.next op.char) cs).cons ⟨.operator op, p⟩ := by
  have hclass : isBlank op.char = false ∧ op.char ≠ '#' ∧ startsNumber op.char = false ∧
      op.char ≠ '(' ∧ ¬ (op.char = '>' ∨ op.char = '<') := by
    cases op <;> decide
  obtain ⟨hblank, hcomment, hnumber, hunit, hvariable⟩ := hclass
  rw [scan, if_neg (by simp [hblank]), if_neg hcomment, if_neg (by simp [hnumber]), if_neg hunit,
    if_neg hvariable, ofChar?_char]

theorem scan_stray (h : begins c = false) : scan p (c :: cs) = ⟨[], some ⟨some c, p⟩⟩ := by
  simp only [begins, Bool.or_eq_false_iff, decide_eq_false_iff_not, Option.isSome_eq_false_iff,
    Option.isNone_iff_eq_none] at h
  obtain ⟨⟨⟨⟨⟨⟨hblank, hcomment⟩, hnumber⟩, hunit⟩, hstore⟩, hload⟩, hoperator⟩ := h
  rw [scan, if_neg (by simp [hblank]), if_neg hcomment, if_neg (by simp [hnumber]), if_neg hunit,
    if_neg (by simp [hstore, hload]), hoperator]

/-- A token is read by itself if what follows it does not go on with it. -/
theorem scan_token {t : Lexeme} (hw : t.WellFormed) (he : t.EndsBefore rest) :
    scan p (t.spelling ++ rest) = (scan (p.past t.spelling) rest).cons ⟨t, p⟩ := by
  cases t with
  | number text =>
    obtain ⟨c, body, htext, hc, hb⟩ := hw
    have heq : text = .ofList (c :: body) := by rw [← htext, String.ofList_toList]
    rw [Lexeme.spelling, htext, List.cons_append, scan_number hc hb he, heq]
  | unit text =>
    have heq : (⟨.unit (.ofList text.toList), p⟩ : Token) = ⟨.unit text, p⟩ := by
      rw [String.ofList_toList]
    have hform : (Lexeme.unit text).spelling ++ rest = '(' :: (text.toList ++ ')' :: rest) := by
      simp [Lexeme.spelling]
    rw [hform, scan_unit hw, heq]
    rfl
  | store name =>
    have heq : variableLexeme '>' name.toList = .store name := by
      simp [variableLexeme]
    rw [Lexeme.spelling, List.cons_append, scan_variable (.inl rfl) hw he, heq]
  | load name =>
    have heq : variableLexeme '<' name.toList = .load name := by
      simp [variableLexeme]
    rw [Lexeme.spelling, List.cons_append, scan_variable (.inr rfl) hw he, heq]
  | operator op =>
    rw [Lexeme.spelling, List.singleton_append, scan_operator]
    rfl

theorem scan_of_reads {l : Lexed} (h : Reads p cs l) : scan p cs = l := by
  induction h with
  | done => rw [scan]
  | blank hc _ ih => rw [scan_blank hc, ih]
  | comment hb hs _ ih => rw [scan_comment hb hs, ih]
  | token hw he _ ih => rw [scan_token hw he, ih]
  | unclosed hb hs hr => exact scan_unclosed hb hs hr
  | stray hc => exact scan_stray hc

theorem reads_number {l : Lexed} (h : startsNumber c = true) (hb : ∀ d ∈ body, inNumber d = true)
    (hs : Stops inNumber rest) (hl : Reads (p.past (c :: body)) rest l) :
    Reads p (c :: (body ++ rest)) (l.cons ⟨.number (.ofList (c :: body)), p⟩) := by
  have hsp : (Lexeme.number (.ofList (c :: body))).spelling = c :: body := String.toList_ofList
  have hw : (Lexeme.number (.ofList (c :: body))).WellFormed :=
    ⟨c, body, String.toList_ofList, h, hb⟩
  have hr := Reads.token hw hs (hsp.symm ▸ hl)
  rwa [hsp, List.cons_append] at hr

theorem reads_unit {l : Lexed} (hb : ∀ d ∈ body, inUnit d = true)
    (hl : Reads (p.past ('(' :: body ++ [')'])) rest l) :
    Reads p ('(' :: (body ++ ')' :: rest)) (l.cons ⟨.unit (.ofList body), p⟩) := by
  have hsp : (Lexeme.unit (.ofList body)).spelling = '(' :: body ++ [')'] := by
    simp [Lexeme.spelling]
  have hw : (Lexeme.unit (.ofList body)).WellFormed := by
    simpa [Lexeme.WellFormed] using hb
  have hr : Reads p ((Lexeme.unit (.ofList body)).spelling ++ rest)
      (l.cons ⟨.unit (.ofList body), p⟩) :=
    .token hw trivial (hsp.symm ▸ hl)
  simpa [hsp] using hr

theorem reads_variable {l : Lexed} (h : c = '>' ∨ c = '<') (hb : ∀ d ∈ body, inName d = true)
    (hs : Stops inName rest) (hl : Reads (p.past (c :: body)) rest l) :
    Reads p (c :: (body ++ rest)) (l.cons ⟨variableLexeme c body, p⟩) := by
  have hsp : (variableLexeme c body).spelling = c :: body := by
    rcases h with rfl | rfl <;> simp [variableLexeme, Lexeme.spelling]
  have hw : (variableLexeme c body).WellFormed := by
    rcases h with rfl | rfl <;> simpa [variableLexeme, Lexeme.WellFormed] using hb
  have he : (variableLexeme c body).EndsBefore rest := by
    rcases h with rfl | rfl <;> exact hs
  have hr := Reads.token hw he (hsp.symm ▸ hl)
  rwa [hsp, List.cons_append] at hr

/-- What the reader finds is what the grammar relates to the text: by its own cases, with each run
of a class written as a body and what stops it. -/
theorem reads_scan (p : Position) (cs : List Char) : Reads p cs (scan p cs) := by
  fun_induction scan p cs with
  | case1 => exact .done
  | case2 p c rest hblank ih => exact .blank hblank ih
  | case3 p cs _ ih =>
    obtain ⟨body, rest, rfl, hb, hs⟩ := exists_run inComment cs
    rw [takeWhile_run hb hs, dropWhile_run hb hs] at ih ⊢
    exact .comment hb hs ih
  | case4 p c cs _ _ hnumber run ih =>
    obtain ⟨body, rest, rfl, hb, hs⟩ := exists_run inNumber cs
    simp only [run, takeWhile_run hb hs, dropWhile_run hb hs] at ih ⊢
    exact reads_number hnumber hb hs ih
  | case5 p cs run rest hrest _ _ _ ih =>
    have hcs : cs = run ++ ')' :: rest := by
      rw [← hrest]
      exact List.takeWhile_append_dropWhile.symm
    rw [hcs]
    exact reads_unit (fun _ => List.mem_takeWhile_imp) ih
  | case6 p cs run _ _ _ hopen =>
    obtain ⟨body, rest, rfl, hb, hs⟩ := exists_run inUnit cs
    simp only [run, takeWhile_run hb hs, dropWhile_run hb hs] at hopen ⊢
    refine .unclosed hb hs ?_
    intro hr
    obtain ⟨more, hmore⟩ := List.head?_eq_some_iff.mp hr
    exact hopen more hmore
  | case7 p c cs _ _ _ _ hsign run ih =>
    obtain ⟨body, rest, rfl, hb, hs⟩ := exists_run inName cs
    simp only [run, takeWhile_run hb hs, dropWhile_run hb hs] at ih ⊢
    exact reads_variable hsign hb hs ih
  | case8 p c cs _ _ _ _ _ op hop ih =>
    obtain rfl := char_of_ofChar? hop
    exact .token (t := .operator op) trivial trivial ih
  | case9 p c cs hblank hcomment hnumber hunit hsign hop =>
    refine .stray ?_
    simp_all [begins]

/-- Reading a text gives what the grammar relates to it, and that alone. -/
theorem scan_eq_iff {l : Lexed} : scan p cs = l ↔ Reads p cs l := by
  constructor
  · rintro rfl
    exact reads_scan p cs
  · exact scan_of_reads

/-- Wherever a text stands, it is read as these lexemes to its end. -/
def ReadsAs (cs : List Char) (ts : List Lexeme) : Prop :=
  ∀ p, ∃ l, Reads p cs l ∧ l.error = none ∧ l.tokens.map Token.lexeme = ts

variable {ts : List Lexeme}

theorem readsAs_nil : ReadsAs [] [] := fun _ => ⟨⟨[], none⟩, .done, rfl, rfl⟩

/-- A blank in front of a text changes the places of its tokens alone. -/
theorem ReadsAs.blank (h : ReadsAs cs ts) (hc : isBlank c = true) : ReadsAs (c :: cs) ts := by
  intro p
  obtain ⟨l, hr, he, ht⟩ := h (p.next c)
  exact ⟨l, .blank hc hr, he, ht⟩

theorem ReadsAs.token {t : Lexeme} (h : ReadsAs cs ts) (hw : t.WellFormed)
    (hb : t.EndsBefore cs) : ReadsAs (t.spelling ++ cs) (t :: ts) := by
  intro p
  obtain ⟨l, hr, he, ht⟩ := h (p.past t.spelling)
  exact ⟨l.cons ⟨t, p⟩, .token hw hb hr, he, by simp [Lexed.cons, ht]⟩

theorem ReadsAs.lex {text : String} (h : ReadsAs text.toList ts) :
    (lex text).error = none ∧ (lex text).tokens.map Token.lexeme = ts := by
  obtain ⟨l, hr, he, ht⟩ := h .start
  have hl : DeskCalc.lex text = l := scan_of_reads hr
  rw [hl]
  exact ⟨he, ht⟩

end Lexer

end DeskCalc
