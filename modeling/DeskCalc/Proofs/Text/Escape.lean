import DeskCalc.Text.Markup
import Mathlib.Data.List.TakeWhile
import Mathlib.Tactic.Common

namespace DeskCalc.Text.Markup

theorem pieces_backslash (k : Nat) (cs : List Char) :
    pieces k ('\\' :: cs) = pieces (k + 1) cs := by
  rw [pieces, if_pos rfl]

theorem pieces_plain {c : Char} {cs : List Char} (hc : c ≠ '\\') (ht : c = '[' → tag? cs = none)
    (k : Nat) :
    pieces k (c :: cs) = List.replicate k (.plain '\\') ++ .plain c :: pieces 0 cs := by
  have hnone : (if c = '[' then tag? cs else none) = none := by
    split
    · exact ht ‹_›
    · rfl
  rw [pieces, if_neg hc]
  split
  · rename_i h
    cases hnone.symm.trans h
  · rfl

/-- A tag is read as a whole, with the backslashes before it. -/
theorem pieces_tag {inside cs rest : List Char} (h : tag? cs = some (inside, rest)) (k : Nat) :
    pieces k ('[' :: cs) = .tag k inside :: pieces 0 rest := by
  have hsome : (if '[' = '[' then tag? cs else none) = some (inside, rest) := by
    rw [if_pos rfl, h]
  rw [pieces, if_neg (by decide)]
  split
  · rename_i found
    cases hsome.symm.trans found
    rfl
  · rename_i found
    cases hsome.symm.trans found

/-- A text is empty, or begins with a backslash, with a tag or with another character. -/
theorem pieces_cases {motive : Nat → List Char → Prop} (nil : ∀ k, motive k [])
    (backslash : ∀ k cs, motive (k + 1) cs → motive k ('\\' :: cs))
    (tag : ∀ k cs inside rest, tag? cs = some (inside, rest) → motive 0 rest →
      motive k ('[' :: cs))
    (plain : ∀ k c cs, c ≠ '\\' → (c = '[' → tag? cs = none) → motive 0 cs → motive k (c :: cs))
    (k : Nat) (cs : List Char) : motive k cs := by
  induction k, cs using pieces.induct with
  | case1 k => exact nil k
  | case2 k cs ih => exact backslash k cs ih
  | case3 k c cs hc inside rest h ih =>
    split at h
    · rename_i hb
      rw [hb]
      exact tag k cs inside rest h ih
    · cases h
  | case4 k c cs hc h ih =>
    refine plain k c cs hc ?_ ih
    intro hb
    simpa [hb] using h

/-- The inside of a piece that is read as a tag. -/
def Piece.live? : Piece → Option (List Char)
  | plain _ => none
  | tag backslashes inside => if backslashes % 2 = 1 then none else some inside

def Mark.inside? : Mark → Option (List Char)
  | char _ => none
  | tag inside _ => some inside

/-- The insides of the tags that are read in a text, where `k` backslashes have been read before. -/
def tags (k : Nat) (cs : List Char) : List (List Char) := (pieces k cs).filterMap Piece.live?

theorem inside?_chars (cs : List Char) : (cs.map Mark.char).filterMap Mark.inside? = [] := by
  rw [List.filterMap_map, List.filterMap_eq_nil_iff]
  intro c _
  rfl

theorem live?_backslashes (k : Nat) :
    (List.replicate k (Piece.plain '\\')).filterMap Piece.live? = [] := by
  rw [List.filterMap_eq_nil_iff]
  intro p hp
  rw [List.eq_of_mem_replicate hp]
  rfl

/-- The tags that are read are those with an even number of backslashes before them. -/
theorem inside?_marks (position : Nat) (ps : List Piece) :
    (marks position ps).filterMap Mark.inside? = ps.filterMap Piece.live? := by
  fun_induction marks position ps with
  | case1 => rfl
  | case2 position rest ih => exact ih
  | case3 position c rest _ ih => exact ih
  | case4 position backslashes inside rest after ih =>
    have hb := inside?_chars (List.replicate (backslashes / 2) '\\')
    rw [List.filterMap_append, hb, List.nil_append, List.filterMap_cons]
    split
    · rename_i hodd
      rw [List.filterMap_append, inside?_chars, List.nil_append, ih]
      simp [Piece.live?, hodd]
    · rename_i heven
      rw [List.filterMap_cons, ih]
      simp [Piece.live?, Mark.inside?, heven]

theorem tags_nil (k : Nat) : tags k [] = [] := by
  rw [tags, pieces, live?_backslashes]

theorem tags_backslashes (k n : Nat) (cs : List Char) :
    tags k (List.replicate n '\\' ++ cs) = tags (k + n) cs := by
  induction n generalizing k with
  | zero => rfl
  | succ n ih =>
    have hn : k + 1 + n = k + (n + 1) := by omega
    rw [List.replicate_succ, List.cons_append, tags, pieces_backslash, ← tags, ih, hn]

theorem tags_plain {c : Char} {cs : List Char} (hc : c ≠ '\\') (ht : c = '[' → tag? cs = none)
    (k : Nat) : tags k (c :: cs) = tags 0 cs := by
  rw [tags, pieces_plain hc ht, List.filterMap_append, live?_backslashes]
  rfl

theorem tags_words {words : List Char} (h : ∀ c ∈ words, c ≠ '\\' ∧ c ≠ '[')
    (more : List Char) : tags 0 (words ++ more) = tags 0 more := by
  induction words with
  | nil => rfl
  | cons c cs ih =>
    obtain ⟨⟨hslash, hopen⟩, hcs⟩ := List.forall_mem_cons.mp h
    rw [List.cons_append, tags_plain hslash (fun hc => absurd hc hopen), ih hcs]

theorem tags_tag {inside cs rest : List Char} (h : tag? cs = some (inside, rest)) (k : Nat) :
    tags k ('[' :: cs) = (if k % 2 = 1 then [] else [inside]) ++ tags 0 rest := by
  rw [tags, pieces_tag h, List.filterMap_cons, Piece.live?, tags]
  by_cases hk : k % 2 = 1
  · simp [hk]
  · simp [hk]

def bracket? (cs : List Char) : Option Char := cs.find? fun c => !inTag c

theorem inTag_of_startsTag {c : Char} (h : startsTag c = true) : inTag c = true := by
  have hopen : c ≠ '[' := by
    rintro rfl
    exact absurd h (by decide)
  have hclose : c ≠ ']' := by
    rintro rfl
    exact absurd h (by decide)
  simp [inTag, hopen, hclose]

theorem bracket?_cons {c : Char} (h : inTag c = true) (cs : List Char) :
    bracket? (c :: cs) = bracket? cs :=
  List.find?_cons_of_neg (by simp [h])

/-- A tag begins with a character that can begin one, and the next bracket closes it. -/
theorem tag?_isSome (cs : List Char) :
    (tag? cs).isSome = (cs.head?.any startsTag && decide (bracket? cs = some ']')) := by
  cases cs with
  | nil => rfl
  | cons c cs =>
    cases hc : startsTag c with
    | false => simp [tag?, hc]
    | true =>
      have hb : bracket? (c :: cs) = (cs.dropWhile inTag).head? := by
        rw [bracket?_cons (inTag_of_startsTag hc), bracket?, List.find?_not_eq_head?_dropWhile]
      rw [hb]
      simp only [tag?, hc, List.head?_cons, Option.any_some, Bool.true_and]
      cases hd : cs.dropWhile inTag with
      | nil => rfl
      | cons d rest =>
        by_cases h : d = ']'
        · simp [h]
        · simp only [List.head?_cons, Option.some.injEq, h, decide_false]
          split
          · simp_all
          · rfl

/-- Whether a text can be the inside of a tag. -/
def isInside : List Char → Bool
  | [] => false
  | c :: cs => startsTag c && cs.all inTag

theorem tag?_inside {inside : List Char} (h : isInside inside = true) (more : List Char) :
    tag? (inside ++ ']' :: more) = some (inside, more) := by
  cases inside with
  | nil => cases h
  | cons c cs =>
    obtain ⟨hc, hcs⟩ := (Bool.and_eq_true _ _).mp h
    have hin : ∀ d ∈ cs, inTag d = true := List.all_eq_true.mp hcs
    have hdrop : (cs ++ ']' :: more).dropWhile inTag = ']' :: more := by
      rw [List.dropWhile_append_of_pos hin]
      rfl
    have htake : (cs ++ ']' :: more).takeWhile inTag = cs := by
      rw [List.takeWhile_append_of_pos hin]
      exact List.append_nil cs
    simp only [List.cons_append, tag?, hc, hdrop, htake]

theorem isInside_of_tag? {cs inside rest : List Char} (h : tag? cs = some (inside, rest)) :
    isInside inside = true := by
  cases cs with
  | nil => cases h
  | cons c cs =>
    simp only [tag?] at h
    split at h
    · rename_i hc _
      have hi : c :: cs.takeWhile inTag = inside := (Prod.mk.inj (Option.some.inj h)).1
      rw [← hi, isInside, hc, Bool.true_and]
      exact List.all_takeWhile
    · cases h

theorem tags_inside {inside : List Char} (h : isInside inside = true) (k : Nat)
    (more : List Char) : tags k ('[' :: (inside ++ ']' :: more)) =
      (if k % 2 = 1 then [] else [inside]) ++ tags 0 more :=
  tags_tag (tag?_inside h more) k

/-- A text with its tags guarded, where `k` backslashes have been read before it. -/
def guarded (k : Nat) (cs : List Char) : List Char := (pieces k cs).flatMap Piece.guarded

theorem guarded_backslashes (k : Nat) :
    (List.replicate k (Piece.plain '\\')).flatMap Piece.guarded = List.replicate k '\\' := by
  induction k with
  | zero => rfl
  | succ k ih =>
    rw [List.replicate_succ, List.flatMap_cons, ih]
    rfl

theorem guarded_nil (k : Nat) : guarded k [] = List.replicate k '\\' := by
  rw [guarded, pieces, guarded_backslashes]

theorem guarded_backslash (k : Nat) (cs : List Char) :
    guarded k ('\\' :: cs) = guarded (k + 1) cs := by
  rw [guarded, pieces_backslash, guarded]

theorem guarded_plain {c : Char} {cs : List Char} (hc : c ≠ '\\') (ht : c = '[' → tag? cs = none)
    (k : Nat) : guarded k (c :: cs) = List.replicate k '\\' ++ c :: guarded 0 cs := by
  rw [guarded, pieces_plain hc ht, List.flatMap_append, guarded_backslashes]
  rfl

/-- A guarded tag keeps its backslashes twice, with one more behind them. -/
theorem guarded_tag {inside cs rest : List Char} (h : tag? cs = some (inside, rest)) (k : Nat) :
    guarded k ('[' :: cs) =
      List.replicate (2 * k + 1) '\\' ++ '[' :: (inside ++ ']' :: guarded 0 rest) := by
  rw [guarded, pieces_tag h, List.flatMap_cons, Piece.guarded, bracketed, guarded]
  simp

theorem bracket?_backslashes (k : Nat) (cs : List Char) :
    bracket? (List.replicate k '\\' ++ cs) = bracket? cs := by
  induction k with
  | zero => rfl
  | succ k ih =>
    rw [List.replicate_succ, List.cons_append, bracket?_cons (by decide), ih]

/-- Guarding adds no bracket, so the first one is the same. -/
theorem bracket?_guarded (k : Nat) (cs : List Char) : bracket? (guarded k cs) = bracket? cs := by
  induction k, cs using pieces_cases with
  | nil k => rw [guarded_nil, ← List.append_nil (List.replicate k _), bracket?_backslashes]
  | backslash k cs ih => rw [guarded_backslash, ih, bracket?_cons (by decide)]
  | tag k cs inside rest h _ =>
    rw [guarded_tag h, bracket?_backslashes]
    rfl
  | plain k c cs hc ht ih =>
    rw [guarded_plain hc ht, bracket?_backslashes]
    cases hin : inTag c with
    | true => rw [bracket?_cons hin, bracket?_cons hin, ih]
    | false => simp [bracket?, hin]

theorem head?_guarded (k : Nat) (cs : List Char) : (guarded (k + 1) cs).head? = some '\\' := by
  induction k, cs using pieces_cases with
  | nil k =>
    rw [guarded_nil]
    rfl
  | backslash k cs ih =>
    rw [guarded_backslash]
    exact ih
  | tag k cs inside rest h _ =>
    rw [guarded_tag h]
    rfl
  | plain k c cs hc ht _ =>
    rw [guarded_plain hc ht]
    rfl

/-- Guarding does not make a tag begin where none did. -/
theorem startsTag_guarded (cs : List Char) :
    (guarded 0 cs).head?.any startsTag = cs.head?.any startsTag := by
  cases cs with
  | nil =>
    rw [guarded_nil]
    rfl
  | cons c cs =>
    by_cases hc : c = '\\'
    · rw [hc, guarded_backslash, head?_guarded]
      rfl
    cases ht : (if c = '[' then tag? cs else none) with
    | none =>
      rw [guarded_plain hc (by intro h; simpa [h] using ht)]
      rfl
    | some found =>
      obtain ⟨inside, rest⟩ := found
      split at ht
      · rename_i hb
        rw [hb, guarded_tag ht]
        rfl
      · cases ht

/-- Whether a text has no bracket that closes a tag begun before it. -/
def closesNothing (cs : List Char) : Bool := decide (bracket? cs ≠ some ']')

/-- A text makes no tag of what is none before it, if it has no bracket that ends one. -/
theorem tag?_append_none {cs more : List Char} (h : tag? cs = none)
    (hm : closesNothing more = true) : tag? (cs ++ more) = none := by
  have hmore : bracket? more ≠ some ']' := decide_eq_true_iff.mp hm
  have hcs := tag?_isSome cs
  rw [h] at hcs
  rw [← Option.not_isSome_iff_eq_none, tag?_isSome, bracket?, List.find?_append, ← bracket?,
    ← bracket?]
  cases hb : bracket? cs with
  | none => simp [hmore]
  | some d =>
    obtain ⟨c, rest, rfl⟩ : ∃ c rest, cs = c :: rest := by
      cases cs with
      | nil => cases hb
      | cons c rest => exact ⟨c, rest, rfl⟩
    rw [hb] at hcs
    rw [List.cons_append, List.head?_cons, Option.some_or]
    exact Bool.eq_false_iff.mp hcs.symm

/-- Guarding a text makes no tag of a bracket that began none. -/
theorem tag?_guarded {cs more : List Char} (h : tag? cs = none) (hm : closesNothing more = true) :
    tag? (guarded 0 cs ++ more) = none := by
  have hnone : tag? (guarded 0 cs) = none := by
    rw [← Option.not_isSome_iff_eq_none, tag?_isSome, startsTag_guarded, bracket?_guarded,
      ← tag?_isSome, h]
    exact Bool.false_ne_true
  exact tag?_append_none hnone hm

/-- A guarded text holds no tag: the backslashes put before a tag are of odd number, so it is not
read as one. -/
theorem tags_guarded (k : Nat) (cs : List Char) {more : List Char}
    (hm : closesNothing more = true) : ∃ j, tags 0 (guarded k cs ++ more) = tags j more := by
  induction k, cs using pieces_cases with
  | nil k =>
    refine ⟨0 + k, ?_⟩
    rw [guarded_nil, tags_backslashes]
  | backslash k cs ih =>
    rw [guarded_backslash]
    exact ih
  | tag k cs inside rest h ih =>
    obtain ⟨j, hj⟩ := ih
    have htag := tag?_inside (isInside_of_tag? h) (guarded 0 rest ++ more)
    refine ⟨j, ?_⟩
    rw [guarded_tag h, List.append_assoc, tags_backslashes, List.cons_append, List.append_assoc,
      List.cons_append, tags_tag htag, if_pos (by omega), hj, List.nil_append]
  | plain k c cs hc ht ih =>
    obtain ⟨j, hj⟩ := ih
    have hnone : c = '[' → tag? (guarded 0 cs ++ more) = none := fun hb => tag?_guarded (ht hb) hm
    refine ⟨j, ?_⟩
    rw [guarded_plain hc ht, List.append_assoc, tags_backslashes, List.cons_append,
      tags_plain hc hnone, hj]

/-- No tag is read in escaped text; how it ends may keep one that follows from being read. -/
theorem tags_escape (text : String) {more : List Char} (hm : closesNothing more = true) :
    ∃ k, tags 0 ((escape text).toList ++ more) = tags k more := by
  have hlist : (escape text).toList =
      if endsInOneBackslash (guarded 0 text.toList) then guarded 0 text.toList ++ ['\\']
      else guarded 0 text.toList := by
    rw [escape, String.toList_ofList]
    rfl
  rw [hlist]
  split
  · -- The backslash put at the end is read with what follows.
    have hmore : closesNothing ('\\' :: more) = true := hm
    obtain ⟨k, hk⟩ := tags_guarded 0 text.toList hmore
    refine ⟨k + 1, ?_⟩
    rw [List.append_assoc, List.singleton_append, hk, tags, pieces_backslash, tags]
  · exact tags_guarded 0 text.toList hm

theorem isInside_closing {style : List Char} (h : isInside style = true) :
    isInside ('/' :: style) = true := by
  cases style with
  | nil => cases h
  | cons c cs =>
    obtain ⟨hc, hcs⟩ := (Bool.and_eq_true _ _).mp h
    have hin : inTag c = true := inTag_of_startsTag hc
    rw [isInside, List.all_cons, hin, hcs]
    rfl

/-- Escaped text in a style, with plain words before it. Only the tag that closes the style may be
guarded by the text. -/
theorem tags_styled {style lead : List Char} (hs : isInside style = true)
    (hl : ∀ c ∈ lead, c ≠ '\\' ∧ c ≠ '[') (text : String) (more : List Char) :
    ∃ k, tags 0 (bracketed style ++ lead ++ (escape text).toList ++ bracketed ('/' :: style) ++
      more) = style :: ((if k % 2 = 1 then [] else ['/' :: style]) ++ tags 0 more) := by
  have hafter : closesNothing (bracketed ('/' :: style) ++ more) = true := rfl
  obtain ⟨k, hk⟩ := tags_escape text hafter
  have hclosing := tags_inside (isInside_closing hs) k more
  have hopening := tags_inside hs 0
    (lead ++ ((escape text).toList ++ (bracketed ('/' :: style) ++ more)))
  have hcut (inside rest : List Char) :
      bracketed inside ++ rest = '[' :: (inside ++ ']' :: rest) := by simp [bracketed]
  rw [← hcut] at hclosing hopening
  refine ⟨k, ?_⟩
  rw [List.append_assoc, List.append_assoc, List.append_assoc, hopening, tags_words hl, hk,
    hclosing]
  rfl

end DeskCalc.Text.Markup
