import DeskCalc.Proofs.Keyboard.Composition
import DeskCalc.Proofs.Token.Grammar

namespace DeskCalc

open Text Lexer

namespace Entry

/-- Whether an entry is that of a number key. -/
def isFigure : Entry → Bool
  | token _ .number => true
  | _ => false

/-- What an entry inserts as it is. -/
def word : Entry → String
  | token text _ => text
  | blank _ => ""

/-- The tokens that entries stand for, each by its class and text. -/
def tokens : List Entry → List (String × String)
  | [] => []
  | blank _ :: xs => tokens xs
  | token text .operator :: xs => ("op", text) :: tokens xs
  | token text .unit :: xs => ("unit", text) :: tokens xs
  | token text .number :: xs =>
    ("number", String.join (text :: (xs.takeWhile isFigure).map word)) ::
      tokens (xs.dropWhile isFigure)
termination_by xs => xs.length
decreasing_by
  any_goals exact Nat.lt_succ_self _
  exact Nat.lt_succ_of_le (List.dropWhile_suffix _).length_le

/-- Whether a number key is that of a digit, and neither the point nor the exponent sign. -/
def isDigit (text : String) : Bool :=
  match text.toList with
  | [c] => Lexer.isFigure c
  | _ => false

/-- Whether every run of number keys starts with a digit; `inRun` says that one is under way. -/
def runsStartWithDigit (inRun : Bool) : List Entry → Bool
  | [] => true
  | token text .number :: xs => (inRun || isDigit text) && runsStartWithDigit true xs
  | _ :: xs => runsStartWithDigit false xs

/-- The characters of an entry are those of its class, or of no class where it is a blank. -/
def Legible : Entry → Prop
  | token text .operator => ∃ op : Operator, text = op.char.toString
  | token text .number => ∀ d ∈ text.toList, inNumber d = true
  | token text .unit => ∀ d ∈ text.toList, inUnit d = true
  | blank c => isBlank c = true ∧ inNumber c = false

end Entry

/-- Whether a stroke inserts only what a token of its class can hold. -/
def Stroke.legible : Stroke → Bool
  | token text .operator =>
    text.toList.any fun c => text = c.toString && (Operator.ofChar? c).isSome
  | token text .number => text.toList.all inNumber
  | token text .unit => text.toList.all inUnit
  | _ => true

/-- Every key of the layout writes what can be read back, and is found by its label. -/
theorem Keyboard.layout_legible :
    ∀ k ∈ layout.flatten, k.stroke.legible = true ∧ find? k.label = some k := by
  decide

theorem Modifier.inUnit_symbol (m : Modifier) : m.symbol.toList.all inUnit = true := by
  cases m <;> decide

theorem Stroke.legible_enters? {k : Stroke} {selected : Option Modifier} {x : Entry}
    (hk : k.legible = true) (hx : k.enters? selected = some x) : x.Legible := by
  cases k with
  | modifier m => cases hx
  | action a =>
    cases a with
    | space | newline =>
      rw [← Option.some.inj hx]
      exact ⟨by decide, by decide⟩
    | _ => cases hx
  | token text cls =>
    cases cls with
    | operator =>
      rw [← Option.some.inj hx]
      simp only [legible, List.any_eq_true, Bool.and_eq_true, decide_eq_true_eq] at hk
      obtain ⟨c, -, htext, hc⟩ := hk
      obtain ⟨op, hop⟩ := Option.isSome_iff_exists.mp hc
      exact ⟨op, by rw [htext, char_of_ofChar? hop]⟩
    | number =>
      rw [← Option.some.inj hx]
      simpa [legible, Entry.Legible] using hk
    | unit =>
      rw [← Option.some.inj hx]
      have htext : ∀ d ∈ text.toList, inUnit d = true := by simpa [legible] using hk
      intro d hd
      cases selected with
      | none => exact htext d (by simpa using hd)
      | some m =>
        have hm : ∀ d ∈ m.symbol.toList, inUnit d = true := by simpa using m.inUnit_symbol
        rcases List.mem_append.mp (by simpa using hd) with hd | hd
        · exact hm d hd
        · exact htext d hd

namespace Entry

theorem legible_ofStrokes {ks : List Stroke} (hk : ∀ k ∈ ks, k.legible = true)
    (selected : Option Modifier) : ∀ x ∈ ofStrokes selected ks, x.Legible := by
  induction ks generalizing selected with
  | nil => simp [ofStrokes]
  | cons k ks ih =>
    intro x hx
    rcases List.mem_append.mp hx with hx | hx
    · exact Stroke.legible_enters? (hk k (by simp)) (Option.mem_toList.mp hx)
    · exact ih (fun j hj => hk j (by simp [hj])) (k.select selected) x hx

theorem legible_sinceClear {ks : List Stroke} (hk : ∀ k ∈ ks, k.legible = true) :
    ∀ x ∈ sinceClear ks, x.Legible :=
  legible_ofStrokes (fun k hm => hk k ((List.rtakeWhile_suffix _ _).mem hm)) _

variable {xs run rest : List Entry} {last : Option TokenClass}

theorem isFigure_iff {x : Entry} : x.isFigure = true ↔ ∃ text, x = token text .number := by
  cases x with
  | blank c => simp [isFigure]
  | token text cls => cases cls <;> simp [isFigure]

/-- Number keys follow each other without a blank. -/
theorem composed_run (hrun : ∀ x ∈ run, x.isFigure = true) :
    composed (some .number) (run ++ rest) =
      (String.join (run.map word)).toList ++ composed (some .number) rest := by
  induction run with
  | nil => simp
  | cons x run ih =>
    obtain ⟨text, rfl⟩ := isFigure_iff.mp (hrun x (by simp))
    have ht := ih fun y hy => hrun y (by simp [hy])
    simp only [List.cons_append, composed, lastClass, ht]
    simp [separator, chars, word]

/-- Behind a number comes the end, a blank, or the separator of another token. -/
theorem stops_composed (hl : ∀ x ∈ rest, x.Legible) (hr : ∀ x ∈ rest.head?, x.isFigure = false) :
    Stops inNumber (composed (some .number) rest) := by
  cases rest with
  | nil => exact stops_nil _
  | cons x rest =>
    cases x with
    | blank c =>
      have hc : inNumber c = false := (hl (blank c) (by simp)).2
      exact stops_cons.mpr hc
    | token text cls =>
      cases cls with
      | number => simp [isFigure] at hr
      | operator | unit =>
        have hs : inNumber ' ' = false := by decide
        exact stops_cons.mpr hs

theorem readsAs_separator {cs : List Char} {ts : List Lexeme} (x : Entry)
    (last : Option TokenClass) (h : ReadsAs cs ts) : ReadsAs (x.separator last ++ cs) ts := by
  cases x with
  | blank c => exact h
  | token text cls =>
    by_cases hs : last.any (· ≠ cls) = true
    · rw [separator, if_pos hs]
      exact h.blank (by decide)
    · rw [separator, if_neg hs]
      exact h

theorem readsAs_token {x : Entry} {t : Lexeme} {ts : List Lexeme} (hx : x.chars = t.spelling)
    (hw : t.WellFormed) (he : t.EndsBefore (composed (x.lastClass last) xs))
    (h : ReadsAs (composed (x.lastClass last) xs) ts) :
    ReadsAs (composed last (x :: xs)) (t :: ts) := by
  refine readsAs_separator x last ?_
  rw [hx]
  exact h.token hw he

theorem runsStartWithDigit_dropWhile (h : runsStartWithDigit true xs = true) :
    runsStartWithDigit false (xs.dropWhile isFigure) = true := by
  induction xs with
  | nil => rfl
  | cons x xs ih =>
    cases hx : x.isFigure with
    | true =>
      obtain ⟨text, rfl⟩ := isFigure_iff.mp hx
      rw [List.dropWhile_cons_of_pos hx]
      exact ih (by simpa [runsStartWithDigit] using h)
    | false =>
      rw [List.dropWhile_cons_of_neg (by simp [hx])]
      cases x with
      | blank c => exact h
      | token text cls =>
        cases cls with
        | number => simp [isFigure] at hx
        | operator | unit => exact h

/-- A run of number keys that begins with a digit is one number. -/
theorem wellFormed_run {text : String} (hd : isDigit text = true) (hl : ∀ x ∈ run, x.Legible)
    (hrun : ∀ x ∈ run, x.isFigure = true) :
    (Lexeme.number (String.join (text :: run.map word))).WellFormed := by
  unfold isDigit at hd
  split at hd
  · rename_i c hc
    refine ⟨c, (String.join (run.map word)).toList, by simp [hc], by simp [startsNumber, hd], ?_⟩
    intro d hmem
    rw [String.toList_join, List.mem_flatMap] at hmem
    obtain ⟨w, hw, hmem⟩ := hmem
    obtain ⟨x, hx, rfl⟩ := List.mem_map.mp hw
    obtain ⟨text, rfl⟩ := isFigure_iff.mp (hrun x hx)
    exact hl _ hx d hmem
  · cases hd

/-- What entries write is read as the tokens that they stand for. -/
theorem readsAs_composed (hl : ∀ x ∈ xs, x.Legible) (hd : runsStartWithDigit false xs = true)
    (last : Option TokenClass) :
    ∃ ts, ReadsAs (composed last xs) ts ∧ ts.map (fun t => (t.className, t.text)) = tokens xs := by
  fun_induction tokens xs generalizing last with
  | case1 => exact ⟨[], readsAs_nil, rfl⟩
  | case2 c xs ih =>
    obtain ⟨ts, hr, ht⟩ := ih (fun x hx => hl x (by simp [hx])) hd last
    exact ⟨ts, hr.blank (hl (blank c) (by simp)).1, ht⟩
  | case3 text xs ih =>
    obtain ⟨ts, hr, ht⟩ := ih (fun x hx => hl x (by simp [hx])) hd (some .operator)
    obtain ⟨op, rfl⟩ := hl (token text .operator) (by simp)
    have hchars : (token op.char.toString .operator).chars = (Lexeme.operator op).spelling := by
      simp [chars, Lexeme.spelling]
    exact ⟨_, readsAs_token hchars trivial trivial hr, by rw [List.map_cons, ht]; rfl⟩
  | case4 text xs ih =>
    obtain ⟨ts, hr, ht⟩ := ih (fun x hx => hl x (by simp [hx])) hd (some .unit)
    have hw : (Lexeme.unit text).WellFormed := hl (token text .unit) (by simp)
    exact ⟨_, readsAs_token rfl hw trivial hr, by rw [List.map_cons, ht]; rfl⟩
  | case5 text xs ih =>
    -- The run goes as far as there are number keys, and is read in one piece.
    obtain ⟨hstart, hd⟩ : isDigit text = true ∧ runsStartWithDigit true xs = true := by
      simpa [runsStartWithDigit] using hd
    have hrest : ∀ x ∈ xs.dropWhile isFigure, x.Legible := fun x hx =>
      hl x (List.mem_cons_of_mem _ ((List.dropWhile_suffix _).mem hx))
    have hrun : ∀ x ∈ xs.takeWhile isFigure, x.isFigure = true := fun _ =>
      List.mem_takeWhile_imp
    have hlegible : ∀ x ∈ xs.takeWhile isFigure, x.Legible := fun x hx =>
      hl x (List.mem_cons_of_mem _ ((List.takeWhile_prefix _).mem hx))
    obtain ⟨ts, hr, ht⟩ := ih hrest (runsStartWithDigit_dropWhile hd) (some .number)
    have hnext : ∀ x ∈ (xs.dropWhile isFigure).head?, x.isFigure = false := by
      intro x hx
      have h := List.head?_dropWhile_not isFigure xs
      rw [hx] at h
      exact h
    have htoken := hr.token (wellFormed_run hstart hlegible hrun) (stops_composed hrest hnext)
    have hrow : (token text .number).chars ++ composed (some .number) xs =
        (Lexeme.number (String.join (text :: (xs.takeWhile isFigure).map word))).spelling ++
          composed (some .number) (xs.dropWhile isFigure) := by
      have hc : composed (some .number) (xs.takeWhile isFigure ++ xs.dropWhile isFigure) = _ :=
        composed_run hrun
      rw [List.takeWhile_append_dropWhile] at hc
      simp [hc, chars, Lexeme.spelling]
    refine ⟨_, readsAs_separator (token text .number) last (hrow ▸ htoken), ?_⟩
    rw [List.map_cons, ht]
    rfl

end Entry

/-- What is written into an empty cell by keys that write, select or clear is read without a failure
as the tokens of the keys since the last clearing, if each run of number keys in them starts with a
digit. -/
theorem lex_typed (t : Transcript) (keys : List Key) (ht : t.active? = some "")
    (hk : ∀ k ∈ keys, k ∈ Keyboard.layout.flatten ∧ k.stroke.writes = true)
    (hd : Entry.runsStartWithDigit false (Entry.sinceClear (keys.map Key.stroke)) = true) :
    ∃ (e : Editor) (text : String), (Editor.attach t).typed keys = .ok e ∧
      e.transcript.active? = some text ∧ (lex text).error = none ∧
      (lex text).tokens.map (fun u => (u.lexeme.className, u.lexeme.text)) =
        Entry.tokens (Entry.sinceClear (keys.map Key.stroke)) := by
  have hlayout (k : Key) (h : k ∈ keys) := Keyboard.layout_legible k (hk k h).1
  obtain ⟨e, last, htyped, hc⟩ := Editor.typed_composing ht keys fun k h =>
    ⟨(hlayout k h).2, (hk k h).2⟩
  have hlegible : ∀ x ∈ Entry.sinceClear (keys.map Key.stroke), x.Legible := by
    refine Entry.legible_sinceClear fun k h => ?_
    obtain ⟨j, hj, rfl⟩ := List.mem_map.mp h
    exact (hlayout j hj).1
  obtain ⟨ts, hr, hts⟩ := Entry.readsAs_composed hlegible hd last
  rw [← String.toList_ofList (l := Entry.composed _ _)] at hr
  obtain ⟨he, hl⟩ := hr.lex
  refine ⟨e, _, htyped, hc.active, he, ?_⟩
  rw [← hts, ← hl, List.map_map]
  rfl

/-- A number with a point, typed after a clearing, then a unit with its modifier, and a difference.
-/
theorem lex_typed_weight :
    let t := Transcript.empty.append (.input "")
    let keys : List Key := [.operator "p", .action "CLR" .clear, .number "5", .modifier .kilo,
      .number ".", .number "2", .modifier .kilo, .unit "g", .action "␣" .space, .operator "-"]
    t.active? = some "" ∧ (∀ k ∈ keys, k ∈ Keyboard.layout.flatten ∧ k.stroke.writes = true) ∧
      Entry.runsStartWithDigit false (Entry.sinceClear (keys.map Key.stroke)) = true ∧
      ∃ (e : Editor) (text : String), (Editor.attach t).typed keys = .ok e ∧
        e.transcript.active? = some text ∧ (lex text).error = none ∧
        (lex text).tokens.map (fun u => (u.lexeme.className, u.lexeme.text)) =
          [("number", "5.2"), ("unit", "kg"), ("op", "-")] := by
  intro t keys
  have ht : t.active? = some "" := by decide
  have hk : ∀ k ∈ keys, k ∈ Keyboard.layout.flatten ∧ k.stroke.writes = true := by decide
  have hs : Entry.sinceClear (keys.map Key.stroke) = [.token "5" .number, .token "." .number,
      .token "2" .number, .token "kg" .unit, .blank ' ', .token "-" .operator] := by decide
  have hd : Entry.runsStartWithDigit false (Entry.sinceClear (keys.map Key.stroke)) = true := by
    rw [hs]
    decide
  have hm : Entry.tokens (Entry.sinceClear (keys.map Key.stroke)) =
      [("number", "5.2"), ("unit", "kg"), ("op", "-")] := by
    rw [hs]
    decide +kernel
  exact ⟨ht, hk, hd, hm ▸ lex_typed t keys ht hk hd⟩

end DeskCalc
