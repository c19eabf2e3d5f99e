import DeskCalc.Proofs.Text.Markup

namespace DeskCalc.Text

namespace Markup

/-- A tag opens a style, behind `width` characters: the name that stands before an equals sign, with
what stands after it. -/
structure Opens (inside : List Char) (width : Nat) (o : Opened) : Prop where
  opening : (tagName inside).head? ≠ some '/'
  name : styleName (tagName inside) = .ok o.name
  parameters : o.parameters = tagParameters? inside
  start : o.start = width

/-- A tag closes one of the open styles, the last that is open first: that one if it is a bare
slash, and otherwise the first of the name behind the slash. What else is open stays so. -/
inductive Closes : List Opened → List Char → Opened → List Opened → Prop
  | latest {inside closing o rest} : tagName inside = '/' :: closing →
      trimmed isBlank closing = [] → Closes (o :: rest) inside o rest
  | named {inside closing before o after} : tagName inside = '/' :: closing →
      trimmed isBlank closing ≠ [] → styleName closing = .ok o.name →
      (∀ p ∈ before, p.name ≠ o.name) → Closes (before ++ o :: after) inside o (before ++ after)

/-- What is read behind `width` characters, where some styles are open, with what it leaves open and
the spans that it ends. -/
inductive Nests : List Opened → Nat → List Mark → List Opened → List Span → Prop
  | done {opened width} : Nests opened width [] opened []
  | char {opened width c rest left ended} :
      Nests opened (width + (Mark.char c).shown?.toList.length) rest left ended →
      Nests opened width (.char c :: rest) left ended
  | opens {opened width inside position rest left ended o} : Opens inside width o →
      Nests (o :: opened) width rest left ended →
      Nests opened width (.tag inside position :: rest) left ended
  | closes {opened width inside position rest left closed ended o others} :
      Closes opened inside o others → o.close width = .ok closed →
      Nests others width rest left ended →
      Nests opened width (.tag inside position :: rest) left (closed ++ ended)

variable {opened left : List Opened} {o : Opened} {width position : Nat} {inside : List Char}
  {read more : List Mark} {ended closed : List Span}

theorem Closes.mem {others : List Opened} (h : Closes opened inside o others) : o ∈ opened := by
  cases h with
  | latest => exact List.mem_cons_self
  | named => simp

/-- A tag with more than a slash names the style that it closes. -/
theorem Closes.name {others : List Opened} {closing : List Char}
    (h : Closes opened inside o others) (hslash : tagName inside = '/' :: closing)
    (hblank : trimmed isBlank closing ≠ []) : styleName closing = .ok o.name := by
  cases h with
  | latest hs hb =>
    rw [hslash] at hs
    obtain rfl := (List.cons.inj hs).2
    exact absurd hb hblank
  | named hs _ hname =>
    rw [hslash] at hs
    obtain rfl := (List.cons.inj hs).2
    exact hname

theorem apply_opens (h : Opens inside width o) (opened : List Opened) (position : Nat) :
    apply opened width inside position = .ok (o :: opened, []) := by
  obtain ⟨name, parameters, start⟩ := o
  obtain ⟨hopening, hname, rfl, rfl⟩ := h
  unfold apply
  split
  · rename_i closing hc
    exact absurd (by rw [hc]; rfl) hopening
  · rw [hname]
    rfl

theorem find?_named {before after : List Opened} (h : ∀ p ∈ before, p.name ≠ o.name) :
    (before ++ o :: after).find? (·.name = o.name) = some o := by
  rw [List.find?_eq_some_iff_append]
  exact ⟨by simp, before, after, rfl, by simpa using h⟩

theorem eraseP_named {before after : List Opened} (h : ∀ p ∈ before, p.name ≠ o.name) :
    (before ++ o :: after).eraseP (·.name = o.name) = before ++ after := by
  rw [List.eraseP_append_right _ (by simpa using h), List.eraseP_cons_of_pos (by simp)]

theorem apply_closes {others : List Opened} (h : Closes opened inside o others)
    (hc : o.close width = .ok closed) (position : Nat) :
    apply opened width inside position = .ok (others, closed) := by
  cases h with
  | latest htag hblank =>
    simp only [apply, htag, if_pos hblank, hc]
    rfl
  | named htag hblank hname hbefore =>
    simp only [apply, htag, if_neg hblank, hname, Except.bind, find?_named hbefore, hc,
      eraseP_named hbefore]
    rfl

theorem map_eq_ok {ε α β : Type} {x : Except ε α} {f : α → β} {y : β} (h : x.map f = .ok y) :
    ∃ a, x = .ok a ∧ f a = y := by
  cases x with
  | error e => cases h
  | ok a => exact ⟨a, rfl, Except.ok.inj h⟩

theorem bind_eq_ok {ε α β : Type} {x : Except ε α} {f : α → Except ε β} {y : β}
    (h : x.bind f = .ok y) : ∃ a, x = .ok a ∧ f a = .ok y := by
  cases x with
  | error e => cases h
  | ok a => exact ⟨a, rfl, h⟩

/-- A tag that can be read opens a style or closes one. -/
theorem apply_eq_ok {opened' : List Opened}
    (h : apply opened width inside position = .ok (opened', closed)) :
    (∃ o, Opens inside width o ∧ opened' = o :: opened ∧ closed = []) ∨
      ∃ o, Closes opened inside o opened' ∧ o.close width = .ok closed := by
  unfold apply at h
  split at h
  · rename_i closing htag
    refine .inr ?_
    split at h
    · rename_i hblank
      cases opened with
      | nil => cases h
      | cons o rest =>
        obtain ⟨spans, hc, heq⟩ := map_eq_ok h
        obtain ⟨rfl, rfl⟩ := Prod.mk.inj heq
        exact ⟨o, .latest htag hblank, hc⟩
    · rename_i hblank
      obtain ⟨name, hname, h⟩ := bind_eq_ok h
      split at h
      · cases h
      · rename_i o hfind
        obtain ⟨hn, before, after, rfl, hbefore⟩ := List.find?_eq_some_iff_append.mp hfind
        obtain rfl : o.name = name := by simpa using hn
        replace hbefore : ∀ p ∈ before, p.name ≠ o.name := by simpa using hbefore
        obtain ⟨spans, hc, heq⟩ := map_eq_ok h
        obtain ⟨rfl, rfl⟩ := Prod.mk.inj heq
        rw [eraseP_named hbefore]
        exact ⟨o, .named htag hblank hname hbefore, hc⟩
  · rename_i hslash
    obtain ⟨name, hname, heq⟩ := map_eq_ok h
    obtain ⟨rfl, rfl⟩ := Prod.mk.inj heq
    refine .inl ⟨_, ⟨?_, hname, rfl, rfl⟩, rfl, rfl⟩
    intro hhead
    obtain ⟨closing, hc⟩ := List.head?_eq_some_iff.mp hhead
    exact hslash closing hc

def shownLength (read : List Mark) : Nat := (read.filterMap Mark.shown?).length

theorem shownLength_char (c : Char) (read : List Mark) :
    shownLength (.char c :: read) = (Mark.char c).shown?.toList.length + shownLength read := by
  rw [shownLength, List.filterMap_cons, shownLength]
  cases (Mark.char c).shown? with
  | none => simp
  | some d => simp [Nat.add_comm]

theorem spans_char (opened : List Opened) (width : Nat) (c : Char) (read : List Mark) :
    spans opened width (.char c :: read) =
      spans opened (width + (Mark.char c).shown?.toList.length) read := by
  rw [spans]
  · cases (Mark.char c).shown? <;> rfl
  · intro _ _ h
    cases h

/-- What is read has spans exactly if its tags nest: those that end on the way, and those of the
styles that are left open, which end with the text. -/
theorem spans_eq_ok_iff : spans opened width read = .ok ended ↔
    ∃ left closed, Nests opened width read left closed ∧
      ended = closed ++ left.map (·.span (width + shownLength read)) := by
  constructor
  · intro h
    induction read generalizing opened width ended with
    | nil =>
      obtain rfl := Except.ok.inj h
      exact ⟨opened, [], .done, rfl⟩
    | cons m read ih =>
      cases m with
      | char c =>
        rw [spans_char] at h
        obtain ⟨left, closed, hn, rfl⟩ := ih h
        exact ⟨left, closed, .char hn, by rw [shownLength_char, Nat.add_assoc]⟩
      | tag inside position =>
        obtain ⟨⟨opened', ended'⟩, ha, h⟩ := bind_eq_ok h
        obtain ⟨spans, hs, rfl⟩ := map_eq_ok h
        obtain ⟨left, closed, hn, rfl⟩ := ih hs
        rcases apply_eq_ok ha with ⟨o, ho, rfl, rfl⟩ | ⟨o, ho, hc⟩
        · exact ⟨left, closed, .opens ho hn, rfl⟩
        · exact ⟨left, ended' ++ closed, .closes ho hc hn, (List.append_assoc ..).symm⟩
  · rintro ⟨left, closed, h, rfl⟩
    induction h with
    | done => rfl
    | char h ih => rw [spans_char, ih, shownLength_char, Nat.add_assoc]
    | @opens _ _ _ position _ _ _ _ ho h ih =>
      have hs := spans_tag (apply_opens ho _ position) ih
      rwa [List.nil_append] at hs
    | closes ho hc h ih =>
      rw [List.append_assoc]
      exact spans_tag (apply_closes ho hc _) ih

/-- What is read in two parts nests part by part; the second begins where the first has left off. -/
theorem nests_append_iff : Nests opened width (read ++ more) left ended ↔
    ∃ middle first rest, Nests opened width read middle first ∧
      Nests middle (width + shownLength read) more left rest ∧ ended = first ++ rest := by
  constructor
  · intro h
    induction read generalizing opened width ended with
    | nil => exact ⟨opened, [], ended, .done, h, rfl⟩
    | cons m read ih =>
      cases h with
      | char h =>
        obtain ⟨middle, first, rest, hfirst, hrest, rfl⟩ := ih h
        rw [Nat.add_assoc, ← shownLength_char] at hrest
        exact ⟨middle, first, rest, .char hfirst, hrest, rfl⟩
      | opens ho h =>
        obtain ⟨middle, first, rest, hfirst, hrest, rfl⟩ := ih h
        exact ⟨middle, first, rest, .opens ho hfirst, hrest, rfl⟩
      | closes ho hc h =>
        obtain ⟨middle, first, rest, hfirst, hrest, rfl⟩ := ih h
        exact ⟨middle, _, rest, .closes ho hc hfirst, hrest, (List.append_assoc ..).symm⟩
  · rintro ⟨middle, first, rest, hfirst, hrest, rfl⟩
    induction hfirst with
    | done => exact hrest
    | char h ih =>
      rw [shownLength_char, ← Nat.add_assoc] at hrest
      exact .char (ih hrest)
    | opens ho h ih => exact .opens ho (ih hrest)
    | closes ho hc h ih =>
      rw [List.append_assoc]
      exact .closes ho hc (ih hrest)

/-- What is read without tags opens and closes nothing. -/
theorem nests_untagged_iff (hu : read.filterMap Mark.inside? = []) :
    Nests opened width read left ended ↔ left = opened ∧ ended = [] := by
  constructor
  · intro h
    induction h with
    | done => exact ⟨rfl, rfl⟩
    | char h ih => exact ih hu
    | opens | closes => cases hu
  · rintro ⟨rfl, rfl⟩
    induction read generalizing width with
    | nil => exact .done
    | cons m read ih =>
      cases m with
      | char c => exact .char (ih hu)
      | tag => cases hu

theorem nests_chars_iff {cs : List Char} : Nests opened width (cs.map .char) left ended ↔
    left = opened ∧ ended = [] :=
  nests_untagged_iff (inside?_chars cs)

theorem nests_tag_iff : Nests opened width [.tag inside position] left ended ↔
    (∃ o, Opens inside width o ∧ left = o :: opened ∧ ended = []) ∨
      ∃ o, Closes opened inside o left ∧ o.close width = .ok ended := by
  constructor
  · intro h
    cases h with
    | opens ho h =>
      cases h
      exact .inl ⟨_, ho, rfl, rfl⟩
    | closes ho hc h =>
      cases h
      rw [List.append_nil]
      exact .inr ⟨_, ho, hc⟩
  · rintro (⟨o, ho, rfl, rfl⟩ | ⟨o, ho, hc⟩)
    · exact .opens ho .done
    · have h : Nests opened width [.tag inside position] left (ended ++ []) := .closes ho hc .done
      rwa [List.append_nil] at h

variable {style : String}

theorem nests_opening_iff (hs : style ∈ ownStyles) :
    Nests opened width [.tag style.toList position] left ended ↔
      left = ⟨style, none, width⟩ :: opened ∧ ended = [] := by
  obtain ⟨htag, hbare, hslash, -⟩ := ownStyles_opening style hs
  have hname := (ownStyles_read style hs).1
  rw [nests_tag_iff]
  constructor
  · rintro (⟨⟨name, parameters, start⟩, ho, rfl, rfl⟩ | ⟨o, ho, -⟩)
    · have hn := ho.name
      have hp := ho.parameters
      have hstart := ho.start
      rw [htag, hname] at hn
      rw [hbare] at hp
      obtain rfl := Except.ok.inj hn
      subst hp hstart
      exact ⟨rfl, rfl⟩
    · cases ho with
      | latest hc | named hc =>
        rw [htag] at hc
        rw [hc] at hslash
        exact absurd rfl hslash
  · rintro ⟨rfl, rfl⟩
    refine .inl ⟨_, ⟨?_, ?_, hbare.symm, rfl⟩, rfl, rfl⟩
    · rwa [htag]
    · rwa [htag]

/-- A span of the style is left by the open tag of that name that has been opened last. -/
theorem nests_closing_iff (hs : style ∈ ownStyles) :
    Nests opened width [.tag ('/' :: style.toList) position] left ended ↔
      ∃ before o after, opened = before ++ o :: after ∧ left = before ++ after ∧
        o.name = style ∧ (∀ p ∈ before, p.name ≠ style) ∧ ended = [o.span width] := by
  obtain ⟨htag, hblank⟩ := ownStyles_closing style hs
  have hname := (ownStyles_read style hs).1
  have hhandler : style.toList.head? ≠ some '@' := (ownStyles_opening style hs).2.2.2
  have hclose {o : Opened} (hn : o.name = style) : o.close width = .ok [o.span width] := by
    have hh : o.isHandler = false := by
      rw [Opened.isHandler, hn, decide_eq_false hhandler]
    rw [Opened.close, hh]
    rfl
  rw [nests_tag_iff]
  constructor
  · rintro (⟨o, ho, -, -⟩ | ⟨o, ho, hc⟩)
    · have hopening := ho.opening
      rw [htag] at hopening
      exact absurd rfl hopening
    · cases ho with
      | latest hslash hb =>
        rw [htag] at hslash
        obtain rfl := (List.cons.inj hslash).2
        exact absurd hb hblank
      | @named _ _ before _ after hslash _ hn hbefore =>
        rw [htag] at hslash
        obtain rfl := (List.cons.inj hslash).2
        rw [hname] at hn
        obtain rfl := Except.ok.inj hn
        rw [hclose rfl] at hc
        exact ⟨before, o, after, rfl, rfl, rfl, hbefore, (Except.ok.inj hc).symm⟩
  · rintro ⟨before, o, after, rfl, rfl, rfl, hbefore, rfl⟩
    exact .inr ⟨o, .named htag hblank hname hbefore, hclose rfl⟩

/-- Words that are shown as they are, wherever they stand: none of them is or ends a tag. -/
def isPlain (words : List Char) : Bool := words.all fun c => c ≠ '\\' && inTag c && !isDeviceCode c

variable {words cs rest : List Char}

theorem isPlain_mem (h : isPlain words = true) :
    ∀ c ∈ words, c ≠ '\\' ∧ c ≠ '[' ∧ c ≠ ']' ∧ isDeviceCode c = false := by
  intro c hc
  have hall := List.all_eq_true.mp h c hc
  simpa [inTag, and_assoc] using hall

theorem pieces_words (h : isPlain words = true) (rest : List Char) :
    pieces 0 (words ++ rest) = words.map .plain ++ pieces 0 rest := by
  have hwords := isPlain_mem h
  clear h
  induction words with
  | nil => rfl
  | cons c words ih =>
    obtain ⟨⟨hslash, hopen, -⟩, hrest⟩ := List.forall_mem_cons.mp hwords
    rw [List.cons_append, pieces_plain hslash (fun hc => absurd hc hopen), ih hrest]
    rfl

theorem marks_words (h : isPlain words = true) (position : Nat) (ps : List Piece) :
    marks position (words.map .plain ++ ps) =
      words.map .char ++ marks (position + words.length) ps := by
  have hwords := isPlain_mem h
  clear h
  induction words generalizing position with
  | nil => rfl
  | cons c words ih =>
    obtain ⟨⟨hslash, -⟩, hrest⟩ := List.forall_mem_cons.mp hwords
    have hstep : marks position (.plain c :: (words.map .plain ++ ps)) =
        .char c :: marks (position + 1) (words.map .plain ++ ps) := by
      rw [marks]
      intro _ hc
      exact absurd hc hslash
    rw [List.map_cons, List.cons_append, hstep, ih (position + 1) hrest, List.length_cons,
      Nat.add_assoc, Nat.add_comm 1]
    rfl

theorem shown_words (h : isPlain words = true) :
    (words.map Mark.char).filterMap Mark.shown? = words := by
  have hwords := isPlain_mem h
  clear h
  induction words with
  | nil => rfl
  | cons c words ih =>
    obtain ⟨⟨-, -, -, hcode⟩, hrest⟩ := List.forall_mem_cons.mp hwords
    have hc : (Mark.char c).shown? = some c := by simp [Mark.shown?, hcode]
    rw [List.map_cons, List.filterMap_cons_some hc, ih hrest]

theorem tag?_cut {inside : List Char} (h : tag? cs = some (inside, rest)) :
    cs = inside ++ ']' :: rest := by
  cases cs with
  | nil => cases h
  | cons c cs =>
    simp only [tag?] at h
    split at h
    · rename_i more _ hdrop
      obtain ⟨rfl, rfl⟩ := Prod.mk.inj (Option.some.inj h)
      rw [List.cons_append, ← hdrop, List.takeWhile_append_dropWhile]
    · cases h

/-- A tag ends at its bracket, whatever follows. -/
theorem tag?_append {inside : List Char} (h : tag? cs = some (inside, rest)) (more : List Char) :
    tag? (cs ++ more) = some (inside, rest ++ more) := by
  have hinside := tag?_inside (isInside_of_tag? h) (rest ++ more)
  rw [tag?_cut h, List.append_assoc]
  exact hinside

/-- A text is read by itself if what follows it is no tag, guards nothing and ends no tag in it. -/
theorem pieces_append {c : Char} (hslash : c ≠ '\\') (hopen : c ≠ '[')
    (hm : closesNothing (c :: rest) = true) (k : Nat) (cs : List Char) :
    pieces k (cs ++ c :: rest) = pieces k cs ++ pieces 0 (c :: rest) := by
  have hnotag : c = '[' → tag? rest = none := fun hc => absurd hc hopen
  induction k, cs using pieces_cases with
  | nil k =>
    rw [List.nil_append, pieces_plain hslash hnotag, pieces_plain hslash hnotag, pieces]
    rfl
  | backslash k cs ih => rw [List.cons_append, pieces_backslash, pieces_backslash, ih]
  | tag k cs inside rest' h ih =>
    rw [List.cons_append, pieces_tag (tag?_append h _), pieces_tag h, ih, List.cons_append]
  | plain k d cs hd ht ih =>
    have ht' : d = '[' → tag? (cs ++ c :: rest) = none := fun hb => tag?_append_none (ht hb) hm
    rw [List.cons_append, pieces_plain hd ht', pieces_plain hd ht, ih, List.append_assoc,
      List.cons_append]

/-- What is read of two parts is read of each, unless the second begins with a bracket that a
backslash may guard. -/
theorem marks_append {qs : List Piece} (h : qs.head? ≠ some (.plain '[')) (position : Nat)
    (ps : List Piece) : ∃ q, marks position (ps ++ qs) = marks position ps ++ marks q qs := by
  fun_induction marks position ps with
  | case1 position => exact ⟨position, rfl⟩
  | case2 position rest ih =>
    obtain ⟨q, hq⟩ := ih
    exact ⟨q, by rw [List.cons_append, List.cons_append, marks, hq, List.cons_append]⟩
  | case3 position c rest hc ih =>
    obtain ⟨q, hq⟩ := ih
    refine ⟨q, ?_⟩
    rw [List.cons_append, marks, hq, List.cons_append]
    intro rest' hslash hrest
    cases rest with
    | nil =>
      rw [List.nil_append] at hrest
      exact h (by rw [hrest]; rfl)
    | cons p rest =>
      rw [List.cons_append, List.cons.injEq] at hrest
      exact hc rest hslash (by rw [hrest.1])
  | case4 position backslashes inside rest after ih =>
    obtain ⟨q, hq⟩ := ih
    refine ⟨q, ?_⟩
    rw [List.cons_append, marks, hq]
    split <;> simp

/-- A text between words of the console, in a style of it. -/
def framed (style lead tail text : String) : String :=
  "[" ++ style ++ "]" ++ lead ++ text ++ tail ++ "[/" ++ style ++ "]"

/-- What is read of the text, which stands behind the opening tag and the words before it. -/
def textMarks (style lead text : String) : List Mark :=
  marks (style.length + 2 + lead.length) (pieces 0 text.toList)

/-- What is read of the whole, where the closing tag stands at `position`. -/
def framedMarks (style lead tail text : String) (position : Nat) : List Mark :=
  [.tag style.toList 0] ++ (lead.toList.map .char ++ (textMarks style lead text ++
    (tail.toList.map .char ++ [.tag ('/' :: style.toList) position])))

def framedShown (style lead tail text : String) : List Char :=
  lead.toList ++ (textMarks style lead text).filterMap Mark.shown? ++ tail.toList

variable {lead tail : String}

theorem closesNothing_words (h : isPlain words = true) (rest : List Char) :
    closesNothing (words ++ '[' :: rest) = true := by
  have hnone : bracket? words = none := by
    rw [bracket?, List.find?_eq_none]
    intro c hc
    obtain ⟨-, hopen, hclose, -⟩ := isPlain_mem h c hc
    simp [inTag, hopen, hclose]
  rw [closesNothing, bracket?, List.find?_append, ← bracket?, hnone]
  rfl

theorem isInside_ownStyles : ∀ name ∈ ownStyles, isInside name.toList = true := by
  decide +kernel

/-- The words behind the text keep what it begins apart from the closing tag. -/
theorem marks_framed (hs : style ∈ ownStyles) (hlead : isPlain lead.toList = true)
    (htail : isPlain tail.toList = true) (hne : tail.toList ≠ []) (text : String) :
    ∃ q, marks 0 (pieces 0 (framed style lead tail text).toList) =
      framedMarks style lead tail text q := by
  have hinside := isInside_ownStyles style hs
  have hlist : (framed style lead tail text).toList =
      '[' :: (style.toList ++ ']' :: (lead.toList ++ (text.toList ++ (tail.toList ++
        '[' :: (('/' :: style.toList) ++ [']']))))) := by
    simp [framed]
  have hend : pieces 0 ('[' :: (('/' :: style.toList) ++ [']'])) =
      [.tag 0 ('/' :: style.toList)] := by
    rw [pieces_tag (tag?_inside (isInside_closing hinside) []), pieces]
    rfl
  obtain ⟨c, cs, hc⟩ := List.exists_cons_of_ne_nil hne
  obtain ⟨hslash, hopen, -⟩ := isPlain_mem htail c (by simp [hc])
  have hcloses := closesNothing_words htail (('/' :: style.toList) ++ [']'])
  have htext : pieces 0 (text.toList ++ (tail.toList ++ '[' :: (('/' :: style.toList) ++ [']']))) =
      pieces 0 text.toList ++ (tail.toList.map .plain ++ [.tag 0 ('/' :: style.toList)]) := by
    rw [← hend, ← pieces_words htail]
    rw [hc, List.cons_append] at hcloses ⊢
    exact pieces_append hslash hopen hcloses 0 text.toList
  have hhead : (tail.toList.map Piece.plain ++ [Piece.tag 0 ('/' :: style.toList)]).head? ≠
      some (.plain '[') := by
    simpa [hc] using hopen
  obtain ⟨q, hq⟩ := marks_append hhead (style.length + 2 + lead.length) (pieces 0 text.toList)
  refine ⟨q + tail.toList.length, ?_⟩
  rw [hlist, pieces_tag (tag?_inside hinside _), pieces_words hlead, htext]
  have hopening (ps : List Piece) : marks 0 (.tag 0 style.toList :: ps) =
      [.tag style.toList 0] ++ marks (style.length + 2) ps := by
    rw [marks, if_neg (by decide), String.length_toList]
    simp
  have hclosing : marks q (tail.toList.map .plain ++ [.tag 0 ('/' :: style.toList)]) =
      tail.toList.map .char ++ [.tag ('/' :: style.toList) (q + tail.toList.length)] := by
    rw [marks_words htail, marks, if_neg (by decide), marks]
    rfl
  rw [hopening, marks_words hlead, String.length_toList, hq, hclosing]
  rfl

theorem shown_framed (hlead : isPlain lead.toList = true) (htail : isPlain tail.toList = true)
    (text : String) (q : Nat) :
    (framedMarks style lead tail text q).filterMap Mark.shown? =
      framedShown style lead tail text := by
  have htag (inside : List Char) (position : Nat) :
      [Mark.tag inside position].filterMap Mark.shown? = [] := rfl
  simp only [framedMarks, framedShown, List.filterMap_append, shown_words hlead, shown_words htail,
    htag, List.nil_append, List.append_nil, List.append_assoc]

/-- The tags of a text nest within a style of the console and leave one of its name open; and of the
styles that the text ends or leaves open, those that are drawn can be read. -/
def Fits (style lead tail text : String) : Prop :=
  ∃ left ended, Nests [⟨style, none, 0⟩] lead.length (textMarks style lead text) left ended ∧
    (∃ o ∈ left, o.name = style) ∧
    ∀ s ∈ ended ++ left.map (·.span (framedShown style lead tail text).length),
      s.IsDrawn (framedShown style lead tail text) → s.fault? = none

/-- The tag behind the words closes the style, or the last of its name that the text has opened and
left so. -/
theorem nests_framed_iff (hs : style ∈ ownStyles) (hlead : isPlain lead.toList = true)
    (htail : isPlain tail.toList = true) (text : String) (q : Nat) :
    Nests [] 0 (framedMarks style lead tail text q) left ended ↔
      ∃ before o after within,
        Nests [⟨style, none, 0⟩] lead.length (textMarks style lead text)
          (before ++ o :: after) within ∧
        o.name = style ∧ (∀ p ∈ before, p.name ≠ style) ∧ left = before ++ after ∧
        ended = within ++ [o.span (framedShown style lead tail text).length] := by
  have hlength : lead.length + (shownLength (textMarks style lead text) + tail.length) =
      (framedShown style lead tail text).length := by
    simp [framedShown, shownLength, String.length_toList]
  have hfirst : shownLength [.tag style.toList 0] = 0 := rfl
  have hplain {words : List Char} (h : isPlain words = true) :
      shownLength (words.map .char) = words.length := by
    rw [shownLength, shown_words h]
  simp only [framedMarks, nests_append_iff, nests_opening_iff hs, nests_chars_iff,
    nests_closing_iff hs, hfirst, hplain hlead, hplain htail, Nat.zero_add, String.length_toList,
    Nat.add_assoc, hlength]
  constructor
  · rintro ⟨_, _, _, ⟨rfl, rfl⟩, ⟨_, _, _, ⟨rfl, rfl⟩, ⟨_, within, _, hn, ⟨_, _, _, ⟨rfl, rfl⟩,
      ⟨before, o, after, rfl, rfl, hname, hbefore, rfl⟩, rfl⟩, rfl⟩, rfl⟩, rfl⟩
    exact ⟨before, o, after, within, hn, hname, hbefore, rfl, rfl⟩
  · rintro ⟨before, o, after, within, hn, hname, hbefore, rfl, rfl⟩
    exact ⟨_, _, _, ⟨rfl, rfl⟩, ⟨_, _, _, ⟨rfl, rfl⟩, ⟨_, within, _, hn, ⟨_, _, _, ⟨rfl, rfl⟩,
      ⟨before, o, after, rfl, rfl, hname, hbefore, rfl⟩, rfl⟩, rfl⟩, rfl⟩, rfl⟩

/-- The spans of the whole are those that the text ends and those of all that it leaves open. -/
theorem spans_framed_iff (hs : style ∈ ownStyles) (hlead : isPlain lead.toList = true)
    (htail : isPlain tail.toList = true) (text : String) (q : Nat) (P : Span → Prop) :
    (∃ ended, spans [] 0 (framedMarks style lead tail text q) = .ok ended ∧ ∀ s ∈ ended, P s) ↔
      ∃ left ended, Nests [⟨style, none, 0⟩] lead.length (textMarks style lead text) left ended ∧
        (∃ o ∈ left, o.name = style) ∧
        ∀ s ∈ ended ++ left.map (·.span (framedShown style lead tail text).length), P s := by
  have hlength : shownLength (framedMarks style lead tail text q) =
      (framedShown style lead tail text).length := by
    rw [shownLength, shown_framed hlead htail]
  have hmem (before : List Opened) (o : Opened) (after : List Opened) (within : List Span) (n : Nat) :
      (∀ s ∈ within ++ [o.span n] ++ (before ++ after).map (·.span n), P s) ↔
        ∀ s ∈ within ++ (before ++ o :: after).map (·.span n), P s := by
    have hperm : ((o :: (before ++ after)).map (·.span n)).Perm
        ((before ++ o :: after).map (·.span n)) := List.perm_middle.symm.map _
    rw [List.append_assoc]
    exact forall_congr' fun s => imp_congr_left (hperm.append_left within).mem_iff
  simp only [spans_eq_ok_iff, nests_framed_iff hs hlead htail, hlength, Nat.zero_add]
  constructor
  · rintro ⟨_, ⟨_, _, ⟨before, o, after, within, hn, hname, -, rfl, rfl⟩, rfl⟩, hgood⟩
    exact ⟨before ++ o :: after, within, hn, ⟨o, by simp, hname⟩, (hmem _ _ _ _ _).mp hgood⟩
  · rintro ⟨left, within, hn, ⟨o, ho, rfl⟩, hgood⟩
    obtain ⟨o', -, hname, hfind⟩ := exists_opened (List.mem_map_of_mem (f := Opened.name) ho)
    obtain ⟨-, before, after, rfl, hbefore⟩ := List.find?_eq_some_iff_append.mp hfind
    refine ⟨_, ⟨_, _, ⟨before, o', after, within, hn, hname, ?_, rfl, rfl⟩, rfl⟩,
      (hmem _ _ _ _ _).mpr hgood⟩
    simpa using hbefore

/-- A text without tags fits into every style of the console. -/
theorem fits_of_tags_eq_nil (hs : style ∈ ownStyles) {text : String}
    (h : tags 0 text.toList = []) : Fits style lead tail text := by
  refine ⟨[⟨style, none, 0⟩], [], ?_, ⟨_, List.mem_singleton_self _, rfl⟩, ?_⟩
  · have huntagged : (textMarks style lead text).filterMap Mark.inside? = [] :=
      (inside?_marks _ _).trans h
    exact (nests_untagged_iff huntagged).mpr ⟨rfl, rfl⟩
  · intro s hmem _
    obtain rfl : s = Opened.span ⟨style, none, 0⟩ _ := by simpa using hmem
    exact Opened.Own.fault?_span ⟨hs, rfl⟩ _

/-- A text whose first tag closes a style other than the one around it fits nowhere. -/
theorem not_fits_of_closing {text : String} {closing : List Char} {later : List (List Char)}
    (h : tags 0 text.toList = inside :: later) (hslash : tagName inside = '/' :: closing)
    (hblank : trimmed isBlank closing ≠ []) (hname : styleName closing ≠ .ok style) :
    ¬ Fits style lead tail text := by
  rintro ⟨left, ended, hn, -⟩
  have hread : (textMarks style lead text).filterMap Mark.inside? = inside :: later :=
    (inside?_marks _ _).trans h
  obtain ⟨before, m, more, hmarks, huntagged, hm, -⟩ := List.filterMap_eq_cons_iff.mp hread
  obtain ⟨position, rfl⟩ : ∃ position, m = .tag inside position := by
    cases m with
    | char c => cases hm
    | tag inside' position =>
      obtain rfl := Option.some.inj hm
      exact ⟨position, rfl⟩
  rw [hmarks, nests_append_iff] at hn
  obtain ⟨middle, first, rest, hfirst, hrest, -⟩ := hn
  obtain ⟨rfl, -⟩ := (nests_untagged_iff (List.filterMap_eq_nil_iff.mpr huntagged)).mp hfirst
  cases hrest with
  | opens ho =>
    have hopening := ho.opening
    rw [hslash] at hopening
    exact hopening rfl
  | closes hc =>
    have hstyle := hc.name hslash hblank
    rw [List.mem_singleton.mp hc.mem] at hstyle
    exact hname hstyle

end Markup

open Markup

/-- Markup can be shown exactly if it can be read and the styles that are drawn can be. -/
theorem plainText_ok_iff (markup : String) :
    let read := marks 0 (Markup.pieces 0 markup.toList)
    (∃ shown, plainText markup = .ok shown) ↔ ∃ ended, spans [] 0 read = .ok ended ∧
      ∀ s ∈ ended, s.IsDrawn (read.filterMap Mark.shown?) → s.fault? = none := by
  intro read
  have hdrawn (ended : List Span) :
      (drawn (read.filterMap Mark.shown?) ended).findSome? Span.fault? = none ↔
        ∀ s ∈ ended, s.IsDrawn (read.filterMap Mark.shown?) → s.fault? = none := by
    rw [List.findSome?_eq_none_iff]
    constructor
    · exact fun h s hs hd => h s (mem_drawn_iff.mpr ⟨hs, hd⟩)
    · exact fun h s hs => h s (mem_drawn_iff.mp hs).1 (mem_drawn_iff.mp hs).2
  unfold plainText
  dsimp only
  change (∃ shown, (spans [] 0 read).bind _ = .ok shown) ↔ _
  cases hr : spans [] 0 read with
  | error e => simp [Except.bind]
  | ok ended =>
    simp only [Except.bind, Except.ok.injEq, exists_eq_left', ← hdrawn]
    cases (drawn (read.filterMap Mark.shown?) ended).findSome? Span.fault? <;> simp

/-- A text between words of the console, in a style of it, can be shown exactly if it fits there. -/
theorem plainText_framed_iff {style lead tail : String} (hs : style ∈ ownStyles)
    (hlead : isPlain lead.toList = true) (htail : isPlain tail.toList = true)
    (hne : tail.toList ≠ []) (text : String) :
    (∃ shown, plainText (framed style lead tail text) = .ok shown) ↔
      Fits style lead tail text := by
  have hok := plainText_ok_iff (framed style lead tail text)
  obtain ⟨q, hq⟩ := marks_framed hs hlead htail hne text
  dsimp only at hok
  rw [hq, shown_framed hlead htail] at hok
  exact hok.trans (spans_framed_iff hs hlead htail text q _)

end DeskCalc.Text
