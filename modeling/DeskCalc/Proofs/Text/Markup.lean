import DeskCalc.Proofs.Text.Escape

namespace DeskCalc.Text

namespace Markup

/-- The styles that the console uses for words of its own. -/
def ownStyles : List String := ["red", "dim", "magenta"]

/-- Whether tags open styles of the console and close open ones. -/
def balanced (opened : List String) : List (List Char) → Bool
  | [] => true
  | ('/' :: closing) :: rest =>
    opened.contains (.ofList closing) && balanced (opened.erase (.ofList closing)) rest
  | inside :: rest =>
    ownStyles.contains (.ofList inside) && balanced (.ofList inside :: opened) rest

theorem balanced_opening {inside : List Char} (h : inside.head? ≠ some '/') (opened : List String)
    (rest : List (List Char)) : balanced opened (inside :: rest) =
      (ownStyles.contains (.ofList inside) && balanced (.ofList inside :: opened) rest) := by
  cases inside with
  | nil => rfl
  | cons c cs =>
    rw [balanced]
    intro closing hc
    rw [hc] at h
    exact h rfl

/-- An open style of the console, without parameters. -/
structure Opened.Own (o : Opened) : Prop where
  own : o.name ∈ ownStyles
  bare : o.parameters = none

theorem ownStyles_read : ∀ name ∈ ownStyles, styleName name.toList = .ok name ∧
    (Style.ofText name.toList).toOption.isSome = true := by
  decide +kernel

theorem ownStyles_opening : ∀ name ∈ ownStyles, tagName name.toList = name.toList ∧
    tagParameters? name.toList = none ∧ name.toList.head? ≠ some '/' ∧
    name.toList.head? ≠ some '@' := by
  decide +kernel

theorem ownStyles_closing : ∀ name ∈ ownStyles,
    tagName ('/' :: name.toList) = '/' :: name.toList ∧ trimmed isBlank name.toList ≠ [] := by
  decide +kernel

theorem apply_opening {name : String} (h : name ∈ ownStyles) (opened : List Opened)
    (width position : Nat) :
    apply opened width name.toList position = .ok (⟨name, none, width⟩ :: opened, []) := by
  obtain ⟨htag, hbare, hslash, -⟩ := ownStyles_opening name h
  unfold apply
  rw [htag]
  split
  · rename_i closing hc
    rw [hc] at hslash
    exact absurd rfl hslash
  · rw [(ownStyles_read name h).1, hbare]
    rfl

theorem apply_closing {o : Opened} {opened : List Opened} (ho : o.Own)
    (hfind : opened.find? (·.name = o.name) = some o) (width position : Nat) :
    apply opened width ('/' :: o.name.toList) position =
      .ok (opened.eraseP (·.name = o.name), [o.span width]) := by
  obtain ⟨htag, hshown⟩ := ownStyles_closing o.name ho.own
  have hname : styleName o.name.toList = .ok o.name := (ownStyles_read o.name ho.own).1
  have hstyle : o.isHandler = false := by
    rw [Opened.isHandler, decide_eq_false (ownStyles_opening o.name ho.own).2.2.2]
  simp only [apply, htag, if_neg hshown, hname, Except.bind, hfind, Opened.close, hstyle]
  rfl

/-- A style of the console can be read, so its spans can be drawn. -/
theorem Opened.Own.fault?_span {o : Opened} (h : o.Own) (stop : Nat) :
    (o.span stop).fault? = none := by
  have hspan : o.span stop = ⟨o.name.toList, o.start, stop⟩ := by
    rw [span, h.bare]
    simp
  have hread := (ownStyles_read o.name h.own).2
  rw [hspan, Span.fault?]
  cases hs : Style.ofText o.name.toList with
  | ok style => rfl
  | error e =>
    rw [hs] at hread
    cases hread

theorem exists_opened {opened : List Opened} {name : String} (h : name ∈ opened.map Opened.name) :
    ∃ o ∈ opened, o.name = name ∧ opened.find? (·.name = name) = some o := by
  obtain ⟨o, ho, hname⟩ := List.mem_map.mp h
  have hsome : (opened.find? (·.name = name)).isSome = true := by
    rw [List.find?_isSome]
    exact ⟨o, ho, by simpa using hname⟩
  obtain ⟨o', ho'⟩ := Option.isSome_iff_exists.mp hsome
  exact ⟨o', List.mem_of_find?_eq_some ho', by simpa using List.find?_some ho', ho'⟩

theorem map_name_eraseP (opened : List Opened) (name : String) :
    (opened.eraseP (·.name = name)).map Opened.name = (opened.map Opened.name).erase name := by
  rw [List.erase_eq_eraseP, List.eraseP_map]
  congr 2
  funext p
  rw [Function.comp_apply, beq_eq_decide]
  simp only [eq_comm]

theorem spans_tag {opened opened' : List Opened} {width position : Nat} {inside : List Char}
    {closed ended : List Span} {read : List Mark}
    (ha : apply opened width inside position = .ok (opened', closed))
    (hs : spans opened' width read = .ok ended) :
    spans opened width (.tag inside position :: read) = .ok (closed ++ ended) := by
  rw [spans, ha]
  simp only [Except.bind, hs]
  rfl

/-- Balanced tags are all read, and none of their spans keeps the text from being drawn. -/
theorem spans_balanced {opened : List Opened} (ho : ∀ o ∈ opened, o.Own) (width : Nat)
    {read : List Mark}
    (h : balanced (opened.map Opened.name) (read.filterMap Mark.inside?) = true) :
    ∃ ended, spans opened width read = .ok ended ∧ ∀ s ∈ ended, s.fault? = none := by
  induction read generalizing opened width with
  | nil =>
    refine ⟨_, rfl, ?_⟩
    intro s hs
    obtain ⟨o, hmem, rfl⟩ := List.mem_map.mp hs
    exact (ho o hmem).fault?_span width
  | cons m read ih =>
    cases m with
    | char c => exact ih ho _ h
    | tag inside position =>
      change balanced _ (inside :: read.filterMap Mark.inside?) = true at h
      by_cases hslash : inside.head? = some '/'
      · obtain ⟨closing, rfl⟩ := List.head?_eq_some_iff.mp hslash
        obtain ⟨hmem, hrest⟩ := (Bool.and_eq_true _ _).mp h
        obtain ⟨o, hopen, hname, hfind⟩ := exists_opened (List.contains_iff_mem.mp hmem)
        have hclosing : closing = o.name.toList := by rw [hname, String.toList_ofList]
        rw [← hname] at hfind hrest
        rw [← map_name_eraseP] at hrest
        have hleft : ∀ p ∈ opened.eraseP (·.name = o.name), p.Own :=
          fun p hp => ho p (List.mem_of_mem_eraseP hp)
        obtain ⟨ended, hspans, hgood⟩ := ih hleft width hrest
        rw [hclosing]
        refine ⟨_, spans_tag (apply_closing (ho o hopen) hfind width position) hspans, ?_⟩
        intro s hs
        rcases List.mem_cons.mp hs with rfl | hs
        · exact (ho o hopen).fault?_span width
        · exact hgood s hs
      · rw [balanced_opening hslash] at h
        obtain ⟨hmem, hrest⟩ := (Bool.and_eq_true _ _).mp h
        have hown : (.ofList inside : String) ∈ ownStyles := List.contains_iff_mem.mp hmem
        have hnew : ∀ p ∈ ⟨.ofList inside, none, width⟩ :: opened, p.Own := by
          intro p hp
          rcases List.mem_cons.mp hp with rfl | hp
          · exact ⟨hown, rfl⟩
          · exact ho p hp
        obtain ⟨ended, hspans, hgood⟩ := ih hnew width hrest
        have happly := apply_opening hown opened width position
        rw [String.toList_ofList] at happly
        exact ⟨_, spans_tag happly hspans, hgood⟩

/-- A text of one line and column is drawn as a whole, and of another one the spans over a character
of it. -/
def Span.IsDrawn (s : Span) (text : List Char) : Prop :=
  '\n' ∈ text ∨ '\t' ∈ text → s.isVisible text = true

theorem mem_intoOrder_iff {s t : Span} {later : List Span} :
    t ∈ s.intoOrder later ↔ t = s ∨ t ∈ later := by
  induction later with
  | nil => simp [Span.intoOrder]
  | cons u later ih =>
    unfold Span.intoOrder
    split
    · exact List.mem_cons
    · rw [List.mem_cons, ih, List.mem_cons]
      exact or_left_comm

theorem mem_foldl_intoOrder_iff {s : Span} {ended done : List Span} :
    s ∈ ended.foldl (fun later t => t.intoOrder later) done ↔ s ∈ ended ∨ s ∈ done := by
  induction ended generalizing done with
  | nil => simp
  | cons e ended ih =>
    rw [List.foldl_cons, ih, mem_intoOrder_iff, List.mem_cons, or_assoc]
    exact or_left_comm

/-- Drawing puts the spans in another order and loses some of those without a character. -/
theorem mem_drawn_iff {text : List Char} {ended : List Span} {s : Span} :
    s ∈ drawn text ended ↔ s ∈ ended ∧ s.IsDrawn text := by
  have hordered : s ∈ ended.foldl (fun later t => t.intoOrder later) [] ↔ s ∈ ended := by
    rw [mem_foldl_intoOrder_iff]
    simp
  unfold drawn
  dsimp only
  split
  · rename_i hlines
    rw [List.mem_filter, hordered]
    simp_all [Span.IsDrawn]
  · rename_i hline
    rw [hordered]
    simp_all [Span.IsDrawn]

end Markup

open Markup

/-- Markup with balanced tags of the console shows its text without them. -/
theorem plainText_balanced {markup : String} (h : balanced [] (tags 0 markup.toList) = true) :
    plainText markup = .ok
      (.ofList ((marks 0 (Markup.pieces 0 markup.toList)).filterMap Mark.shown?)) := by
  have htags : (marks 0 (Markup.pieces 0 markup.toList)).filterMap Mark.inside? =
      tags 0 markup.toList := inside?_marks 0 _
  have hnew : ∀ o ∈ ([] : List Opened), o.Own := by simp
  obtain ⟨ended, hspans, hgood⟩ := spans_balanced hnew 0 (htags ▸ h)
  have hnone : (drawn ((marks 0 (Markup.pieces 0 markup.toList)).filterMap Mark.shown?)
      ended).findSome? Span.fault? = none := by
    rw [List.findSome?_eq_none_iff]
    intro s hs
    exact hgood s (mem_drawn_iff.mp hs).1
  simp only [plainText, hspans, Except.bind, hnone]

end DeskCalc.Text
