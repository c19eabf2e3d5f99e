import DeskCalc.Proofs.Editor.Stepwise
import Mathlib.Data.List.DropRight

namespace DeskCalc.Editor

/-- What can happen to an editor whose transcript is open to others: a call of its composer or a
look at it, or a mutation of the transcript. -/
inductive Move
  | insert (token className : String)
  | act (name : String)
  | toggle (symbol : String)
  | press (label : String)
  | look
  | append (c : Cell)
  | extend (batch : List Cell)
  | update (text : String)

/-- The editor after an effect. One that asks for a submission leaves the editor to whoever takes
it, whose mutations are moves of their own. -/
def effected (e : Editor) : Except EditError Effect → Editor
  | .ok (.edited e') => e'
  | _ => e

def moved (e : Editor) : Move → Editor
  | .insert token className =>
    match e.insertNamed token className with
    | .ok (_, e') => e'
    | .error _ => e
  | .act name => e.effected (e.actNamed name)
  | .toggle symbol =>
    match e.toggleNamed symbol with
    | .ok e' => e'
    | .error _ => e
  | .press label => e.effected (e.press label)
  | .look => e
  | .append c => e.withTranscript (e.transcript.append c)
  | .extend batch => e.withTranscript (e.transcript.extend batch)
  | .update text =>
    match e.setText text with
    | .ok e' => e'
    | .error _ => e

def follow (e : Editor) (moves : List Move) : Editor := moves.foldl moved e

/-- The editor that a call leaves, whether it returns or is refused. -/
def left {α : Type} : EStateM.Result EditError Editor α → Editor
  | .ok _ d => d
  | .error _ d => d

/-- The same move, with every call done one assignment after the other. -/
def performed (d : Editor) : Move → Editor
  | .insert token className => left ((inserting token className).run d)
  | .act name => left ((acting name).run d)
  | .toggle symbol => left ((toggling symbol).run d)
  | .press label => left ((pressing label).run d)
  | .look => d.looked
  | .append c => d.withTranscript (d.transcript.append c)
  | .extend batch => d.withTranscript (d.transcript.extend batch)
  | .update text => left ((putText text).run d)

def perform (d : Editor) (moves : List Move) : Editor := moves.foldl performed d

/-- The class of the token that a move inserts, if it inserts one. -/
def inserted? (e : Editor) : Move → Option TokenClass
  | .insert token className =>
    (e.insertNamed token className).toOption.bind fun _ => TokenClass.ofName? className
  | .press label =>
    match (Keyboard.find? label).map Key.stroke with
    | some (.token token cls) => (e.insert token cls).toOption.map fun _ => cls
    | _ => none
  | _ => none

/-- One move, as the history has it: the index of the cell that is active after it, and the class of
the token inserted by it. -/
structure Moment where
  active : Option Nat
  inserted : Option TokenClass
  deriving DecidableEq

def moment (e : Editor) (m : Move) : Moment := ⟨(e.moved m).transcript.activeIndex, e.inserted? m⟩

def moments (e : Editor) : List Move → List Moment
  | [] => []
  | m :: moves => e.moment m :: (e.moved m).moments moves

/-- The class of the last token inserted since the cell that is active now became active; none if no
cell is active. -/
def remembered (active : Option Nat) (past : List Moment) : Option TokenClass :=
  active.bind fun _ =>
    ((past.rtakeWhile (·.active = active)).filterMap Moment.inserted).getLast?

variable {e d : Editor} {past : List Moment} {active : Option Nat} {cls : TokenClass}

theorem follow_snoc (e : Editor) (moves : List Move) (m : Move) :
    e.follow (moves ++ [m]) = (e.follow moves).moved m := by
  simp [follow]

theorem perform_snoc (d : Editor) (moves : List Move) (m : Move) :
    d.perform (moves ++ [m]) = (d.perform moves).performed m := by
  simp [perform]

theorem moments_snoc (e : Editor) (moves : List Move) (m : Move) :
    e.moments (moves ++ [m]) = e.moments moves ++ [(e.follow moves).moment m] := by
  induction moves generalizing e with
  | nil => rfl
  | cons n moves ih =>
    rw [List.cons_append, moments, ih, moments, List.cons_append]
    rfl

/-- A moment with the same active cell adds the token inserted in it. -/
theorem remembered_same (active : Option Nat) (past : List Moment) (inserted : Option TokenClass) :
    remembered active (past ++ [⟨active, inserted⟩]) =
      active.bind fun _ => inserted.or (remembered active past) := by
  cases active with
  | none => rfl
  | some i =>
    have hp : decide ((⟨some i, inserted⟩ : Moment).active = some i) = true := by simp
    have htake := List.rtakeWhile_concat_pos
      (fun x : Moment => decide (x.active = some i)) past ⟨some i, inserted⟩ hp
    simp only [remembered, Option.bind_some, htake, List.filterMap_append, List.getLast?_append]
    cases inserted <;> rfl

/-- Another cell that becomes active starts with nothing. -/
theorem remembered_other (hlast : ∀ x, past.getLast? = some x → x.active ≠ active) :
    remembered active (past ++ [⟨active, none⟩]) = none := by
  rw [remembered_same]
  cases active with
  | none => rfl
  | some i =>
    have htake : past.rtakeWhile (·.active = some i) = [] := by
      rw [List.rtakeWhile_eq_nil_iff]
      intro hne
      have hx := hlast _ (List.getLast?_eq_some_getLast hne)
      simpa using hx
    simp [remembered, htake]

/-- A move that changes nothing but the modifier and the text of the active cell. -/
structure Quiet (e e' : Editor) : Prop where
  active : e'.transcript.activeIndex = e.transcript.activeIndex
  generation : e'.transcript.generation = e.transcript.generation
  lastInserted : e'.composer.lastInserted = e.composer.lastInserted
  dated : e'.composer.generation = e.composer.generation

theorem Quiet.refl (e : Editor) : Quiet e e := ⟨rfl, rfl, rfl, rfl⟩

theorem Quiet.written {text : String} {u : Transcript} (h : e.transcript.update? text = some u) :
    Quiet e (e.withTranscript u) := by
  obtain ⟨i, -, rfl⟩ := Transcript.update?_eq_some_iff.mp h
  exact ⟨rfl, rfl, rfl, rfl⟩

theorem Quiet.toggle (e : Editor) (m : Modifier) : Quiet e (e.toggle m) := ⟨rfl, rfl, rfl, rfl⟩

/-- The class that counts is remembered through a quiet move. -/
theorem Quiet.lastClass {e' : Editor} (h : Quiet e e') : e'.lastClass = e.lastClass := by
  simp only [Editor.lastClass, h.generation, h.lastInserted, h.dated]

theorem Quiet.act (e : Editor) (a : Action) : Quiet e (e.effected (e.act a)) := by
  cases h : e.act a with
  | error x => exact .refl e
  | ok effect =>
    cases effect with
    | submit => exact .refl e
    | edited e' =>
      obtain ⟨text, u, hu, rfl⟩ := act_made h
      exact .written hu

/-- An editor in which a token of a class has gone into the active cell. -/
structure Inserted (cls : TokenClass) (e e' : Editor) : Prop where
  wasActive : e.transcript.activeIndex.isSome = true
  active : e'.transcript.activeIndex = e.transcript.activeIndex
  composer : e'.composer = ⟨none, some cls, e'.transcript.generation⟩

theorem Inserted.insert {e' : Editor} {token text : String}
    (h : e.insert token cls = .ok (text, e')) : Inserted cls e e' := by
  obtain ⟨old, -, -, hu, hc⟩ := insert_made h
  obtain ⟨i, hi, ht⟩ := Transcript.update?_eq_some_iff.mp hu
  refine ⟨?_, ?_, hc⟩
  · rw [hi]
    rfl
  · rw [ht]

/-- Every move inserts a token, or changes nothing of what the composer remembers and of which cell
is active, or puts new cells into the transcript. -/
theorem moved_cases (e : Editor) (m : Move) :
    (∃ cls, e.inserted? m = some cls ∧ Inserted cls e (e.moved m)) ∨
    (e.inserted? m = none ∧ Quiet e (e.moved m)) ∨
    (e.inserted? m = none ∧
      ∃ cells, e.moved m = e.withTranscript (e.transcript.refresh cells)) := by
  cases m with
  | insert token className =>
    cases hc : TokenClass.ofName? className with
    | none => exact .inr (.inl (by simpa [inserted?, moved, insertNamed, hc] using Quiet.refl e))
    | some cls =>
      cases hi : e.insert token cls with
      | error x =>
        refine .inr (.inl ?_)
        simpa [inserted?, moved, insertNamed, hc, hi, Except.toOption] using Quiet.refl e
      | ok p =>
        refine .inl ⟨cls, ?_⟩
        simpa [inserted?, moved, insertNamed, hc, hi, Except.toOption] using Inserted.insert hi
  | act name =>
    refine .inr (.inl ⟨rfl, ?_⟩)
    simp only [moved, actNamed]
    cases Action.ofName? name with
    | none => exact .refl e
    | some a => exact .act e a
  | toggle symbol =>
    refine .inr (.inl ⟨rfl, ?_⟩)
    simp only [moved, toggleNamed]
    cases Modifier.ofSymbol? symbol with
    | none => exact .refl e
    | some m => exact .toggle e m
  | press label =>
    cases hk : Keyboard.find? label with
    | none =>
      refine .inr (.inl ?_)
      simpa [inserted?, moved, press, hk, effected] using Quiet.refl e
    | some key =>
      cases hs : key.stroke with
      | modifier m =>
        refine .inr (.inl ?_)
        simpa [inserted?, moved, press, hk, hs, strike, effected] using Quiet.toggle e m
      | action a =>
        refine .inr (.inl ?_)
        simpa [inserted?, moved, press, hk, hs, strike] using Quiet.act e a
      | token token cls =>
        cases hi : e.insert token cls with
        | error x =>
          refine .inr (.inl ?_)
          simpa [inserted?, moved, press, hk, hs, strike, hi, Except.map, Except.toOption,
            effected] using Quiet.refl e
        | ok p =>
          refine .inl ⟨cls, ?_⟩
          simpa [inserted?, moved, press, hk, hs, strike, hi, Except.map, Except.toOption,
            effected] using Inserted.insert hi
  | look => exact .inr (.inl ⟨rfl, .refl e⟩)
  | append c => exact .inr (.inr ⟨rfl, _, rfl⟩)
  | extend batch =>
    by_cases hb : batch = []
    · refine .inr (.inl ⟨rfl, ?_⟩)
      rw [moved, Transcript.extend, if_pos hb]
      exact .refl e
    · refine .inr (.inr ⟨rfl, e.transcript.cells ++ batch, ?_⟩)
      rw [moved, Transcript.extend, if_neg hb]
  | update text =>
    refine .inr (.inl ⟨rfl, ?_⟩)
    simp only [moved]
    cases hs : e.setText text with
    | error x => exact .refl e
    | ok e' =>
      obtain ⟨u, hu, rfl⟩ := setText_made hs
      exact .written hu

/-- The composer of an editor remembers what the history says. -/
structure Tracked (e : Editor) (past : List Moment) : Prop where
  dated : e.Dated
  latest : ∀ x, past.getLast? = some x → x.active = e.transcript.activeIndex
  lastClass : e.lastClass = remembered e.transcript.activeIndex past

theorem attach_tracked (t : Transcript) : (attach t).Tracked [] := by
  refine ⟨Nat.le_refl _, ?_, ?_⟩
  · intro x hx
    cases hx
  · have hlast : (attach t).lastClass = none := if_pos rfl
    rw [hlast]
    cases (attach t).transcript.activeIndex <;> rfl

theorem latest_snoc (e : Editor) (past : List Moment) (m : Move) :
    ∀ x, (past ++ [e.moment m]).getLast? = some x →
      x.active = (e.moved m).transcript.activeIndex := by
  intro x hx
  rw [List.getLast?_concat] at hx
  rw [← Option.some.inj hx]
  rfl

/-- An insertion is the latest there is, and its class is remembered. -/
theorem Inserted.tracked {m : Move} (hi : Inserted cls e (e.moved m))
    (hm : e.inserted? m = some cls) (past : List Moment) :
    (e.moved m).Tracked (past ++ [e.moment m]) := by
  have hdated : (e.moved m).Dated := Nat.le_of_eq (congrArg Composer.generation hi.composer)
  have hlast : (e.moved m).lastClass = some cls := by
    rw [Editor.lastClass, hi.composer, if_pos rfl]
  refine ⟨hdated, latest_snoc e past m, ?_⟩
  obtain ⟨i, hsome⟩ := Option.isSome_iff_exists.mp hi.wasActive
  rw [hlast, moment, hm, hi.active, remembered_same, hsome]
  rfl

theorem Tracked.quiet (h : e.Tracked past) {m : Move} (hm : e.inserted? m = none)
    (hq : Quiet e (e.moved m)) : (e.moved m).Tracked (past ++ [e.moment m]) := by
  have hdated : (e.moved m).Dated := by
    rw [Dated, hq.dated, hq.generation]
    exact h.dated
  refine ⟨hdated, latest_snoc e past m, ?_⟩
  rw [hq.lastClass, h.lastClass, moment, hm, hq.active, remembered_same]
  cases e.transcript.activeIndex <;> rfl

/-- New cells leave the active cell as it is, or they make another one active; then the generation
goes up, and the class remembered is out of date. -/
theorem Tracked.refreshed (h : e.Tracked past) {m : Move} {cells : List Cell}
    (hm : e.inserted? m = none)
    (hr : e.moved m = e.withTranscript (e.transcript.refresh cells)) :
    (e.moved m).Tracked (past ++ [e.moment m]) := by
  have hgeneration := Transcript.generation_refresh e.transcript cells
  have hle : e.composer.generation ≤ e.transcript.generation := h.dated
  by_cases hsame : Transcript.lastInput cells = e.transcript.activeIndex
  · rw [if_pos hsame] at hgeneration
    refine h.quiet hm ?_
    rw [hr]
    exact ⟨hsame, hgeneration, rfl, rfl⟩
  · rw [if_neg hsame] at hgeneration
    have hlt : (e.moved m).composer.generation < (e.moved m).transcript.generation := by
      rw [hr]
      show e.composer.generation < (e.transcript.refresh cells).generation
      omega
    have hactive : (e.moved m).transcript.activeIndex = Transcript.lastInput cells := by
      rw [hr]
      rfl
    refine ⟨Nat.le_of_lt hlt, latest_snoc e past m, ?_⟩
    rw [lastClass_of_dated hlt, moment, hm, hactive, remembered_other]
    intro x hx hxa
    exact hsame (hxa.symm.trans (h.latest x hx))

/-- Every move keeps what the composer remembers in step with the history. -/
theorem Tracked.moved (h : e.Tracked past) (m : Move) :
    (e.moved m).Tracked (past ++ [e.moment m]) := by
  rcases e.moved_cases m with ⟨cls, hm, hi⟩ | ⟨hm, hq⟩ | ⟨hm, cells, hr⟩
  · exact hi.tracked hm past
  · exact h.quiet hm hq
  · exact h.refreshed hm hr

/-- From a transcript with a new composer on, the history tells what the composer remembers. -/
theorem follow_tracked (t : Transcript) (moves : List Move) :
    ((attach t).follow moves).Tracked ((attach t).moments moves) := by
  induction moves using List.reverseRecOn with
  | nil => exact attach_tracked t
  | append_singleton moves m ih =>
    rw [follow_snoc, moments_snoc]
    exact ih.moved m

theorem Ends.left {o : EStateM.Result EditError Editor Bool} {r : Except EditError Effect}
    (h : e.Ends o r) : (e.effected r).Matches (Editor.left o) := by
  cases r with
  | error x =>
    obtain ⟨d, rfl, hm⟩ := h
    exact hm
  | ok effect =>
    cases effect with
    | edited e' =>
      obtain ⟨d, rfl, hm⟩ := h
      exact hm
    | submit =>
      obtain ⟨d, rfl, hm⟩ := h
      exact hm

theorem Matches.moved (h : e.Matches d) (m : Move) : (e.moved m).Matches (d.performed m) := by
  cases m with
  | insert token className =>
    have hi := h.inserting token className
    simp only [Editor.moved, performed]
    cases he : e.insertNamed token className with
    | ok p =>
      simp only [he] at hi
      simp only [hi, Editor.left]
      obtain ⟨cls, -, hinsert⟩ := insertNamed_made he
      obtain ⟨-, -, -, -, hk⟩ := insert_made hinsert
      exact .refl (Nat.le_of_eq (congrArg Composer.generation hk))
    | error x =>
      simp only [he] at hi
      obtain ⟨d', hd', hm⟩ := hi
      simp only [hd', Editor.left]
      exact hm
  | act name => exact (h.acting name).left
  | toggle symbol =>
    have ht := h.toggling symbol
    simp only [Editor.moved, performed]
    cases he : e.toggleNamed symbol with
    | ok e' =>
      simp only [he] at ht
      obtain ⟨d', hd', hm⟩ := ht
      simp only [hd', Editor.left]
      exact hm
    | error x =>
      simp only [he] at ht
      simp only [ht, Editor.left]
      exact h
  | press label => exact (h.pressing label).left
  | look => exact h.looked
  | append c =>
    simp only [Editor.moved, performed, h.transcript]
    exact h.withTranscript (Transcript.generation_le_append _ c)
  | extend batch =>
    simp only [Editor.moved, performed, h.transcript]
    exact h.withTranscript (Transcript.generation_le_extend _ batch)
  | update text =>
    have hp := h.putText text
    simp only [Editor.moved, performed]
    cases he : e.setText text with
    | ok e' =>
      simp only [he] at hp
      obtain ⟨d', hd', hm⟩ := hp
      simp only [hd', Editor.left]
      exact hm
    | error x =>
      simp only [he] at hp
      simp only [hp, Editor.left]
      exact h

/-- The composer at work, with its late looks and with what its refused calls leave, is in step with
the editor after any moves. -/
theorem follow_matches (t : Transcript) (moves : List Move) :
    ((attach t).follow moves).Matches ((attach t).perform moves) := by
  induction moves using List.reverseRecOn with
  | nil => exact .refl (Nat.le_refl _)
  | append_singleton moves m ih =>
    rw [follow_snoc, perform_snoc]
    exact ih.moved m

/-- In every history the composer remembers the class of the last token inserted since the active
cell became active, when it is looked at and however long it has not looked itself. A token of
another class is set off by a space, and it goes behind the text of the active cell and changes no
other one. -/
theorem insert_by_history (t : Transcript) (moves : List Move) :
    let e := (attach t).follow moves
    let d := (attach t).perform moves
    let last := remembered e.transcript.activeIndex ((attach t).moments moves)
    d.transcript = e.transcript ∧ d.composer.modifier = e.composer.modifier ∧
    e.lastClass = last ∧ d.looked.composer.lastInserted = last ∧
    ∀ token className, match e.insertNamed token className with
      | .ok (text, e') => ∃ old i cls, TokenClass.ofName? className = some cls ∧
          e.transcript.activeIndex = some i ∧ e.transcript.cells[i]? = some (.input old) ∧
          text = old ++ (if last.any (· ≠ cls) then " " else "") ++
            (if cls = .unit then
              "(" ++ (e.composer.modifier.map Modifier.symbol).getD "" ++ token ++ ")"
            else token) ∧
          e'.transcript = { e.transcript with cells := e.transcript.cells.set i (.input text) } ∧
          (inserting token className).run d = .ok text e'
      | .error x => (e.transcript.active? = none ∨ TokenClass.ofName? className = none) ∧
          ∃ d', (inserting token className).run d = .error x d' := by
  intro e d last
  have htracked : e.Tracked ((attach t).moments moves) := follow_tracked t moves
  have hmatches : e.Matches d := follow_matches t moves
  have hlast : e.lastClass = last := htracked.lastClass
  refine ⟨hmatches.transcript, hmatches.modifier, hlast, ?_, ?_⟩
  · rw [looked_lastInserted, hmatches.lastClass, hlast]
  intro token className
  have hrun := hmatches.inserting token className
  cases hi : e.insertNamed token className with
  | ok p =>
    simp only [hi] at hrun
    obtain ⟨cls, hc, hinsert⟩ := insertNamed_made hi
    obtain ⟨old, ha, htext, hu, -⟩ := insert_made hinsert
    obtain ⟨i, hindex, hcell⟩ := Transcript.active?_eq_some_iff.mp ha
    obtain ⟨j, hj, hu⟩ := Transcript.update?_eq_some_iff.mp hu
    obtain rfl : i = j := Option.some.inj (hindex.symm.trans hj)
    refine ⟨old, i, cls, hc, hindex, hcell, ?_, hu, hrun⟩
    rw [htext, separator_eq, hlast]
    cases cls <;> rfl
  | error x =>
    simp only [hi] at hrun
    obtain ⟨d', hd', -⟩ := hrun
    refine ⟨?_, d', hd'⟩
    -- With an active cell and a class it would have been inserted.
    by_contra hne
    push Not at hne
    obtain ⟨old, ha⟩ := Option.ne_none_iff_exists'.mp hne.1
    obtain ⟨cls, hc⟩ := Option.ne_none_iff_exists'.mp hne.2
    obtain ⟨u, -, hok⟩ := insertNamed_active ha hc token
    rw [hok] at hi
    cases hi

/-- What was inserted into a cell that is active no more sets nothing off. -/
example :
    ((attach (Transcript.empty.append (.input ""))).follow
      [.insert "7" "literal_num", .append (.message "late"), .append (.input "8"),
        .insert "+" "operator", .insert "9" "literal_num"]).transcript.active? =
      some "8+ 9" := by
  decide

end DeskCalc.Editor
