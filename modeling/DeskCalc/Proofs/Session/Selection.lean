import DeskCalc.Proofs.Keyboard.Composition
import DeskCalc.Proofs.Session.Stepwise

namespace DeskCalc

namespace Modifier

/-- What some toggles leave selected where nothing was: the last of them, unless the toggles of it
at the end cancel out. -/
def selection (ms : List Modifier) : Option Modifier :=
  ms.getLast?.filter fun m => (ms.rtakeWhile (· = m)).length % 2 = 1

variable {ms : List Modifier} {m : Modifier}

/-- A modifier is selected exactly if it was toggled last, and the run of its toggles at the end is
odd. -/
theorem selection_eq_some_iff :
    selection ms = some m ↔ ms.getLast? = some m ∧ (ms.rtakeWhile (· = m)).length % 2 = 1 := by
  simp [selection, Option.filter_eq_some_iff]

theorem rtakeWhile_same (ms : List Modifier) (m : Modifier) :
    ((ms ++ [m]).rtakeWhile (· = m)).length = (ms.rtakeWhile (· = m)).length + 1 := by
  have hp : decide (m = m) = true := decide_eq_true rfl
  have htake := List.rtakeWhile_concat_pos (fun k => decide (k = m)) ms m hp
  rw [htake, List.length_append, List.length_singleton]

/-- The run at the end is that of the last one, and empty for any other. -/
theorem rtakeWhile_other (h : ms.getLast? ≠ some m) : ms.rtakeWhile (· = m) = [] := by
  rw [List.rtakeWhile_eq_nil_iff]
  intro hne hlast
  apply h
  rw [List.getLast?_eq_some_getLast hne, of_decide_eq_true hlast]

/-- One more toggle selects its modifier or takes the selection back. -/
theorem selection_snoc (ms : List Modifier) (m : Modifier) :
    selection (ms ++ [m]) = if selection ms = some m then none else some m := by
  have hrun := rtakeWhile_same ms m
  have hlast : (ms ++ [m]).getLast? = some m := List.getLast?_concat
  by_cases hs : selection ms = some m
  · have hodd := (selection_eq_some_iff.mp hs).2
    have heven : ¬((ms ++ [m]).rtakeWhile (· = m)).length % 2 = 1 := by omega
    rw [if_pos hs, selection, hlast, Option.filter_some, if_neg (by simpa using heven)]
  · have heven : (ms.rtakeWhile (· = m)).length % 2 = 0 := by
      by_cases hm : ms.getLast? = some m
      · have hno : ¬(ms.rtakeWhile (· = m)).length % 2 = 1 := by
          intro hodd
          exact hs (selection_eq_some_iff.mpr ⟨hm, hodd⟩)
        omega
      · rw [rtakeWhile_other hm]
        rfl
    rw [if_neg hs]
    exact selection_eq_some_iff.mpr ⟨hlast, by omega⟩

end Modifier

namespace Stroke

def isToken : Stroke → Bool
  | token _ _ => true
  | _ => false

def toggles? : Stroke → Option Modifier
  | modifier m => some m
  | _ => none

/-- The modifiers toggled since the last token, in order. -/
def toggled (ks : List Stroke) : List Modifier :=
  (ks.rtakeWhile fun k => !k.isToken).filterMap toggles?

/-- A token uses up the modifier, so nothing that was toggled before it counts. -/
theorem toggled_token (ks : List Stroke) {k : Stroke} (hk : k.isToken = true) :
    toggled (ks ++ [k]) = [] := by
  have hp : ¬(!k.isToken) = true := by simp [hk]
  have htake := List.rtakeWhile_concat_neg (fun k : Stroke => !k.isToken) ks k hp
  rw [toggled, htake, List.filterMap_nil]

theorem toggled_other (ks : List Stroke) {k : Stroke} (hk : k.isToken = false) :
    toggled (ks ++ [k]) = toggled ks ++ k.toggles?.toList := by
  have hp : (!k.isToken) = true := by simp [hk]
  have htake := List.rtakeWhile_concat_pos (fun k : Stroke => !k.isToken) ks k hp
  rw [toggled, htake, List.filterMap_append, ← toggled]
  cases k <;> rfl

/-- What strokes select is decided by the toggles since the last token. -/
theorem foldl_select (ks : List Stroke) :
    ks.foldl select none = Modifier.selection (toggled ks) := by
  induction ks using List.reverseRecOn with
  | nil => rfl
  | append_singleton ks k ih =>
    rw [List.foldl_append, List.foldl_cons, List.foldl_nil, ih]
    cases k with
    | token token cls =>
      rw [toggled_token ks rfl]
      rfl
    | action a =>
      rw [toggled_other ks rfl]
      simp only [toggles?, Option.toList_none, List.append_nil, select]
    | modifier m =>
      rw [toggled_other ks rfl]
      simp only [toggles?, Option.toList_some, select, Modifier.selection_snoc]

end Stroke

namespace Editor

variable {e e' : Editor} {k : Stroke}

theorem strike_edited (h : e.strike k = .ok (.edited e')) :
    e'.composer.modifier = k.select e.composer.modifier := by
  cases k with
  | token token cls =>
    cases hi : e.insert token cls with
    | error x => simp [strike, hi, Except.map] at h
    | ok p =>
      simp only [strike, hi, Except.map, Except.ok.injEq, Effect.edited.injEq] at h
      obtain ⟨-, -, -, -, hc⟩ := insert_made hi
      rw [← h, hc, Stroke.select]
  | action a =>
    obtain ⟨-, u, -, rfl⟩ := act_made h
    rfl
  | modifier m =>
    simp only [strike, Except.ok.injEq, Effect.edited.injEq] at h
    rw [← h]
    rfl

theorem strike_submit (h : e.strike k = .ok .submit) (selected : Option Modifier) :
    k.select selected = selected := by
  rw [(strike_eq_submit_iff.mp h).1]
  rfl

end Editor

namespace Session

/-- The stroke that a move comes to: a token that it inserts, a modifier that it toggles, or the
stroke of a key; nothing if the editor refuses it, and for any other move. -/
def stroke? (s : Session) : Move → Option Stroke
  | .event (.toggle symbol) => (Modifier.ofSymbol? symbol).map .modifier
  | .event (.insert token className) =>
    (s.editor.insertNamed token className).toOption.bind fun _ =>
      (TokenClass.ofName? className).map (.token token)
  | .event (.press label) =>
    (Keyboard.find? label).bind fun key =>
      (s.editor.strike key.stroke).toOption.map fun _ => key.stroke
  | _ => none

def strokes (s : Session) : List Move → List Stroke
  | [] => []
  | m :: moves => (s.stroke? m).toList ++ (s.moved m).strokes moves

def selected (s : Session) : Option Modifier := s.editor.composer.modifier

variable {s : Session} {m : Move}

theorem edit_selected (s : Session) (text : String) : (s.edit text).2.selected = s.selected := by
  unfold edit
  cases h : s.editor.setText text with
  | error x => rfl
  | ok e =>
    obtain ⟨u, -, rfl⟩ := Editor.setText_made h
    rfl

/-- A submission has no part in the modifier. -/
theorem submit_selected (s : Session) : s.submit.2.selected = s.selected :=
  congrArg Composer.modifier s.submit_composer

theorem submitText_selected (s : Session) (text : String) :
    (s.submitText text).2.selected = s.selected := by
  have hedit := s.edit_selected text
  unfold submitText
  rcases hs : s.edit text with ⟨answer, s'⟩
  rw [hs] at hedit
  cases answer with
  | ok _ => exact (submit_selected s').trans hedit
  | error f => exact hedit

/-- An action selects nothing, whatever it comes to. -/
theorem act_selected (s : Session) (name : String) :
    (s.actNamed name).2.selected = s.selected := by
  unfold actNamed Editor.actNamed
  cases Action.ofName? name with
  | none => rfl
  | some a =>
    dsimp only
    cases h : s.editor.act a with
    | error x => rfl
    | ok effect =>
      cases effect with
      | edited e =>
        obtain ⟨-, u, -, rfl⟩ := Editor.act_made h
        rfl
      | submit =>
        rw [settle_submit]
        exact s.submit_selected

theorem press_selected (s : Session) (label : String) :
    (s.press label).2.selected =
      (s.stroke? (.event (.press label))).toList.foldl Stroke.select s.selected := by
  simp only [press, Editor.press, stroke?]
  cases Keyboard.find? label with
  | none => rfl
  | some key =>
    dsimp only [Option.bind_some]
    cases h : s.editor.strike key.stroke with
    | error x => rfl
    | ok effect =>
      cases effect with
      | edited e => exact Editor.strike_edited h
      | submit =>
        rw [settle_submit, submit_selected]
        exact (Editor.strike_submit h s.selected).symm

theorem insert_selected (s : Session) (token className : String) :
    (s.insert token className).2.selected =
      (s.stroke? (.event (.insert token className))).toList.foldl Stroke.select s.selected := by
  simp only [insert, stroke?]
  cases h : s.editor.insertNamed token className with
  | error x => rfl
  | ok p =>
    obtain ⟨cls, hc, hinsert⟩ := Editor.insertNamed_made h
    obtain ⟨-, -, -, -, hk⟩ := Editor.insert_made hinsert
    rw [hc]
    exact congrArg Composer.modifier hk

theorem toggle_selected (s : Session) (symbol : String) :
    (s.toggle symbol).2.selected =
      (s.stroke? (.event (.toggle symbol))).toList.foldl Stroke.select s.selected := by
  simp only [toggle, Editor.toggleNamed, stroke?]
  cases Modifier.ofSymbol? symbol <;> rfl

/-- One move selects what its stroke selects, and without one it leaves the selection as it is. -/
theorem moved_selected (s : Session) (m : Move) :
    (s.moved m).selected = (s.stroke? m).toList.foldl Stroke.select s.selected := by
  cases m with
  | append c => rfl
  | extend batch => rfl
  | event x =>
    cases x with
    | bootstrap => rfl
    | report r => rfl
    | edit text => exact s.edit_selected text
    | submit => exact s.submit_selected
    | submitText text => exact s.submitText_selected text
    | act name => exact s.act_selected name
    | press label => exact s.press_selected label
    | insert token className => exact s.insert_selected token className
    | toggle symbol => exact s.toggle_selected symbol

theorem follow_selected (s : Session) (moves : List Move) :
    (s.follow moves).selected = (s.strokes moves).foldl Stroke.select s.selected := by
  induction moves generalizing s with
  | nil => rfl
  | cons m moves ih =>
    have hfollow : s.follow (m :: moves) = (s.moved m).follow moves := rfl
    rw [hfollow, ih, strokes, List.foldl_append, moved_selected]

/-- A call that ends with a fault leaves the selection as it is. -/
theorem fault_selected {x : Event} {f : Fault} (h : s.fault? x = some f) :
    (s.after x).selected = s.selected := by
  cases x with
  | bootstrap => rfl
  | report r => rfl
  | edit text => exact s.edit_selected text
  | submit => exact s.submit_selected
  | submitText text => exact s.submitText_selected text
  | act name => exact s.act_selected name
  | press label =>
    simp only [fault?, press] at h
    simp only [after, press]
    cases hr : s.editor.press label with
    | error x => rfl
    | ok effect =>
      cases effect with
      | edited e =>
        rw [hr] at h
        cases h
      | submit =>
        rw [settle_submit]
        exact s.submit_selected
  | insert token className =>
    simp only [fault?, insert] at h
    simp only [after, insert]
    cases hr : s.editor.insertNamed token className with
    | error x => rfl
    | ok p =>
      rw [hr] at h
      cases h
  | toggle symbol =>
    simp only [fault?, toggle] at h
    simp only [after, toggle]
    cases hr : s.editor.toggleNamed symbol with
    | error x => rfl
    | ok e =>
      rw [hr] at h
      cases h

/-- In every session a modifier is selected exactly if it is the last one toggled since the last
token and the run of its toggles there has odd length. A token clears the selection, whatever its
class; nothing but tokens and toggles has a part in it, and no call that ends with a fault. -/
theorem selected_iff_toggled (source : EngineSource) (moves : List Move) :
    let s := (ofSource source).follow moves
    let d := (ofSource source).perform moves
    let toggled := Stroke.toggled ((ofSource source).strokes moves)
    (∀ m, s.editor.composer.modifier = some m ↔
      toggled.getLast? = some m ∧ (toggled.rtakeWhile (· = m)).length % 2 = 1) ∧
    d.editor.composer.modifier = s.editor.composer.modifier ∧
    (∀ x, (s.moved x).editor.composer.modifier =
      match s.stroke? x with
      | some (.modifier m) => if s.editor.composer.modifier = some m then none else some m
      | some (.token _ _) => none
      | some (.action _) | none => s.editor.composer.modifier) ∧
    ∀ x f, s.fault? x = some f →
      (s.after x).editor.composer.modifier = s.editor.composer.modifier := by
  intro s d toggled
  have hselected : s.selected = Modifier.selection toggled := by
    rw [follow_selected, ← Stroke.foldl_select]
    rfl
  refine ⟨?_, (follow_matches source moves).editor.modifier, ?_, fun x f => fault_selected⟩
  · intro m
    rw [← Modifier.selection_eq_some_iff, ← hselected, selected]
  · intro x
    have hmoved := s.moved_selected x
    rw [selected, selected] at hmoved
    rw [hmoved]
    cases s.stroke? x with
    | none => rfl
    | some k => cases k <;> rfl

end Session

end DeskCalc
