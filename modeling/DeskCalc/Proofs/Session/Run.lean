import DeskCalc.Session
import DeskCalc.Proofs.Adapter
import DeskCalc.Proofs.Editor.Effect
import DeskCalc.Proofs.Transcript

namespace DeskCalc

namespace Session

/-- What can happen to a session: a call of it, or a report of the engine outside a submission. -/
inductive Event
  | bootstrap
  | edit (text : String)
  | submit
  | submitText (text : String)
  | press (label : String)
  | insert (token className : String)
  | act (name : String)
  | toggle (symbol : String)
  | report (r : Report)

def after (s : Session) : Event → Session
  | .bootstrap => s.bootstrap.2
  | .edit text => (s.edit text).2
  | .submit => s.submit.2
  | .submitText text => (s.submitText text).2
  | .press label => (s.press label).2
  | .insert token className => (s.insert token className).2
  | .act name => (s.actNamed name).2
  | .toggle symbol => (s.toggle symbol).2
  | .report r => (s.deliver r).2

def run (s : Session) (events : List Event) : Session := events.foldl after s

theorem run_snoc (s : Session) (events : List Event) (x : Event) :
    s.run (events ++ [x]) = (s.run events).after x := by
  simp [run]

def Event.report? : Event → Option Report
  | .report r => some r
  | _ => none

def submitted? (s : Session) : Event → Option String
  | .submit => s.transcript.active?
  | .submitText text => s.transcript.active?.map fun _ => text
  | .press label =>
    if (Keyboard.find? label).any (·.stroke = .action .submit) then s.transcript.active? else none
  | .act name => if Action.ofName? name = some .submit then s.transcript.active? else none
  | _ => none

/-- The second session differs from the first in the active text and the composer at most. -/
structure Revised (s s' : Session) : Prop where
  adapter : s'.adapter = s.adapter
  last : s'.last = s.last
  transcript : s'.transcript = s.transcript ∨
    ∃ text, s.transcript.update? text = some s'.transcript

theorem Revised.refl (s : Session) : Revised s s := ⟨rfl, rfl, .inl rfl⟩

theorem Revised.ofEditor {s : Session} {editor : Editor}
    (h : s.editor.Effective (.edited editor)) : Revised s { s with editor := editor } :=
  ⟨rfl, rfl, h⟩

/-- An edit is a revision: of the active text, where there is one. -/
theorem edit_revised (s : Session) (text : String) : Revised s (s.edit text).2 := by
  unfold edit
  cases h : s.editor.setText text with
  | error e => exact .refl s
  | ok editor => exact .ofEditor (.inr ⟨text, Editor.setText_transcript h⟩)

theorem edit_eq {s : Session} {i : Nat} (hi : s.transcript.activeIndex = some i) (text : String) :
    s.edit text = (.ok (), s.withTranscript
      { s.transcript with cells := s.transcript.cells.set i (.input text) }) := by
  have hu : s.transcript.update? text =
      some { s.transcript with cells := s.transcript.cells.set i (.input text) } :=
    Transcript.update?_eq_some_iff.mpr ⟨i, hi, rfl⟩
  simp only [edit, Editor.setText, transcript] at hu ⊢
  rw [hu]
  rfl

theorem edit_active? {s : Session} {old : String} (h : s.transcript.active? = some old)
    (text : String) :
    s.edit text = (.ok (), (s.edit text).2) ∧ (s.edit text).2.transcript.active? = some text := by
  obtain ⟨i, hi, -⟩ := Transcript.active?_eq_some_iff.mp h
  have hu : s.transcript.update? text =
      some { s.transcript with cells := s.transcript.cells.set i (.input text) } :=
    Transcript.update?_eq_some_iff.mpr ⟨i, hi, rfl⟩
  rw [edit_eq hi]
  exact ⟨rfl, Transcript.active?_update? h hu⟩

theorem edit_inactive {s : Session} (h : s.transcript.activeIndex = none) (text : String) :
    s.edit text = (.error EditError.nothingToUpdate.fault, s) := by
  have hu : s.editor.transcript.update? text = none := by
    rw [Transcript.update?, show s.editor.transcript.activeIndex = none from h, Option.map_none]
  simp only [edit, Editor.setText, hu]

theorem insert_revised (s : Session) (token className : String) :
    Revised s (s.insert token className).2 := by
  unfold insert Editor.insertNamed
  cases TokenClass.ofName? className with
  | none => exact .refl s
  | some cls =>
    cases h : s.editor.insert token cls with
    | error e => simpa only [h] using Revised.refl s
    | ok p =>
      simp only [h]
      exact .ofEditor (.inr ⟨p.1, Editor.insert_transcript h⟩)

theorem toggle_revised (s : Session) (symbol : String) : Revised s (s.toggle symbol).2 := by
  unfold toggle Editor.toggleNamed
  cases Modifier.ofSymbol? symbol with
  | none => exact .refl s
  | some m => exact .ofEditor (.inl rfl)

/-- A submission without an active cell is refused. -/
theorem submit_inactive {s : Session} (h : s.transcript.active? = none) : s.submit.2 = s := by
  simp [submit, h]

theorem settle_submit (s : Session) : (s.settle (.ok .submit)).2 = s.submit.2 := by
  cases h : s.submit with
  | mk answer s' => cases answer <;> simp [settle, h]

/-- What settles an effect is a submission, where the effect is one, and else a revision. -/
theorem settle_cases {s : Session} {r : Except EditError Effect}
    (hr : ∀ effect, r = .ok effect → s.editor.Effective effect) :
    (r = .ok .submit ∧ (s.settle r).2 = s.submit.2) ∨
      (r ≠ .ok .submit ∧ Revised s (s.settle r).2) := by
  cases r with
  | error e => exact .inr ⟨by simp, .refl s⟩
  | ok effect =>
    cases effect with
    | edited editor => exact .inr ⟨by simp, .ofEditor (hr _ rfl)⟩
    | submit => exact .inl ⟨rfl, s.settle_submit⟩

/-- What a key or an action comes to that asks for a submission if and only if `asked` holds. -/
theorem settled_cases {s : Session} {x : Event} {r : Except EditError Effect} {asked : Prop}
    [Decidable asked] (hx : s.after x = (s.settle r).2) (hn : x.report? = none)
    (ht : s.submitted? x = if asked then s.transcript.active? else none)
    (hr : ∀ effect, r = .ok effect → s.editor.Effective effect)
    (hk : r = .ok .submit ↔ asked ∧ s.transcript.active?.isSome = true) :
    (x.report? = none ∧ s.submitted? x = none ∧ Revised s (s.after x)) ∨
      ∃ s' text, s.submitted? x = some text ∧ Revised s s' ∧ s'.transcript.active? = some text ∧
        s.after x = s'.submit.2 := by
  rw [hx, ht]
  rcases settle_cases hr with ⟨he, hs⟩ | ⟨he, hs⟩
  · obtain ⟨ha, hsome⟩ := hk.mp he
    obtain ⟨text, htext⟩ := Option.isSome_iff_exists.mp hsome
    exact .inr ⟨s, text, by rw [if_pos ha, htext], .refl s, htext, hs⟩
  · refine .inl ⟨hn, ?_, hs⟩
    split
    · rename_i ha
      by_contra hne
      exact he (hk.mpr ⟨ha, Option.isSome_iff_ne_none.mpr hne⟩)
    · rfl

/-- Nothing but the start of the engine, a late report, a revision, or a revision and then the
submission of the text that is active after it can happen. -/
theorem after_cases {s : Session}
    (hs : s.transcript.active? = none → s.transcript.activeIndex = none) (x : Event) :
    x = .bootstrap ∨ (∃ r, x = .report r) ∨
    (x.report? = none ∧ s.submitted? x = none ∧ Revised s (s.after x)) ∨
    ∃ s' text, s.submitted? x = some text ∧ Revised s s' ∧ s'.transcript.active? = some text ∧
      s.after x = s'.submit.2 := by
  cases x with
  | bootstrap => exact .inl rfl
  | report r => exact .inr (.inl ⟨r, rfl⟩)
  | edit text => exact .inr (.inr (.inl ⟨rfl, rfl, s.edit_revised text⟩))
  | insert token className => exact .inr (.inr (.inl ⟨rfl, rfl, s.insert_revised token className⟩))
  | toggle symbol => exact .inr (.inr (.inl ⟨rfl, rfl, s.toggle_revised symbol⟩))
  | submit =>
    cases ha : s.transcript.active? with
    | none =>
      refine .inr (.inr (.inl ⟨rfl, ha, ?_⟩))
      rw [after, submit_inactive ha]
      exact .refl s
    | some text => exact .inr (.inr (.inr ⟨s, text, ha, .refl s, ha, rfl⟩))
  | submitText text =>
    cases ha : s.transcript.active? with
    | none =>
      refine .inr (.inr (.inl ⟨rfl, by simp [submitted?, ha], ?_⟩))
      rw [after, submitText, edit_inactive (hs ha)]
      exact .refl s
    | some old =>
      obtain ⟨he, hn⟩ := edit_active? ha text
      refine .inr (.inr (.inr ⟨(s.edit text).2, text, ?_, s.edit_revised text, hn, ?_⟩))
      · simp [submitted?, ha]
      · rw [after, submitText, he]
  | press label =>
    exact .inr (.inr (settled_cases rfl rfl rfl (fun _ => Editor.press_effective)
      Editor.press_eq_submit_iff))
  | act name =>
    exact .inr (.inr (settled_cases rfl rfl rfl (fun _ => Editor.actNamed_effective)
      Editor.actNamed_eq_submit_iff))

theorem report?_of_submitted? {s : Session} {x : Event} {text : String}
    (h : s.submitted? x = some text) : x.report? = none := by
  cases x with
  | report r => cases h
  | _ => rfl

/-- The session as an event that submits finds it, with the text to be submitted put in. -/
def prepared (s : Session) : Event → Session
  | .submitText text => (s.edit text).2
  | _ => s

/-- What an event does before it submits is a revision. -/
theorem prepared_revised (s : Session) (x : Event) : Revised s (s.prepared x) := by
  cases x with
  | submitText text => exact s.edit_revised text
  | _ => exact .refl s

theorem settle_asked {s : Session} {r : Except EditError Effect} {asked : Prop} {text : String}
    [Decidable asked]
    (hk : r = .ok .submit ↔ asked ∧ s.transcript.active?.isSome = true)
    (h : (if asked then s.transcript.active? else none) = some text) :
    (s.settle r).2 = s.submit.2 ∧ s.transcript.active? = some text := by
  split at h
  · rename_i hasked
    have hr : r = .ok .submit := hk.mpr ⟨hasked, by rw [h]; rfl⟩
    rw [hr]
    exact ⟨s.settle_submit, h⟩
  · cases h

/-- All ways to submit come to one. -/
theorem after_submitted {s : Session} {x : Event} {text : String}
    (h : s.submitted? x = some text) :
    s.after x = (s.prepared x).submit.2 ∧ (s.prepared x).transcript.active? = some text := by
  cases x with
  | submit => exact ⟨rfl, h⟩
  | submitText new =>
    obtain ⟨old, hold, hnew⟩ := Option.map_eq_some_iff.mp h
    obtain ⟨he, ha⟩ := edit_active? hold new
    refine ⟨?_, hnew ▸ ha⟩
    rw [after, submitText, he]
    rfl
  | press label => exact settle_asked Editor.press_eq_submit_iff h
  | act name => exact settle_asked Editor.actNamed_eq_submit_iff h
  | _ => cases h

end Session

end DeskCalc
