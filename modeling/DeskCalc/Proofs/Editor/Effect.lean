import DeskCalc.Editor
import Mathlib.Tactic.Common

namespace DeskCalc

namespace Editor

/-- An effect of the keyboard that is an edit changes the active text at most; one that is a
submission needs an active cell. -/
def Effective (e : Editor) : Effect → Prop
  | .edited e' => e'.transcript = e.transcript ∨
      ∃ text, e.transcript.update? text = some e'.transcript
  | .submit => e.transcript.active?.isSome = true

theorem setText_transcript {e e' : Editor} {text : String} (h : e.setText text = .ok e') :
    e.transcript.update? text = some e'.transcript := by
  unfold setText at h
  cases hu : e.transcript.update? text with
  | none => simp [hu] at h
  | some t =>
    simp only [hu, Except.ok.injEq] at h
    rw [← h]

theorem insert_transcript {e e' : Editor} {token text : String} {cls : TokenClass}
    (h : e.insert token cls = .ok (text, e')) :
    e.transcript.update? text = some e'.transcript := by
  unfold insert at h
  cases ha : e.transcript.active? with
  | none => simp [ha] at h
  | some old =>
    cases hu : e.transcript.update? (old ++ e.separator cls ++ e.written token cls) with
    | none => simp [ha, hu] at h
    | some t =>
      simp only [ha, hu, Except.ok.injEq, Prod.mk.injEq] at h
      rw [← h.1, ← h.2, hu]

theorem act_effective {e : Editor} {a : Action} {effect : Effect} (h : e.act a = .ok effect) :
    e.Effective effect := by
  unfold act at h
  cases ha : e.transcript.active? with
  | none => simp [ha] at h
  | some old =>
    cases hb : acted old a with
    | none =>
      simp only [ha, hb, Except.ok.injEq] at h
      simp [← h, Effective, ha]
    | some text =>
      cases hs : e.setText text with
      | error x => simp [ha, hb, hs, Except.map] at h
      | ok e' =>
        simp only [ha, hb, hs, Except.map, Except.ok.injEq] at h
        rw [← h]
        exact .inr ⟨text, setText_transcript hs⟩

theorem act_eq_submit_iff {e : Editor} {a : Action} :
    e.act a = .ok .submit ↔ a = .submit ∧ e.transcript.active?.isSome = true := by
  unfold act
  cases ha : e.transcript.active? with
  | none => simp
  | some old =>
    have never (text : String) : (e.setText text).map Effect.edited ≠ .ok .submit := by
      cases e.setText text <;> simp [Except.map]
    cases a with
    | submit => simp [acted]
    | space | newline | backspace | clear => simpa [acted] using never _

theorem actNamed_effective {e : Editor} {name : String} {effect : Effect}
    (h : e.actNamed name = .ok effect) : e.Effective effect := by
  unfold actNamed at h
  split at h
  · exact act_effective h
  · cases h

theorem actNamed_eq_submit_iff {e : Editor} {name : String} :
    e.actNamed name = .ok .submit ↔
      Action.ofName? name = some .submit ∧ e.transcript.active?.isSome = true := by
  unfold actNamed
  cases hn : Action.ofName? name with
  | none => simp
  | some a => rw [act_eq_submit_iff, Option.some_inj]

/-- A key changes the text of the active cell and the composer at most. -/
theorem strike_effective {e : Editor} {k : Stroke} {effect : Effect}
    (h : e.strike k = .ok effect) : e.Effective effect := by
  cases k with
  | token token cls =>
    cases hi : e.insert token cls with
    | error x => simp [strike, hi, Except.map] at h
    | ok p =>
      simp only [strike, hi, Except.map, Except.ok.injEq] at h
      rw [← h]
      exact .inr ⟨p.1, insert_transcript hi⟩
  | action a => exact act_effective h
  | modifier m =>
    simp only [strike, Except.ok.injEq] at h
    rw [← h]
    exact .inl rfl

/-- A submission is asked for by the key for it alone, and only where there is an active cell. -/
theorem strike_eq_submit_iff {e : Editor} {k : Stroke} :
    e.strike k = .ok .submit ↔ k = .action .submit ∧ e.transcript.active?.isSome = true := by
  cases k with
  | token token cls => cases hi : e.insert token cls <;> simp [strike, hi, Except.map]
  | action a => rw [strike, act_eq_submit_iff, Stroke.action.injEq]
  | modifier m => simp [strike]

theorem press_effective {e : Editor} {label : String} {effect : Effect}
    (h : e.press label = .ok effect) : e.Effective effect := by
  unfold press at h
  split at h
  · exact strike_effective h
  · cases h

theorem press_eq_submit_iff {e : Editor} {label : String} :
    e.press label = .ok .submit ↔
      (Keyboard.find? label).any (·.stroke = .action .submit) = true ∧
        e.transcript.active?.isSome = true := by
  unfold press
  cases hk : Keyboard.find? label with
  | none => simp
  | some key => simp [strike_eq_submit_iff]

end Editor

end DeskCalc
