import DeskCalc.Proofs.Adapter.Buffer
import DeskCalc.Proofs.Session.Outcome

namespace DeskCalc

/-- The engine's reactions go by the text alone. -/
def Engine.Forgetful (e : Engine) : Prop :=
  ∀ calls calls' text, e.submit calls text = e.submit calls' text

namespace Session

/-- Two sessions that differ in what their engine has been called for and in their latest
submission, and in nothing else. -/
structure Alike (s t : Session) : Prop where
  editor : t.editor = s.editor
  source : t.adapter.source = s.adapter.source
  phase : t.adapter.phase = s.adapter.phase
  pending : t.adapter.pending = s.adapter.pending

variable {s t : Session} {e : Engine} {x : Event} {text : String} {f : Fault}

theorem Alike.transcript (h : Alike s t) : t.transcript = s.transcript :=
  congrArg Editor.transcript h.editor

theorem Alike.isReady (h : Alike s t) : t.adapter.isReady = s.adapter.isReady := by
  rw [Adapter.isReady, h.phase, Adapter.isReady]

theorem Alike.withEditor (h : Alike s t) (editor : Editor) :
    Alike { s with editor := editor } { t with editor := editor } :=
  ⟨rfl, h.source, h.phase, h.pending⟩

theorem Alike.edit (h : Alike s t) (text : String) :
    (t.edit text).1 = (s.edit text).1 ∧ Alike (s.edit text).2 (t.edit text).2 := by
  unfold Session.edit
  rw [h.editor]
  cases s.editor.setText text with
  | ok editor => exact ⟨rfl, h.withEditor editor⟩
  | error e => exact ⟨rfl, h⟩

theorem Alike.insert (h : Alike s t) (token className : String) :
    Alike (s.insert token className).2 (t.insert token className).2 := by
  unfold Session.insert
  rw [h.editor]
  cases s.editor.insertNamed token className with
  | ok p => exact h.withEditor p.2
  | error e => exact h

theorem Alike.toggle (h : Alike s t) (symbol : String) :
    Alike (s.toggle symbol).2 (t.toggle symbol).2 := by
  unfold Session.toggle
  rw [h.editor]
  cases s.editor.toggleNamed symbol with
  | ok editor => exact h.withEditor editor
  | error e => exact h

theorem Alike.deliver (h : Alike s t) (r : Report) : Alike (s.deliver r).2 (t.deliver r).2 := by
  cases hc : r.cell? with
  | none =>
    rw [deliver_refused hc, deliver_refused hc]
    exact h
  | some c =>
    cases hr : s.adapter.isReady with
    | false =>
      rw [deliver_early hr hc, deliver_early (h.isReady.trans hr) hc]
      refine ⟨?_, h.source, h.phase, h.pending⟩
      simp only [withTranscript, h.editor, h.transcript]
    | true =>
      rw [deliver_late hr hc, deliver_late (h.isReady.trans hr) hc]
      refine ⟨h.editor, h.source, h.phase, ?_⟩
      simp only [h.pending]

/-- The record of a submission makes the same cells in both. -/
theorem Alike.conclude (h : Alike s t) (r : Submission) :
    Alike (s.conclude r).2 (t.conclude r).2 := by
  refine ⟨?_, h.source, h.phase, h.pending⟩
  simp only [Session.conclude, withTranscript, h.editor, h.transcript]

/-- The one thing in which the two could part is that the engine is asked after different calls. An
engine without memory does not notice, and ends a submission in the same way in both. -/
theorem Alike.submit (h : Alike s t) (hp : s.adapter.phase = .ready e) (he : e.Forgetful) :
    Alike s.submit.2 t.submit.2 := by
  have htp : t.adapter.phase = .ready e := h.phase.trans hp
  cases ha : s.transcript.active? with
  | none =>
    have hta : t.transcript.active? = none := by rw [h.transcript, ha]
    rw [submit_inactive ha, submit_inactive hta]
    exact h
  | some text =>
    obtain ⟨i, hi, -⟩ := Transcript.active?_eq_some_iff.mp ha
    have hta : t.transcript.active? = some text := by rw [h.transcript, ha]
    have hti : t.transcript.activeIndex = some i := by rw [h.transcript, hi]
    have hsame : e.submit t.adapter.calls text = e.submit s.adapter.calls text := he _ _ _
    cases hx : (e.submit s.adapter.calls text).escaping with
    | none =>
      have htx : (e.submit t.adapter.calls text).escaping = none := hsame ▸ hx
      rw [submit_returned hp ha hi hx, submit_returned htp hta hti htx, hsame, h.pending]
      have hreleased : Alike { s with adapter := (s.adapter.asked text).released }
          { t with adapter := (t.adapter.asked text).released } :=
        ⟨h.editor, h.source, h.phase, rfl⟩
      exact hreleased.conclude _
    | some f =>
      have htx : (e.submit t.adapter.calls text).escaping = some f := hsame ▸ hx
      have hasked : Alike { s with adapter := s.adapter.asked text }
          { t with adapter := t.adapter.asked text } :=
        ⟨h.editor, h.source, h.phase, h.pending⟩
      cases hf : f.isOrdinary with
      | true =>
        rw [submit_failed hp ha hi hx hf, submit_failed htp hta hti htx hf]
        exact hasked.conclude _
      | false =>
        rw [submit_interrupted hp ha hi hx hf, submit_interrupted htp hta hti htx hf]
        exact ⟨h.editor, h.source, h.phase, h.pending⟩

theorem Alike.settle (h : Alike s t) (hp : s.adapter.phase = .ready e) (he : e.Forgetful)
    (r : Except EditError Effect) : Alike (s.settle r).2 (t.settle r).2 := by
  cases r with
  | error e => exact h
  | ok effect =>
    cases effect with
    | edited editor => exact h.withEditor editor
    | submit =>
      rw [settle_submit, settle_submit]
      exact h.submit hp he

theorem Alike.after (h : Alike s t) (hp : s.adapter.phase = .ready e) (he : e.Forgetful)
    (x : Event) : Alike (s.after x) (t.after x) := by
  cases x with
  | bootstrap =>
    have hs : s.bootstrap.2 = s := bootstrap_again (by simp [hp])
    have ht : t.bootstrap.2 = t := bootstrap_again (by simp [h.phase, hp])
    rw [Session.after, Session.after, hs, ht]
    exact h
  | edit text => exact (h.edit text).2
  | submit => exact h.submit hp he
  | submitText text =>
    obtain ⟨hanswer, hedited⟩ := h.edit text
    have hphase : (s.edit text).2.adapter.phase = .ready e := by
      rw [(s.edit_revised text).adapter, hp]
    simp only [Session.after, submitText]
    cases hs : s.edit text with
    | mk answer s' =>
      cases ht : t.edit text with
      | mk answer' t' =>
        simp only [hs, ht] at hanswer hedited hphase
        subst hanswer
        cases answer' with
        | ok _ => exact hedited.submit hphase he
        | error f => exact hedited
  | press label =>
    have hsettled := h.settle hp he (s.editor.press label)
    simpa only [Session.after, press, h.editor] using hsettled
  | insert token className => exact h.insert token className
  | act name =>
    have hsettled := h.settle hp he (s.editor.actNamed name)
    simpa only [Session.after, actNamed, h.editor] using hsettled
  | toggle symbol => exact h.toggle symbol
  | report r => exact h.deliver r

/-- Sessions that are alike stay so, whatever happens to both. -/
theorem Alike.run (h : Alike s t) (hs : s.Coherent) (hp : s.adapter.phase = .ready e)
    (he : e.Forgetful) (events : List Event) : Alike (s.run events) (t.run events) := by
  induction events generalizing s t with
  | nil => exact h
  | cons x events ih =>
    have hr : s.adapter.isReady = true := Adapter.isReady_iff.mpr ⟨e, hp⟩
    have hp' : (s.after x).adapter.phase = .ready e := by rw [(hs.takes_after hr x).phase, hp]
    exact ih (h.after hp he x) (hs.after x) hp'

/-- An interrupt passes through a submission as it is, and leaves a record that is not finished. -/
theorem after_interrupted (hp : s.adapter.phase = .ready e) (hx : s.submitted? x = some text)
    (hi : (e.submit s.adapter.calls text).escaping = some f) (hf : f.isOrdinary = false) :
    (s.prepared x).submit = (.error f, s.after x) ∧ ∃ i, s.after x = { s.prepared x with
      adapter := (s.prepared x).adapter.asked text, last := some (.started text i) } := by
  obtain ⟨hafter, ha⟩ := after_submitted hx
  obtain ⟨i, hindex, -⟩ := Transcript.active?_eq_some_iff.mp ha
  have hadapter := (s.prepared_revised x).adapter
  have hphase : (s.prepared x).adapter.phase = .ready e := by rw [hadapter, hp]
  have hescaping : (e.submit (s.prepared x).adapter.calls text).escaping = some f := by
    rw [hadapter, hi]
  have hsubmit := submit_interrupted hphase ha hindex hescaping hf
  rw [hsubmit] at hafter
  exact ⟨by rw [hsubmit, hafter], i, hafter⟩

/-- A submission that is interrupted leaves the editor and what is held back as they were. Its
buffer is closed, so that late reports are held back as before; and if the engine has no memory,
every later run comes to the same as without that submission. -/
theorem interrupted_submission_transparent (source : EngineSource) (events : List Event)
    {e : Engine} {x : Event} {text : String} {f : Fault}
    (hp : ((ofSource source).run events).adapter.phase = .ready e)
    (hx : ((ofSource source).run events).submitted? x = some text)
    (hi : (e.submit ((ofSource source).run events).adapter.calls text).escaping = some f)
    (hf : f.isOrdinary = false) :
    let before := ((ofSource source).run events).prepared x
    let after := ((ofSource source).run events).after x
    before.submit = (.error f, after) ∧ after.editor = before.editor ∧
      after.adapter.phase = .ready e ∧ after.adapter.pending = before.adapter.pending ∧
      (Buffered.closed before.adapter).submit before.transcript text =
        (.error f, .closed after.adapter, after.transcript) ∧
      (∀ (r : Report) (c : Cell), r.cell? = some c →
        (after.deliver r).2.adapter.pending = before.adapter.pending ++ [c]) ∧
      (e.Forgetful → ∀ later, Alike (before.run later) (after.run later)) := by
  intro before after
  have hrev : Revised ((ofSource source).run events) before := prepared_revised _ x
  have hc : before.Coherent := ((ofSource_coherent source).run events).revised hrev
  have hphase : before.adapter.phase = .ready e := by rw [hrev.adapter, hp]
  obtain ⟨hsubmit, i, he⟩ := after_interrupted hp hx hi hf
  change after = _ at he
  have halike : Alike before after := by
    rw [he]
    exact ⟨rfl, rfl, rfl, rfl⟩
  have hready : after.adapter.phase = .ready e := halike.phase.trans hphase
  refine ⟨hsubmit, halike.editor, hready, halike.pending, ?_, ?_, ?_⟩
  · have hescaping : (e.submit before.adapter.calls text).escaping = some f := by
      rw [hrev.adapter, hi]
    rw [Buffered.submit_closed, Adapter.submit_raised hphase hescaping, hf, he]
    rfl
  · intro r c hr
    rw [deliver_late (Adapter.isReady_iff.mpr ⟨e, hready⟩) hr, ← halike.pending]
  · intro hforget later
    exact halike.run hc hphase hforget later

/-- A late report before the interrupt and one after it come with the next success, as if the one
had followed the other. -/
theorem echo_interrupted_transparent :
    let s := (ofSource (.given echo)).run [.bootstrap, .report ⟨"message", .text "a"⟩]
    s.submitted? (.submitText "stop") = some "stop" ∧
      ((s.prepared (.submitText "stop")).run
        [.report ⟨"message", .text "b"⟩, .submitText "c"]).transcript.cells =
        [.input "c", .message "a", .message "b", .message "c", .input ""] ∧
      Alike
        ((s.prepared (.submitText "stop")).run [.report ⟨"message", .text "b"⟩, .submitText "c"])
        ((s.after (.submitText "stop")).run [.report ⟨"message", .text "b"⟩, .submitText "c"]) := by
  intro s
  have hx : s.submitted? (.submitText "stop") = some "stop" := by decide
  have hi : (echo.submit s.adapter.calls "stop").escaping = some ⟨.interrupt, none⟩ := by decide
  obtain ⟨-, -, -, -, -, -, hlater⟩ :=
    interrupted_submission_transparent (.given echo) _ rfl hx hi rfl
  exact ⟨hx, by decide, hlater (fun _ _ _ => rfl) _⟩

end Session

end DeskCalc
