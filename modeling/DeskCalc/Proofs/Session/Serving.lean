import DeskCalc.Engine.Stack
import DeskCalc.Proofs.Session.Advance

namespace DeskCalc

/-- A payload that is not what was expected interrupts nothing. -/
theorem Payload.Error.fault_isOrdinary (e : Payload.Error) : e.fault.isOrdinary = true := by
  cases e <;> rfl

theorem Report.refusal?_isOrdinary {r : Report} {f : Fault} (h : r.refusal? = some f) :
    f.isOrdinary = true := by
  unfold refusal? at h
  split at h
  · cases h
  · rename_i e _
    rw [← Option.some.inj h]
    exact e.fault_isOrdinary

theorem Reaction.escaping_isOrdinary {r : Reaction}
    (h : ∀ f, r.fault = some f → f.isOrdinary = true) {f : Fault} (hf : r.escaping = some f) :
    f.isOrdinary = true := by
  rcases Option.or_eq_some_iff.mp hf with hrefused | ⟨-, hown⟩
  · obtain ⟨p, -, hp⟩ := List.exists_of_findSome?_eq_some hrefused
    exact Report.refusal?_isOrdinary hp
  · exact h f hown

/-- An engine that is never interrupted, whatever text it is given and whenever. -/
def Engine.Ordinary (e : Engine) : Prop :=
  ∀ calls text f, (e.submit calls text).fault = some f → f.isOrdinary = true

theorem MachineError.fault_isOrdinary (e : MachineError) : e.fault.isOrdinary = true := by
  cases e <;> rfl

/-- The faults of the stack engine are those of its machine, and all of them ordinary. -/
theorem Engine.stack_ordinary : Engine.stack.Ordinary := by
  intro calls text f hf
  obtain ⟨e, -, he⟩ := Option.map_eq_some_iff.mp hf
  rw [← he]
  exact e.fault_isOrdinary

namespace Session

/-- A session whose engine has started and is never interrupted. -/
structure Serving (s : Session) : Prop where
  coherent : s.Coherent
  engine : ∃ e, s.adapter.phase = .ready e ∧ e.Ordinary

variable {s s' : Session}

theorem Serving.isReady (h : s.Serving) : s.adapter.isReady = true := by
  obtain ⟨e, hp, -⟩ := h.engine
  exact Adapter.isReady_iff.mpr ⟨e, hp⟩

theorem Serving.active (h : s.Serving) : ∃ text, s.transcript.active? = some text := by
  obtain ⟨i, text, -, ht⟩ := h.coherent.open_active h.isReady
  exact ⟨text, ht⟩

theorem Serving.after (h : s.Serving) (x : Event) : (s.after x).Serving := by
  have hphase : (s.after x).adapter.phase = s.adapter.phase :=
    (h.coherent.takes_after h.isReady x).phase
  refine ⟨h.coherent.after x, ?_⟩
  rw [hphase]
  exact h.engine

theorem Serving.revised (h : s.Serving) (hs : Revised s s') : s'.Serving := by
  refine ⟨h.coherent.revised hs, ?_⟩
  rw [hs.adapter]
  exact h.engine

/-- The engine's own faults end in the record of the submission. -/
theorem Serving.submit_ok (h : s.Serving) : ∃ r s', s.submit = (.ok r, s') ∧ s'.Serving := by
  have hserving : s.submit.2.Serving := h.after .submit
  obtain ⟨e, hp, ho⟩ := h.engine
  obtain ⟨i, text, hi, ht⟩ := h.coherent.open_active h.isReady
  cases hx : (e.submit s.adapter.calls text).escaping with
  | none =>
    have hs := submit_returned hp ht hi hx
    rw [hs] at hserving
    exact ⟨_, _, hs, hserving⟩
  | some f =>
    have hf : f.isOrdinary = true := Reaction.escaping_isOrdinary (ho s.adapter.calls text) hx
    have hs := submit_failed hp ht hi hx hf
    rw [hs] at hserving
    exact ⟨_, _, hs, hserving⟩

theorem Serving.submitText_ok (h : s.Serving) (text : String) :
    ∃ r s', s.submitText text = (.ok r, s') ∧ s'.Serving := by
  obtain ⟨old, ht⟩ := h.active
  obtain ⟨hedit, -⟩ := edit_active? ht text
  have hedited : (s.edit text).2.Serving := h.revised (s.edit_revised text)
  rw [submitText, hedit]
  exact hedited.submit_ok

/-- An edit or a submission that the editor asks for is made. -/
theorem Serving.settle_ok (h : s.Serving) {effect : Effect}
    (heff : s.editor.Effective effect) :
    ∃ s', s.settle (.ok effect) = (.ok (), s') ∧ s'.Serving := by
  cases effect with
  | edited editor => exact ⟨_, rfl, h.revised (.ofEditor heff)⟩
  | submit =>
    obtain ⟨r, s', hs, hserving⟩ := h.submit_ok
    exact ⟨s', by rw [settle, hs], hserving⟩

theorem Serving.act_ok (h : s.Serving) (a : Action) :
    ∃ s', s.act a = (.ok (), s') ∧ s'.Serving := by
  obtain ⟨text, ht⟩ := h.active
  obtain ⟨effect, he⟩ := Editor.act_ok ht a
  rw [act, he]
  exact h.settle_ok (Editor.act_effective he)

theorem Serving.press_ok (h : s.Serving) {label : String}
    (hk : Keyboard.hasKey label = true) : ∃ s', s.press label = (.ok (), s') ∧ s'.Serving := by
  obtain ⟨text, ht⟩ := h.active
  obtain ⟨effect, he⟩ := Editor.press_ok ht hk
  rw [press, he]
  exact h.settle_ok (Editor.press_effective he)

/-- A start that has succeeded leaves the session serving, if the engine is never interrupted. -/
theorem bootstrap_serving {source : EngineSource}
    (ho : ∀ e, source.start.outcome = .ok e → e.Ordinary)
    (h : (ofSource source).bootstrap = (.ok true, s)) : s.Serving := by
  have hcoherent : (ofSource source).bootstrap.2.Coherent := (ofSource_coherent source).bootstrap
  rw [h] at hcoherent
  refine ⟨hcoherent, ?_⟩
  have hanswer : ((ofSource source).adapter.start (ofSource source).transcript).1 = .ok true :=
    congrArg Prod.fst h
  have hphase : ((ofSource source).adapter.start (ofSource source).transcript).2.1.phase =
      s.adapter.phase := congrArg (fun x => x.2.adapter.phase) h
  rcases (ofSource source).adapter.start_cases (ofSource source).transcript with
    ⟨e, hok, he⟩ | ⟨f, -, -, he⟩ | ⟨f, -, -, he⟩
  · rw [he] at hphase
    exact ⟨e, hphase.symm, ho e hok⟩
  · rw [he] at hanswer
    cases hanswer
  · rw [he] at hanswer
    cases hanswer

end Session

end DeskCalc
