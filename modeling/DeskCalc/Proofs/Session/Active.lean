import DeskCalc.Proofs.Session.Step

namespace DeskCalc.Session

/-- The transcript is open while the session is ready, and closed as long as it is not; nothing is
held back then, and nothing but what the engine has reported at any time. -/
structure Coherent (s : Session) : Prop where
  ready : s.adapter.isReady = true → ∃ text, s.transcript.Open text
  unready : s.adapter.isReady = false → s.transcript.Closed
  empty : s.adapter.isReady = false → s.adapter.pending = []
  reported : ∀ c ∈ s.adapter.pending, c.isReport = true

theorem Coherent.ofOpen {s : Session} {text : String} (hr : s.adapter.isReady = true)
    (h : s.transcript.Open text) (hc : ∀ c ∈ s.adapter.pending, c.isReport = true) :
    s.Coherent := by
  constructor
  · intro _
    exact ⟨text, h⟩
  · intro hf
    cases hr.symm.trans hf
  · intro hf
    cases hr.symm.trans hf
  · exact hc

theorem Coherent.ofClosed {s : Session} (hr : s.adapter.isReady = false)
    (h : s.transcript.Closed) (he : s.adapter.pending = []) : s.Coherent := by
  constructor
  · intro ht
    cases hr.symm.trans ht
  · intro _
    exact h
  · intro _
    exact he
  · simp [he]

theorem ofSource_coherent (source : EngineSource) : (ofSource source).Coherent :=
  .ofClosed rfl Transcript.empty_closed rfl

theorem Coherent.activeIndex_none {s : Session} (h : s.Coherent)
    (ha : s.transcript.active? = none) : s.transcript.activeIndex = none := by
  cases hr : s.adapter.isReady with
  | false => exact (h.unready hr).inactive
  | true =>
    obtain ⟨text, ho⟩ := h.ready hr
    rw [ho.active?] at ha
    cases ha

/-- A revision writes into the active cell, which stays the last one. -/
theorem Coherent.revised {s s' : Session} (h : s.Coherent) (hs : Revised s s') :
    s'.Coherent := by
  constructor
  · intro hr
    obtain ⟨text, ho⟩ := h.ready (hs.adapter ▸ hr)
    rcases hs.transcript with he | ⟨new, hu⟩
    · exact ⟨text, he ▸ ho⟩
    · exact ⟨new, ho.update? hu⟩
  · intro hr
    have hc := h.unready (hs.adapter ▸ hr)
    rcases hs.transcript with he | ⟨new, hu⟩
    · exact he ▸ hc
    · obtain ⟨i, hi, -⟩ := Transcript.update?_eq_some_iff.mp hu
      rw [hc.inactive] at hi
      cases hi
  · intro hr
    rw [hs.adapter] at hr ⊢
    exact h.empty hr
  · rw [hs.adapter]
    exact h.reported

theorem Coherent.bootstrap {s : Session} (h : s.Coherent) : s.bootstrap.2.Coherent := by
  by_cases hp : s.adapter.phase = .idle
  · have hr : s.adapter.isReady = false := by simp [Adapter.isReady, hp]
    have hc : (s.adapter.source.start.cells.foldl Transcript.append s.transcript).Closed :=
      (h.unready hr).foldl_append fun c hc =>
        Cell.isInput_of_isReport (s.adapter.source.start_isReport c hc)
    rw [bootstrap_first hp]
    rcases s.adapter.start_cases s.transcript with ⟨e, -, he⟩ | ⟨f, -, -, he⟩ | ⟨f, -, -, he⟩
    · rw [he]
      exact .ofOpen rfl (Transcript.append_open _ "") h.reported
    · have hd : (Cell.error f.description).isInput = false := rfl
      rw [he]
      exact .ofClosed rfl (hc.append hd) (h.empty hr)
    · rw [he]
      exact .ofClosed rfl hc (h.empty hr)
  · rw [bootstrap_again hp]
    exact h

/-- A report before the session is ready is shown at once, and one after that is held back. -/
theorem Coherent.deliver {s : Session} (h : s.Coherent) (r : Report) :
    (s.deliver r).2.Coherent := by
  cases hc : r.cell? with
  | none =>
    rw [deliver_refused hc]
    exact h
  | some c =>
    have hrep : c.isReport = true := Report.cell_isReport (Report.cell?_eq_some_iff.mp hc)
    cases hr : s.adapter.isReady with
    | false =>
      rw [deliver_early hr hc]
      exact .ofClosed hr ((h.unready hr).append (Cell.isInput_of_isReport hrep)) (h.empty hr)
    | true =>
      obtain ⟨text, ho⟩ := h.ready hr
      rw [deliver_late hr hc]
      refine .ofOpen hr ho fun d hd => ?_
      rcases List.mem_append.mp hd with hd | hd
      · exact h.reported d hd
      · rw [List.mem_singleton.mp hd, hrep]

/-- However a submission ends, it leaves an active cell at the end. -/
theorem Coherent.submit {s : Session} (h : s.Coherent) : s.submit.2.Coherent := by
  cases hr : s.adapter.isReady with
  | false =>
    rw [submit_inactive (h.unready hr).active?]
    exact h
  | true =>
    obtain ⟨e, hp⟩ := Adapter.isReady_iff.mp hr
    obtain ⟨text, ho⟩ := h.ready hr
    cases hx : (e.submit s.adapter.calls text).escaping with
    | none =>
      rw [submit_returned hp ho.active? ho.active hx]
      -- What was held back has been shown.
      have he : ∀ c ∈ (s.adapter.asked text).released.pending, c.isReport = true := by
        simp [Adapter.released]
      exact .ofOpen hr (Transcript.extend_open _ _ "") he
    | some f =>
      cases hf : f.isOrdinary with
      | true =>
        rw [submit_failed hp ho.active? ho.active hx hf]
        exact .ofOpen hr (Transcript.extend_open _ [.error f.description] text) h.reported
      | false =>
        rw [submit_interrupted hp ho.active? ho.active hx hf]
        exact .ofOpen hr ho h.reported

theorem Coherent.after {s : Session} (h : s.Coherent) (x : Event) : (s.after x).Coherent := by
  rcases after_cases h.activeIndex_none x with
    rfl | ⟨r, rfl⟩ | ⟨-, -, hs⟩ | ⟨s', text, -, hs, -, he⟩
  · exact h.bootstrap
  · exact h.deliver r
  · exact h.revised hs
  · rw [he]
    exact (h.revised hs).submit

theorem Coherent.run {s : Session} (h : s.Coherent) (events : List Event) :
    (s.run events).Coherent := by
  induction events generalizing s with
  | nil => exact h
  | cons x events ih => exact ih (h.after x)

/-- After every run of a new session there is an active cell exactly if the session is ready. It is
the last cell then, and otherwise no cell at all is an input cell. -/
theorem active_iff_ready (source : EngineSource) (events : List Event) :
    let s := (ofSource source).run events
    (if s.adapter.isReady then
      s.transcript.cells ≠ [] ∧ ∃ text, s.transcript.cells.getLast? = some (.input text) ∧
        s.transcript.activeIndex = some (s.transcript.cells.length - 1) ∧
        s.transcript.active? = some text
    else (∀ c ∈ s.transcript.cells, c.isInput = false) ∧ s.transcript.activeIndex = none) ∧
    s.transcript.active?.isSome = s.adapter.isReady := by
  intro s
  have h : s.Coherent := (ofSource_coherent source).run events
  cases hr : s.adapter.isReady with
  | false =>
    have hc := h.unready hr
    rw [if_neg (by decide), hc.active?]
    exact ⟨⟨hc.noInput, hc.inactive⟩, rfl⟩
  | true =>
    obtain ⟨text, ho⟩ := h.ready hr
    rw [if_pos rfl, ho.active?]
    exact ⟨⟨List.length_pos_iff.mp ho.nonempty, text, ho.last, ho.active, rfl⟩, rfl⟩

end DeskCalc.Session
