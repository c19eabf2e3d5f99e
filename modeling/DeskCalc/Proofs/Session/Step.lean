import DeskCalc.Proofs.Session.Run

namespace DeskCalc.Session

variable {s : Session} {e : Engine} {text : String} {i : Nat} {f : Fault} {r : Report} {c : Cell}

theorem bootstrap_session (s : Session) :
    s.bootstrap.2 = { s with adapter := (s.adapter.bootstrap s.transcript).2.1 }.withTranscript
      (s.adapter.bootstrap s.transcript).2.2 :=
  rfl

/-- The engine is started once; every later start finds it done. -/
theorem bootstrap_again (hp : s.adapter.phase ≠ .idle) : s.bootstrap.2 = s := by
  rw [bootstrap_session, Adapter.bootstrap_again hp]
  rfl

theorem bootstrap_first (hp : s.adapter.phase = .idle) :
    s.bootstrap.2 = { s with adapter := (s.adapter.start s.transcript).2.1 }.withTranscript
      (s.adapter.start s.transcript).2.2 := by
  rw [bootstrap_session, Adapter.bootstrap_idle hp]

theorem deliver_session (s : Session) (r : Report) :
    (s.deliver r).2 = { s with adapter := (s.adapter.deliver s.transcript r).2.1 }.withTranscript
      (s.adapter.deliver s.transcript r).2.2 :=
  rfl

theorem deliver_refused (hc : r.cell? = none) : (s.deliver r).2 = s := by
  rw [deliver_session, Adapter.deliver_refused hc]
  rfl

theorem deliver_early (hr : s.adapter.isReady = false) (hc : r.cell? = some c) :
    (s.deliver r).2 = s.withTranscript (s.transcript.append c) := by
  rw [deliver_session, Adapter.deliver_early hr hc]

theorem deliver_late (hr : s.adapter.isReady = true) (hc : r.cell? = some c) :
    (s.deliver r).2 =
      { s with adapter := { s.adapter with pending := s.adapter.pending ++ [c] } } := by
  rw [deliver_session, Adapter.deliver_late hr hc]
  rfl

/-- The engine returns: what was held back and what it has reported is shown. -/
theorem submit_returned (hp : s.adapter.phase = .ready e)
    (ht : s.transcript.active? = some text) (hi : s.transcript.activeIndex = some i)
    (hr : (e.submit s.adapter.calls text).escaping = none) :
    s.submit = conclude { s with adapter := (s.adapter.asked text).released }
      ((Submission.started text i).succeed
        (s.adapter.pending ++ (e.submit s.adapter.calls text).cells)) := by
  have ha := Adapter.submit_returned hp hr
  simp only [submit, ht, hi, ask, ha]
  rfl

/-- The engine fails: the fault is described, and the text offered again. -/
theorem submit_failed (hp : s.adapter.phase = .ready e)
    (ht : s.transcript.active? = some text) (hi : s.transcript.activeIndex = some i)
    (hr : (e.submit s.adapter.calls text).escaping = some f) (hf : f.isOrdinary = true) :
    s.submit = conclude { s with adapter := s.adapter.asked text }
      ((Submission.started text i).fail f.description) := by
  have ha := Adapter.submit_raised hp hr
  simp only [submit, ht, hi, ask, ha, hf]
  rfl

/-- The engine is interrupted: the call has been made, and the record stays open. -/
theorem submit_interrupted (hp : s.adapter.phase = .ready e)
    (ht : s.transcript.active? = some text) (hi : s.transcript.activeIndex = some i)
    (hr : (e.submit s.adapter.calls text).escaping = some f) (hf : f.isOrdinary = false) :
    s.submit = (.error f,
      { s with adapter := s.adapter.asked text, last := some (.started text i) }) := by
  have ha := Adapter.submit_raised hp hr
  have hk : f.kind ≠ .submission := by
    intro hk
    simp [Fault.isOrdinary, hk] at hf
  simp only [submit, ht, hi, ask, ha, hf]
  simp [hk]

end DeskCalc.Session
