import DeskCalc.Proofs.Engine.Relay

namespace DeskCalc

namespace Adapter

theorem isReady_iff {a : Adapter} : a.isReady = true ↔ ∃ e, a.phase = .ready e := by
  cases h : a.phase with
  | ready e => simp [isReady, h]
  | idle | interrupted | failed => simp [isReady, h]

/-- The adapter after a text has been handed to the engine. -/
def asked (a : Adapter) (text : String) : Adapter := { a with calls := a.calls ++ [.submit text] }

def released (a : Adapter) : Adapter := { a with pending := [] }

/-- A submission that no fault escapes from hands back what was held back, and then its own
cells. -/
theorem submit_returned {a : Adapter} {e : Engine} {text : String} (hp : a.phase = .ready e)
    (hr : (e.submit a.calls text).escaping = none) :
    a.submit text =
      (.ok (a.pending ++ (e.submit a.calls text).cells), (a.asked text).released) := by
  have hf := (e.submit a.calls text).relay_fault.trans hr
  simp only [submit, hp]
  rw [hf, Reaction.relay_cells hr]
  simp only [asked, released, hp]

/-- A fault that escapes from a submission fails it, but an interrupt goes on as it is. Nothing that
was held back is released. -/
theorem submit_raised {a : Adapter} {e : Engine} {text : String} {f : Fault}
    (hp : a.phase = .ready e) (hr : (e.submit a.calls text).escaping = some f) :
    a.submit text = (.error (if f.isOrdinary then ⟨.submission, some f.description⟩ else f),
      a.asked text) := by
  have hf := (e.submit a.calls text).relay_fault.trans hr
  simp only [submit, hp]
  rw [hf]
  simp only [asked, hp]

/-- How a start can end: with an input cell in the transcript, with the description of a fault, or
with an interrupt and nothing more than what the engine has reported. -/
theorem start_cases (a : Adapter) (t : Transcript) :
    (∃ e, a.source.start.outcome = .ok e ∧ a.start t = (.ok true,
      { a with calls := a.calls ++ a.source.start.calls, phase := .ready e },
      (a.source.start.cells.foldl Transcript.append t).append (.input ""))) ∨
    (∃ f, a.source.start.outcome = .error f ∧ f.isOrdinary = true ∧ a.start t = (.ok false,
      { a with calls := a.calls ++ a.source.start.calls, phase := .failed },
      (a.source.start.cells.foldl Transcript.append t).append (.error f.description))) ∨
    ∃ f, a.source.start.outcome = .error f ∧ f.isOrdinary = false ∧ a.start t = (.error f,
      { a with calls := a.calls ++ a.source.start.calls, phase := .interrupted f },
      a.source.start.cells.foldl Transcript.append t) := by
  cases h : a.source.start.outcome with
  | ok e => exact .inl ⟨e, rfl, by simp [start, h]⟩
  | error f =>
    cases hf : f.isOrdinary with
    | true => exact .inr (.inl ⟨f, rfl, hf, by simp [start, h, hf]⟩)
    | false => exact .inr (.inr ⟨f, rfl, hf, by simp [start, h, hf]⟩)

theorem bootstrap_idle {a : Adapter} (h : a.phase = .idle) (t : Transcript) :
    a.bootstrap t = a.start t := by
  rw [bootstrap, h]

theorem bootstrap_again {a : Adapter} (h : a.phase ≠ .idle) (t : Transcript) :
    (a.bootstrap t).2 = (a, t) := by
  cases hp : a.phase with
  | idle => exact absurd hp h
  | interrupted | failed | ready => rw [bootstrap, hp]

theorem deliver_refused {a : Adapter} {r : Report} (h : r.cell? = none) (t : Transcript) :
    (a.deliver t r).2 = (a, t) := by
  obtain ⟨e, he⟩ := Report.cell?_eq_none_iff.mp h
  rw [deliver, he]

theorem deliver_early {a : Adapter} {r : Report} {c : Cell} (ha : a.isReady = false)
    (h : r.cell? = some c) (t : Transcript) : (a.deliver t r).2 = (a, t.append c) := by
  simp [deliver, Report.cell?_eq_some_iff.mp h, ha]

/-- What comes late is held back, and what comes before the engine is ready is shown at once. -/
theorem deliver_late {a : Adapter} {r : Report} {c : Cell} (ha : a.isReady = true)
    (h : r.cell? = some c) (t : Transcript) :
    (a.deliver t r).2 = ({ a with pending := a.pending ++ [c] }, t) := by
  simp [deliver, Report.cell?_eq_some_iff.mp h, ha]

end Adapter

end DeskCalc
