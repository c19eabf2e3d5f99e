import DeskCalc.Proofs.Adapter

namespace DeskCalc

/-- An adapter and the cells of the submission under way, if there is one. -/
structure Buffered where
  adapter : Adapter
  buffer : Option (List Cell)

namespace Buffered

def closed (a : Adapter) : Buffered := ⟨a, none⟩

/-- The callback given to the engine. -/
def receive (b : Buffered) (t : Transcript) (r : Report) :
    Except Fault Unit × Buffered × Transcript :=
  match b.buffer, r.cell with
  | _, .error e => (.error e.fault, b, t)
  | some cells, .ok c => (.ok (), { b with buffer := some (cells ++ [c]) }, t)
  | none, .ok _ =>
    let (answer, a, t) := b.adapter.deliver t r
    (answer, { b with adapter := a }, t)

/-- A call of the engine: its reports, up to the first that is refused, and its end. -/
def play (b : Buffered) (t : Transcript) (fault : Option Fault) :
    List Report → Option Fault × Buffered × Transcript
  | [] => (fault, b, t)
  | r :: rs =>
    match b.receive t r with
    | (.error f, b, t) => (some f, b, t)
    | (.ok (), b, t) => b.play t fault rs

/-- Hands a text to the engine with the buffer open, and closes it however the call ends. -/
def submit (b : Buffered) (t : Transcript) (text : String) :
    Except Fault (List Cell) × Buffered × Transcript :=
  match b.adapter.phase with
  | .ready e =>
    let reaction := e.submit b.adapter.calls text
    let (fault, b, t) := { b with buffer := some [] }.play t reaction.fault reaction.reports
    let events := b.buffer.getD []
    let a := b.adapter.asked text
    match fault with
    | none => (.ok (a.pending ++ events), closed a.released, t)
    | some f =>
      (.error (if f.isOrdinary then ⟨.submission, some f.description⟩ else f), closed a, t)
  | _ => (.error (.precondition "Engine is not ready"), b, t)

/-- Through an open buffer reports reach neither the transcript nor what is held back. -/
theorem play_open (a : Adapter) (cells : List Cell) (t : Transcript) (fault : Option Fault)
    (rs : List Report) :
    play ⟨a, some cells⟩ t fault rs =
      ((Reaction.relayed rs fault).2, ⟨a, some (cells ++ (Reaction.relayed rs fault).1)⟩, t) := by
  induction rs generalizing cells with
  | nil => simp [play, Reaction.relayed]
  | cons r rs ih =>
    cases hr : r.cell with
    | error e => simp [play, receive, Reaction.relayed, hr]
    | ok c =>
      have hreceive : receive ⟨a, some cells⟩ t r = (.ok (), ⟨a, some (cells ++ [c])⟩, t) := by
        simp [receive, hr]
      rw [play, hreceive]
      simp [ih, Reaction.relayed, hr]

/-- Past a closed buffer, and before the engine is ready, reports go into the transcript at once. -/
theorem play_closed {a : Adapter} (ha : a.isReady = false) (t : Transcript)
    (fault : Option Fault) (rs : List Report) :
    (closed a).play t fault rs = ((Reaction.relayed rs fault).2, closed a,
      (Reaction.relayed rs fault).1.foldl Transcript.append t) := by
  induction rs generalizing t with
  | nil => rfl
  | cons r rs ih =>
    cases hr : r.cell with
    | error e => simp [play, receive, Reaction.relayed, hr]
    | ok c =>
      have hreceive : (closed a).receive t r = (.ok (), closed a, t.append c) := by
        simp [receive, closed, hr, Adapter.deliver, ha]
      rw [play, hreceive]
      simp [ih, Reaction.relayed, hr]

/-- Report by report or as a whole, a submission comes to the same, and its buffer is closed. -/
theorem submit_closed (a : Adapter) (t : Transcript) (text : String) :
    (closed a).submit t text = ((a.submit text).1, closed (a.submit text).2, t) := by
  cases hp : a.phase with
  | ready e =>
    have hplay := play_open a [] t (e.submit a.calls text).fault (e.submit a.calls text).reports
    have hfault : (Reaction.relayed (e.submit a.calls text).reports
        (e.submit a.calls text).fault).2 = (e.submit a.calls text).escaping :=
      (e.submit a.calls text).relay_fault
    simp only [submit, closed, hp, hplay, hfault]
    cases hx : (e.submit a.calls text).escaping with
    | none =>
      rw [Adapter.submit_returned hp hx, ← Reaction.relay_cells hx]
      rfl
    | some f => rw [Adapter.submit_raised hp hx]
  | idle | interrupted | failed => simp only [submit, closed, Adapter.submit, hp]

end Buffered

end DeskCalc
