import DeskCalc.Proofs.Session.History

namespace DeskCalc

theorem Fault.Kind.name_ne_empty (k : Fault.Kind) : k.name ≠ "" := by
  cases k with
  | other name named => exact named
  | _ => decide

/-- There is always something to read about a fault. -/
theorem Fault.description_ne_empty (f : Fault) : f.description ≠ "" := by
  unfold description
  split
  · exact f.kind.name_ne_empty
  · assumption

/-- A record that is closed has no error exactly if it succeeded. -/
theorem Submission.error?_eq_none_iff {r : Submission} (h : r.status ≠ .submitting) :
    r.error? = none ↔ r.isSuccess = true := by
  cases hs : r.status with
  | submitting => exact absurd hs h
  | succeeded | failed => simp [error?, isSuccess, hs]

namespace Session

/-- A record that has ended adds its cells, the last of which becomes the active one. -/
theorem conclude_transcript (s : Session) {r : Submission} {cs : List Cell} {text : String}
    (h : r.cells = cs ++ [.input text]) :
    (s.conclude r).2.transcript.cells = s.transcript.cells ++ r.cells ∧
      (s.conclude r).2.transcript.active? = some text := by
  have ht : (s.conclude r).2.transcript = s.transcript.extend r.cells := rfl
  refine ⟨?_, ?_⟩
  · rw [ht, Transcript.extend_cells]
  · rw [ht, h]
    exact (Transcript.extend_open s.transcript cs text).active?

/-- In a ready session the submission of the active text is recorded, unless it is interrupted, and
the transcript grows by the cells of the record. If the engine returns, they show what came late
since the last success and then what was reported now; if it does not, they show nothing of it. -/
theorem submit_recorded (source : EngineSource) (events : List Event) {e : Engine} {text : String}
    {i : Nat} (hp : ((ofSource source).run events).adapter.phase = .ready e)
    (ht : ((ofSource source).run events).transcript.active? = some text)
    (hi : ((ofSource source).run events).transcript.activeIndex = some i)
    (ho : ∀ f, (e.submit ((ofSource source).run events).adapter.calls text).escaping = some f →
      f.isOrdinary = true) :
    let s := (ofSource source).run events
    let reaction := e.submit s.adapter.calls text
    ∃ (r : Submission) (s' : Session), s.submit = (.ok r, s') ∧
      s'.transcript.cells = s.transcript.cells ++ r.cells ∧
      r.text = text ∧ r.index = i ∧ (r.error? = none ↔ r.isSuccess = true) ∧
      match reaction.escaping with
      | none => r.isSuccess = true ∧
          r.cells = unread ((ofSource source).history events) ++ reaction.cells ++ [.input ""] ∧
          s'.transcript.active? = some ""
      | some f => r.isSuccess = false ∧ r.error? = some f.description ∧ f.description ≠ "" ∧
          r.cells = [.error f.description, .input text] ∧
          s'.transcript.active? = some text := by
  intro s reaction
  cases hx : reaction.escaping with
  | none =>
    let r := (Submission.started text i).succeed (s.adapter.pending ++ reaction.cells)
    have hc : r.cells = unread ((ofSource source).history events) ++ reaction.cells ++
        [.input ""] := by
      rw [← pending_eq_unread]
      rfl
    have he : r.error? = none ↔ r.isSuccess = true :=
      Submission.error?_eq_none_iff (by simp [r, Submission.succeed])
    obtain ⟨hcells, hactive⟩ :=
      conclude_transcript { s with adapter := (s.adapter.asked text).released } hc
    exact ⟨r, _, submit_returned hp ht hi hx, hcells, rfl, rfl, he, rfl, hc, hactive⟩
  | some f =>
    let r := (Submission.started text i).fail f.description
    have hc : r.cells = [.error f.description] ++ [.input text] := rfl
    have he : r.error? = none ↔ r.isSuccess = true :=
      Submission.error?_eq_none_iff (by simp [r, Submission.fail])
    obtain ⟨hcells, hactive⟩ := conclude_transcript { s with adapter := s.adapter.asked text } hc
    exact ⟨r, _, submit_failed hp ht hi hx (ho f hx), hcells, rfl, rfl, he, rfl, rfl,
      f.description_ne_empty, hc, hactive⟩

/-- An engine that echoes what it is given, but fails at one text and is interrupted at another. -/
def echo : Engine where
  label := "echo"
  startFault := none
  register := .silent
  submit _ text := ⟨[⟨"message", .text text⟩],
    if text = "fail" then some ⟨.engine, some "failed"⟩
    else if text = "stop" then some ⟨.interrupt, none⟩ else none⟩

/-- What was held back through a failure comes before what is echoed. -/
theorem echo_submit_recorded :
    let s := (ofSource (.given echo)).run
      [.bootstrap, .report ⟨"message", .text "a"⟩, .submitText "fail", .edit "c"]
    s.transcript.active? = some "c" ∧ s.transcript.activeIndex = some 2 ∧
      ∃ (r : Submission) (s' : Session), s.submit = (.ok r, s') ∧
        s'.transcript.cells = s.transcript.cells ++ r.cells ∧
        r.cells = [.message "a", .message "c", .input ""] := by
  intro s
  have ha : s.transcript.active? = some "c" := by decide
  have hi : s.transcript.activeIndex = some 2 := by decide
  have hx : (echo.submit s.adapter.calls "c").escaping = none := by decide
  obtain ⟨r, s', hs, hcells, -, -, -, hr⟩ := submit_recorded (.given echo) _ rfl ha hi (by
    intro f hf
    rw [hx] at hf
    cases hf)
  rw [hx] at hr
  exact ⟨ha, hi, r, s', hs, hcells, hr.2.1⟩

end Session

end DeskCalc
