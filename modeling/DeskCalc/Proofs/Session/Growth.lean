import DeskCalc.Proofs.Session.Outcome
import DeskCalc.Proofs.Transcript.Growth

namespace DeskCalc.Session

/-- Where the cells of a record are: behind the cell whose text was submitted. They end with an
input cell, which alone may have been edited. -/
structure Shows (t : Transcript) (r : Submission) : Prop where
  nonempty : 0 < r.cells.length
  submitted : t.cells[r.index]? = some (.input r.text)
  settled : ∀ k : Nat, k + 1 < r.cells.length → t.cells[r.index + 1 + k]? = r.cells[k]?
  last : ∃ text, t.cells[r.index + r.cells.length]? = some (.input text)

/-- The record that an event of a session brings about, if it submits and is not interrupted. -/
def recorded? (s : Session) : Event → Option Submission
  | .submit => s.submit.1.toOption
  | .submitText text => (s.submitText text).1.toOption
  | .press label =>
    if (Keyboard.find? label).any (·.stroke = .action .submit) then s.submit.1.toOption else none
  | .act name => if Action.ofName? name = some .submit then s.submit.1.toOption else none
  | _ => none

/-- A submission leaves the transcript alone, or it adds the cells of a record to it. -/
theorem submit_cases (s : Session) :
    ((∃ f, s.submit.1 = .error f) ∧ s.submit.2.transcript = s.transcript) ∨
    ∃ (r : Submission) (cs : List Cell) (text : String), s.submit.1 = .ok r ∧
      s.transcript.active? = some r.text ∧ s.transcript.activeIndex = some r.index ∧
      r.cells = cs ++ [.input text] ∧ s.submit.2.transcript = s.transcript.extend r.cells := by
  unfold submit
  cases ha : s.transcript.active? with
  | none => exact .inl ⟨⟨_, rfl⟩, rfl⟩
  | some text =>
    cases hi : s.transcript.activeIndex with
    | none => exact .inl ⟨⟨_, rfl⟩, rfl⟩
    | some i =>
      dsimp only
      cases hx : ({ s with last := some (Submission.started text i) } : Session).ask text with
      | mk answer s' =>
        have ht : s'.transcript = s.transcript := by
          simp only [ask, Prod.mk.injEq] at hx
          rw [← hx.2]
          rfl
        cases answer with
        | ok produced =>
          refine .inr ⟨(Submission.started text i).succeed produced, produced, "", rfl, rfl, rfl,
            rfl, ?_⟩
          dsimp only
          rw [← ht]
          rfl
        | error f =>
          dsimp only
          split
          · refine .inr ⟨(Submission.started text i).fail (f.message.getD ""),
              [.error (f.message.getD "")], text, rfl, rfl, rfl, rfl, ?_⟩
            rw [← ht]
            rfl
          · exact .inl ⟨⟨f, rfl⟩, ht⟩

theorem grows_submit (s : Session) : s.transcript.Grows s.submit.2.transcript := by
  rcases s.submit_cases with ⟨-, ht⟩ | ⟨r, -, -, -, -, -, -, ht⟩
  · rw [ht]
    exact .refl _
  · rw [ht]
    exact Transcript.grows_extend _ _

/-- A revision changes the active cell alone, and leaves it an input cell. -/
theorem Revised.grows {s s' : Session} (h : Revised s s') :
    s.transcript.Grows s'.transcript := by
  rcases h.transcript with he | ⟨text, hu⟩
  · rw [he]
    exact .refl _
  · exact Transcript.grows_update? hu

theorem grows_bootstrap (s : Session) : s.transcript.Grows s.bootstrap.2.transcript := by
  by_cases hp : s.adapter.phase = .idle
  · have hg := Transcript.grows_foldl_append s.transcript s.adapter.source.start.cells
    rw [bootstrap_first hp]
    rcases s.adapter.start_cases s.transcript with ⟨e, -, he⟩ | ⟨f, -, -, he⟩ | ⟨f, -, -, he⟩
    · rw [he]
      exact hg.trans (Transcript.grows_append _ _)
    · rw [he]
      exact hg.trans (Transcript.grows_append _ _)
    · rw [he]
      exact hg
  · rw [bootstrap_again hp]
    exact .refl _

theorem grows_deliver (s : Session) (r : Report) :
    s.transcript.Grows (s.deliver r).2.transcript := by
  cases hc : r.cell? with
  | none =>
    rw [deliver_refused hc]
    exact .refl _
  | some c =>
    cases hr : s.adapter.isReady with
    | false =>
      rw [deliver_early hr hc]
      exact Transcript.grows_append _ _
    | true =>
      rw [deliver_late hr hc]
      exact .refl _

theorem Coherent.grows_after {s : Session} (h : s.Coherent) (x : Event) :
    s.transcript.Grows (s.after x).transcript := by
  rcases after_cases h.activeIndex_none x with
    rfl | ⟨r, rfl⟩ | ⟨-, -, hs⟩ | ⟨s', text, -, hs, -, he⟩
  · exact s.grows_bootstrap
  · exact s.grows_deliver r
  · exact hs.grows
  · rw [he]
    exact hs.grows.trans s'.grows_submit

theorem Coherent.grows_run {s : Session} (h : s.Coherent) (events : List Event) :
    s.transcript.Grows (s.run events).transcript := by
  induction events generalizing s with
  | nil => exact .refl _
  | cons x events ih => exact (h.grows_after x).trans (ih (h.after x))

theorem Coherent.active_input {s : Session} (h : s.Coherent) {i : Nat}
    (hi : s.transcript.activeIndex = some i) :
    ∃ text, s.transcript.cells[i]? = some (.input text) := by
  cases ha : s.transcript.active? with
  | none =>
    rw [h.activeIndex_none ha] at hi
    cases hi
  | some text =>
    obtain ⟨j, hj, hc⟩ := Transcript.active?_eq_some_iff.mp ha
    obtain rfl : i = j := Option.some.inj (hi.symm.trans hj)
    exact ⟨text, hc⟩

theorem Coherent.length_active {s : Session} (h : s.Coherent) {i : Nat}
    (hi : s.transcript.activeIndex = some i) : s.transcript.cells.length = i + 1 := by
  cases hr : s.adapter.isReady with
  | false =>
    rw [(h.unready hr).inactive] at hi
    cases hi
  | true =>
    obtain ⟨_, ho⟩ := h.ready hr
    have hlast := Option.some.inj (ho.active.symm.trans hi)
    have hpos := ho.nonempty
    omega

theorem submit_ok {s : Session} {r : Submission} (h : s.submit.1.toOption = some r) :
    s.submit.1 = .ok r := by
  cases ha : s.submit.1 with
  | error f =>
    rw [ha] at h
    cases h
  | ok r' =>
    rw [ha] at h
    rw [Option.some.inj h]

theorem settle_recorded {s : Session} {effect : Except EditError Effect} {asked : Prop}
    [Decidable asked] {r : Submission}
    (hk : effect = .ok .submit ↔ asked ∧ s.transcript.active?.isSome = true)
    (h : (if asked then s.submit.1.toOption else none) = some r) :
    s.submit.1 = .ok r ∧ (s.settle effect).2 = s.submit.2 := by
  split at h
  · rename_i hasked
    have hr := submit_ok h
    refine ⟨hr, ?_⟩
    -- With a record there has been an active cell, so the effect is a submission.
    rcases s.submit_cases with ⟨⟨f, hf⟩, -⟩ | ⟨r', -, -, -, ht, -⟩
    · rw [hf] at hr
      cases hr
    · rw [hk.mpr ⟨hasked, by rw [ht]; rfl⟩, settle_submit]
  · cases h

/-- A record comes of the submission of a text that has been edited at most. -/
theorem recorded?_submit {s : Session} {x : Event} {r : Submission}
    (h : s.recorded? x = some r) :
    ∃ s', Revised s s' ∧ s'.submit.1 = .ok r ∧ s.after x = s'.submit.2 := by
  cases x with
  | submit => exact ⟨s, .refl s, submit_ok h, rfl⟩
  | submitText text =>
    have hs := s.edit_revised text
    cases he : s.edit text with
    | mk answer s' =>
      rw [he] at hs
      cases answer with
      | error f =>
        rw [recorded?, submitText, he] at h
        cases h
      | ok _ =>
        rw [recorded?, submitText, he] at h
        refine ⟨s', hs, submit_ok h, ?_⟩
        rw [after, submitText, he]
  | press label =>
    obtain ⟨hr, hs⟩ := settle_recorded Editor.press_eq_submit_iff h
    exact ⟨s, .refl s, hr, hs⟩
  | act name =>
    obtain ⟨hr, hs⟩ := settle_recorded Editor.actNamed_eq_submit_iff h
    exact ⟨s, .refl s, hr, hs⟩
  | _ => cases h

/-- A record is true of the transcript when it is made. Its last cell is active then, and unedited.
-/
theorem Coherent.shows_after {s : Session} (h : s.Coherent) {x : Event} {r : Submission}
    (hr : s.recorded? x = some r) :
    Shows (s.after x).transcript r ∧
      (s.after x).transcript.activeIndex = some (r.index + r.cells.length) ∧
      ∀ k : Nat, (s.after x).transcript.cells[r.index + 1 + k]? = r.cells[k]? := by
  obtain ⟨s', hs, hok, he⟩ := recorded?_submit hr
  rcases s'.submit_cases with ⟨⟨f, hf⟩, -⟩ | ⟨r', cs, text, hr', ht, hi, hc, hx⟩
  · rw [hf] at hok
    cases hok
  · obtain rfl : r' = r := Except.ok.inj (hr'.symm.trans hok)
    obtain ⟨i, hi', hcell⟩ := Transcript.active?_eq_some_iff.mp ht
    obtain rfl : r'.index = i := Option.some.inj (hi.symm.trans hi')
    have hlen : s'.transcript.cells.length = r'.index + 1 := (h.revised hs).length_active hi
    have hcells : (s.after x).transcript.cells = s'.transcript.cells ++ r'.cells := by
      rw [he, hx, Transcript.extend_cells]
    have hcount : r'.cells.length = cs.length + 1 := by simp [hc]
    have hopen : (s.after x).transcript.Open text := by
      rw [he, hx, hc]
      exact Transcript.extend_open _ cs text
    have hadded (k : Nat) :
        (s.after x).transcript.cells[r'.index + 1 + k]? = r'.cells[k]? := by
      rw [hcells, List.getElem?_append_right (by omega)]
      congr 1
      omega
    refine ⟨⟨by omega, ?_, fun k _ => hadded k, text, ?_⟩, ?_, hadded⟩
    · rw [hcells, List.getElem?_append_left (by omega), hcell]
    · have hk : r'.index + r'.cells.length = r'.index + 1 + cs.length := by omega
      rw [hk, hadded, hc]
      simp
    · rw [hopen.active, hcells, List.length_append, hlen]
      congr 1
      omega

/-- A record stays true of a transcript that grows, for its last cell is the only one that was
active. -/
theorem Shows.grows {t u : Transcript} {r : Submission} (h : Shows t r)
    (ha : t.activeIndex = some (r.index + r.cells.length)) (hg : t.Grows u) : Shows u r := by
  obtain ⟨text, hlast⟩ := h.last
  have hlen : r.index + r.cells.length < t.cells.length := (List.getElem?_eq_some_iff.mp hlast).1
  have settle {i : Nat} (hi : i < r.index + r.cells.length) : u.cells[i]? = t.cells[i]? := by
    refine hg.kept i (by omega) ?_
    rw [ha]
    intro he
    have := Option.some.inj he
    omega
  have hpos := h.nonempty
  refine ⟨hpos, ?_, ?_, hg.input _ text hlast⟩
  · rw [settle (by omega), h.submitted]
  · intro k hk
    rw [settle (by omega), h.settled k hk]

/-- From any moment of a session to any later one, the transcript keeps all cells but the active
one, which stays an input cell in its place. What was submitted and what came of it stand where the
record says, and stay there, except that the last cell of the record may be edited later. -/
theorem transcript_append_only (source : EngineSource) (earlier later : List Event) :
    let s := (ofSource source).run earlier
    let t := s.transcript
    let u := (s.run later).transcript
    t.cells.length ≤ u.cells.length ∧
    (∀ i : Nat, i < t.cells.length → t.activeIndex ≠ some i → u.cells[i]? = t.cells[i]?) ∧
    (∀ i : Nat, t.activeIndex = some i → ∃ old new, t.cells[i]? = some (.input old) ∧
      u.cells[i]? = some (.input new)) ∧
    ∀ (x : Event) (r : Submission), s.recorded? x = some r →
      (∀ k : Nat, (s.after x).transcript.cells[r.index + 1 + k]? = r.cells[k]?) ∧
      Shows ((s.after x).run later).transcript r := by
  intro s t u
  have h : s.Coherent := (ofSource_coherent source).run earlier
  have hg : t.Grows u := h.grows_run later
  refine ⟨hg.length, hg.kept, ?_, ?_⟩
  · intro i hi
    obtain ⟨old, hold⟩ := h.active_input hi
    obtain ⟨new, hnew⟩ := hg.input i old hold
    exact ⟨old, new, hold, hnew⟩
  · intro x r hr
    obtain ⟨hs, ha, hadded⟩ := h.shows_after hr
    exact ⟨hadded, hs.grows ha ((h.after x).grows_run later)⟩

/-- The record of a failure, after the text offered again has been edited and submitted. -/
theorem echo_transcript_append_only :
    let s := (ofSource (.given echo)).run [.bootstrap, .edit "fail"]
    let r : Submission := ⟨"fail", 0, .failed "failed", [.error "failed", .input "fail"]⟩
    s.recorded? .submit = some r ∧
      Shows ((s.after .submit).run [.edit "a", .submit, .submitText "b"]).transcript r := by
  intro s r
  have hr : s.recorded? .submit = some r := by decide
  exact ⟨hr, ((transcript_append_only (.given echo) _ _).2.2.2 _ _ hr).2⟩

end DeskCalc.Session
