import DeskCalc.Proofs.Session.Growth

namespace DeskCalc

namespace Transcript

/-- The cell at the active index is an input cell. -/
def Pointed (t : Transcript) : Prop :=
  ∀ i, t.activeIndex = some i → ∃ text, t.cells[i]? = some (.input text)

theorem pointed_empty : empty.Pointed := by
  intro i hi
  cases hi

/-- However the cells have come about, the index is sought anew. -/
theorem pointed_refresh (t : Transcript) (cells : List Cell) : (t.refresh cells).Pointed := by
  intro i hi
  obtain ⟨rfl, text, hlast⟩ := lastInput_eq_some_iff.mp hi
  exact ⟨text, List.getLast?_eq_getElem?.symm.trans hlast⟩

theorem pointed_append (t : Transcript) (c : Cell) : (t.append c).Pointed := pointed_refresh t _

theorem Pointed.foldl_append {t : Transcript} (h : t.Pointed) (cs : List Cell) :
    (cs.foldl Transcript.append t).Pointed := by
  induction cs generalizing t with
  | nil => exact h
  | cons c cs ih => exact ih (pointed_append t c)

theorem Pointed.extend {t : Transcript} (h : t.Pointed) (batch : List Cell) :
    (t.extend batch).Pointed := by
  unfold Transcript.extend
  split
  · exact h
  · exact pointed_refresh t _

theorem Pointed.update? {t u : Transcript} {text : String} (h : t.Pointed)
    (hu : t.update? text = some u) : u.Pointed := by
  obtain ⟨a, ha, rfl⟩ := update?_eq_some_iff.mp hu
  intro i hi
  obtain ⟨old, hold⟩ := h i hi
  have hlt : i < t.cells.length := (List.getElem?_eq_some_iff.mp hold).1
  obtain rfl : a = i := Option.some.inj (ha.symm.trans hi)
  exact ⟨text, List.getElem?_set_self hlt⟩

theorem Pointed.activeIndex_none {t : Transcript} (h : t.Pointed) (ha : t.active? = none) :
    t.activeIndex = none := by
  cases hi : t.activeIndex with
  | none => rfl
  | some i =>
    obtain ⟨text, hc⟩ := h i hi
    rw [active?_eq_some_iff.mpr ⟨i, hi, hc⟩] at ha
    cases ha

end Transcript

namespace Session

/-- What can happen to a session whose transcript is open to others. -/
inductive Move
  | event (x : Event)
  | append (c : Cell)
  | extend (batch : List Cell)

def moved (s : Session) : Move → Session
  | .event x => s.after x
  | .append c => s.withTranscript (s.transcript.append c)
  | .extend batch => s.withTranscript (s.transcript.extend batch)

def follow (s : Session) (moves : List Move) : Session := moves.foldl moved s

/-- The fault that passes through a submission of a text, if one does: that of an engine which is
not ready, or an interrupt. -/
def passing? (s : Session) (text : String) : Option Fault :=
  match s.adapter.phase with
  | .ready e => (e.submit s.adapter.calls text).escaping.filter fun f => !f.isOrdinary
  | _ => some (.precondition "Engine is not ready")

/-- What passes through the submission that a move begins; nothing for a move that begins none. -/
def begun? (s : Session) : Move → Option (Option Fault)
  | .event x => (s.submitted? x).map s.passing?
  | _ => none

/-- What passes through the submissions of a run, in order. -/
def begun (s : Session) : List Move → List (Option Fault)
  | [] => []
  | m :: moves => (s.begun? m).toList ++ (s.moved m).begun moves

variable {s : Session} {e : Engine} {x : Event} {text : String} {i : Nat} {f : Fault}

theorem follow_snoc (s : Session) (moves : List Move) (m : Move) :
    s.follow (moves ++ [m]) = (s.follow moves).moved m := by
  simp [follow]

theorem begun_snoc (s : Session) (moves : List Move) (m : Move) :
    s.begun (moves ++ [m]) = s.begun moves ++ ((s.follow moves).begun? m).toList := by
  induction moves generalizing s with
  | nil => simp [begun, follow]
  | cons n moves ih =>
    rw [List.cons_append, begun, ih, begun, List.append_assoc]
    rfl

theorem passing?_revised {s' : Session} (h : Revised s s') (text : String) :
    s'.passing? text = s.passing? text := by
  rw [passing?, passing?, h.adapter]

theorem pointed_bootstrap (h : s.transcript.Pointed) : s.bootstrap.2.transcript.Pointed := by
  by_cases hp : s.adapter.phase = .idle
  · rw [bootstrap_first hp]
    rcases s.adapter.start_cases s.transcript with ⟨e, -, he⟩ | ⟨f, -, -, he⟩ | ⟨f, -, -, he⟩
    · rw [he]
      exact Transcript.pointed_append _ _
    · rw [he]
      exact Transcript.pointed_append _ _
    · rw [he]
      exact h.foldl_append _
  · rw [bootstrap_again hp]
    exact h

theorem pointed_deliver (h : s.transcript.Pointed) (r : Report) :
    (s.deliver r).2.transcript.Pointed := by
  cases hc : r.cell? with
  | none =>
    rw [deliver_refused hc]
    exact h
  | some c =>
    cases hr : s.adapter.isReady with
    | false =>
      rw [deliver_early hr hc]
      exact Transcript.pointed_append _ _
    | true =>
      rw [deliver_late hr hc]
      exact h

theorem pointed_submit (h : s.transcript.Pointed) : s.submit.2.transcript.Pointed := by
  rcases s.submit_cases with ⟨-, ht⟩ | ⟨r, -, -, -, -, -, -, ht⟩
  · rw [ht]
    exact h
  · rw [ht]
    exact h.extend _

theorem Revised.pointed {s' : Session} (hs : Revised s s') (h : s.transcript.Pointed) :
    s'.transcript.Pointed := by
  rcases hs.transcript with he | ⟨text, hu⟩
  · exact he ▸ h
  · exact h.update? hu

theorem pointed_after (h : s.transcript.Pointed) (x : Event) : (s.after x).transcript.Pointed := by
  rcases after_cases h.activeIndex_none x with
    rfl | ⟨r, rfl⟩ | ⟨-, -, hs⟩ | ⟨s', text, -, hs, -, he⟩
  · exact pointed_bootstrap h
  · exact pointed_deliver h r
  · exact hs.pointed h
  · rw [he]
    exact pointed_submit (hs.pointed h)

theorem pointed_moved (h : s.transcript.Pointed) (m : Move) :
    (s.moved m).transcript.Pointed := by
  cases m with
  | event x => exact pointed_after h x
  | append c => exact Transcript.pointed_append _ _
  | extend batch => exact h.extend batch

theorem pointed_follow (h : s.transcript.Pointed) (moves : List Move) :
    (s.follow moves).transcript.Pointed := by
  induction moves generalizing s with
  | nil => exact h
  | cons m moves ih => exact ih (pointed_moved h m)

/-- The record is made before the engine is found not to be ready, and stays open. -/
theorem submit_unready (hr : s.adapter.isReady = false) (ht : s.transcript.active? = some text)
    (hi : s.transcript.activeIndex = some i) :
    s.submit = (.error (.precondition "Engine is not ready"),
      { s with last := some (.started text i) }) := by
  have ha : s.adapter.submit text = (.error (.precondition "Engine is not ready"), s.adapter) := by
    cases hp : s.adapter.phase with
    | ready e => simp [Adapter.isReady, hp] at hr
    | idle | interrupted | failed => simp only [Adapter.submit, hp]
  simp only [submit, ht, hi, ask, ha]
  rfl

/-- A record is finished unless a fault passes through. -/
def Recorded (passing : Option Fault) (r : Submission) : Prop :=
  match passing with
  | none => r.status = .succeeded ∨ ∃ description, r.status = .failed description
  | some _ => r.status = .submitting

/-- The record of a submission is closed, unless a fault passes through. -/
theorem recorded_submit (ht : s.transcript.active? = some text) :
    ∃ r, s.submit.2.last = some r ∧ Recorded (s.passing? text) r := by
  obtain ⟨i, hi, -⟩ := Transcript.active?_eq_some_iff.mp ht
  cases hp : s.adapter.phase with
  | ready e =>
    simp only [passing?, hp]
    cases hx : (e.submit s.adapter.calls text).escaping with
    | none =>
      rw [submit_returned hp ht hi hx]
      exact ⟨_, rfl, .inl rfl⟩
    | some f =>
      cases hf : f.isOrdinary with
      | true =>
        rw [submit_failed hp ht hi hx hf, Option.filter_some, hf]
        exact ⟨_, rfl, .inr ⟨_, rfl⟩⟩
      | false =>
        rw [submit_interrupted hp ht hi hx hf, Option.filter_some, hf]
        exact ⟨_, rfl, rfl⟩
  | idle | interrupted | failed =>
    have hr : s.adapter.isReady = false := by simp [Adapter.isReady, hp]
    simp only [passing?, hp]
    rw [submit_unready hr ht hi]
    exact ⟨_, rfl, rfl⟩

theorem last_after (h : s.transcript.Pointed) (hx : s.submitted? x = none) :
    (s.after x).last = s.last := by
  rcases after_cases h.activeIndex_none x with
    rfl | ⟨r, rfl⟩ | ⟨-, -, hs⟩ | ⟨s', text, ht, -, -, -⟩
  · rfl
  · rfl
  · exact hs.last
  · rw [hx] at ht
    cases ht

/-- A move that begins a submission leaves its record as the latest, finished or not; any other one
leaves the latest record alone. -/
theorem last_moved (h : s.transcript.Pointed) (m : Move) :
    match s.begun? m with
    | none => (s.moved m).last = s.last
    | some passing => ∃ r, (s.moved m).last = some r ∧ Recorded passing r := by
  cases m with
  | append c => rfl
  | extend batch => rfl
  | event x =>
    cases hx : s.submitted? x with
    | none =>
      simp only [begun?, hx]
      exact last_after h hx
    | some text =>
      obtain ⟨hafter, ht⟩ := after_submitted hx
      obtain ⟨r, hr, hrec⟩ := recorded_submit ht
      rw [passing?_revised (s.prepared_revised x)] at hrec
      simp only [begun?, hx]
      exact ⟨r, by rw [moved, hafter, hr], hrec⟩

theorem isSubmitting_of_last {r : Submission} {passing : Option Fault} (hr : s.last = some r)
    (h : Recorded passing r) : s.isSubmitting = passing.isSome := by
  cases passing with
  | none =>
    rcases h with h | ⟨description, h⟩
    · simp [isSubmitting, hr, h]
    · simp [isSubmitting, hr, h]
  | some f =>
    have hs : r.status = .submitting := h
    simp [isSubmitting, hr, hs]

/-- Session calls alone make a submission of a ready session only, which nothing but an interrupt
passes through. -/
theorem Coherent.passing_interrupt (h : s.Coherent)
    (hx : s.begun? (.event x) = some (some f)) : f.isOrdinary = false := by
  obtain ⟨text, ht, hpass⟩ := Option.map_eq_some_iff.mp hx
  obtain ⟨-, ha⟩ := after_submitted ht
  have hrev := s.prepared_revised x
  cases hr : s.adapter.isReady with
  | false =>
    have hc := (h.revised hrev).unready (by rw [hrev.adapter, hr])
    rw [hc.active?] at ha
    cases ha
  | true =>
    obtain ⟨e, hp⟩ := Adapter.isReady_iff.mp hr
    simp only [passing?, hp] at hpass
    simpa using (Option.filter_eq_some_iff.mp hpass).2

/-- A submission is under way between the calls of a session exactly if a fault has passed through
the latest one that was begun. Every other submission leaves its record finished, and what begins
none leaves the latest record alone; as long as nobody else puts cells into the transcript, only an
interrupt passes through. -/
theorem submitting_iff_passed (source : EngineSource) (moves : List Move) :
    let s := (ofSource source).follow moves
    (s.isSubmitting = true ↔ ∃ f, ((ofSource source).begun moves).getLast? = some (some f)) ∧
    (∀ m, match s.begun? m with
      | none => (s.moved m).last = s.last
      | some passing => ∃ r, (s.moved m).last = some r ∧ Recorded passing r) ∧
    ∀ (events : List Event) (x : Event) (f : Fault),
      ((ofSource source).run events).begun? (.event x) = some (some f) →
        f.isOrdinary = false := by
  have hnew : (ofSource source).transcript.Pointed := Transcript.pointed_empty
  have hpointed (moves : List Move) : ((ofSource source).follow moves).transcript.Pointed :=
    pointed_follow hnew moves
  refine ⟨?_, last_moved (hpointed moves), ?_⟩
  · -- From the latest move back: it has begun a submission, or the record is the one before it.
    induction moves using List.reverseRecOn with
    | nil => simp [begun, follow, isSubmitting, ofSource]
    | append_singleton moves m ih =>
      have hm := last_moved (hpointed moves) m
      rw [follow_snoc, begun_snoc]
      cases hb : ((ofSource source).follow moves).begun? m with
      | none =>
        rw [hb] at hm
        rw [Option.toList_none, List.append_nil, ← ih, isSubmitting, hm, isSubmitting]
      | some passing =>
        rw [hb] at hm
        obtain ⟨r, hr, hrec⟩ := hm
        rw [isSubmitting_of_last hr hrec, Option.toList_some, List.getLast?_concat]
        simp [Option.isSome_iff_exists]
  · intro events x f hx
    exact ((ofSource_coherent source).run events).passing_interrupt hx

/-- The second submission is interrupted and stays under way; the first one has left a record that
is finished. -/
theorem echo_interrupt_submitting :
    (ofSource (.given echo)).begun
      [.event .bootstrap, .event (.submitText "a"), .event (.submitText "stop")] =
      [none, some ⟨.interrupt, none⟩] ∧
    ((ofSource (.given echo)).follow
      [.event .bootstrap, .event (.submitText "a"), .event (.submitText "stop")]).isSubmitting =
      true ∧
    (⟨.interrupt, none⟩ : Fault).isOrdinary = false := by
  have hbegun : (ofSource (.given echo)).begun
      [.event .bootstrap, .event (.submitText "a"), .event (.submitText "stop")] =
      [none, some ⟨.interrupt, none⟩] := by decide
  obtain ⟨hiff, -, hordinary⟩ := submitting_iff_passed (.given echo)
    [.event .bootstrap, .event (.submitText "a"), .event (.submitText "stop")]
  refine ⟨hbegun, hiff.mpr ⟨_, congrArg List.getLast? hbegun⟩, ?_⟩
  exact hordinary [.bootstrap, .submitText "a"] (.submitText "stop") _ (by decide)

/-- Two submissions that stay under way behind their calls: one that is interrupted, and one of an
input cell put into the transcript of a session that has not been started. -/
theorem passed_submissions_stay_submitting :
    ((ofSource (.given echo)).follow
      [.event .bootstrap, .event (.submitText "stop")]).isSubmitting = true ∧
    ((ofSource (.given echo)).follow
      [.append (.input "c"), .event .submit]).isSubmitting = true := by
  decide

end Session

end DeskCalc
