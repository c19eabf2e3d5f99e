import DeskCalc.Engine.Stack
import DeskCalc.Proofs.Session.Advance
import DeskCalc.Proofs.Session.Outcome
import DeskCalc.Proofs.Session.Staged
import DeskCalc.Proofs.Session.Submitting

namespace DeskCalc

namespace Session

variable {s : Session} {x : Event}

theorem Coherent.pointed (h : s.Coherent) : s.transcript.Pointed := by
  intro i hi
  cases hr : s.adapter.isReady with
  | false =>
    rw [(h.unready hr).inactive] at hi
    cases hi
  | true =>
    obtain ⟨j, text, -, ht⟩ := h.open_active hr
    obtain ⟨k, hk, hc⟩ := Transcript.active?_eq_some_iff.mp ht
    obtain rfl : k = i := Option.some.inj (hk.symm.trans hi)
    exact ⟨text, hc⟩

/-- A session that is not ready asks its engine for nothing, whatever happens but a start. -/
theorem Coherent.unready_after (h : s.Coherent) (hr : s.adapter.isReady = false)
    (hx : x ≠ .bootstrap) : (s.after x).adapter = s.adapter ∧ s.submitted? x = none := by
  rcases after_cases h.activeIndex_none x with
    rfl | ⟨r, rfl⟩ | ⟨-, hn, hs⟩ | ⟨s', text, -, hs, ha, -⟩
  · exact absurd rfl hx
  · refine ⟨?_, rfl⟩
    cases hc : r.cell? with
    | none => rw [Session.after, deliver_refused hc]
    | some c =>
      rw [Session.after, deliver_early hr hc]
      rfl
  · exact ⟨hs.adapter, hn⟩
  · have hclosed := (h.revised hs).unready (by rw [hs.adapter, hr])
    rw [hclosed.active?] at ha
    cases ha

/-- However a submission of a ready session ends, the engine has been asked for its text. -/
theorem calls_submit {e : Engine} {text : String} (hp : s.adapter.phase = .ready e)
    (ht : s.transcript.active? = some text) :
    s.submit.2.adapter.calls = s.adapter.calls ++ [.submit text] ∧
      ∃ r, s.submit.2.last = some r ∧ r.text = text := by
  obtain ⟨i, hi, -⟩ := Transcript.active?_eq_some_iff.mp ht
  cases hx : (e.submit s.adapter.calls text).escaping with
  | none =>
    rw [submit_returned hp ht hi hx]
    exact ⟨rfl, _, rfl, rfl⟩
  | some f =>
    cases hf : f.isOrdinary with
    | true =>
      rw [submit_failed hp ht hi hx hf]
      exact ⟨rfl, _, rfl, rfl⟩
    | false =>
      rw [submit_interrupted hp ht hi hx hf]
      exact ⟨rfl, _, rfl, rfl⟩

/-- A ready session asks its engine for what it submits, and for nothing else. -/
theorem Coherent.calls_after {e : Engine} (h : s.Coherent) (hp : s.adapter.phase = .ready e)
    (x : Event) :
    (s.after x).adapter.calls = s.adapter.calls ++ (s.submitted? x).toList.map .submit := by
  have hr : s.adapter.isReady = true := Adapter.isReady_iff.mpr ⟨e, hp⟩
  rcases after_cases h.activeIndex_none x with
    rfl | ⟨r, rfl⟩ | ⟨-, hn, hs⟩ | ⟨s', text, hsubmitted, hs, ha, he⟩
  · rw [Session.after, bootstrap_again (by simp [hp])]
    exact (List.append_nil _).symm
  · have hnone : s.submitted? (.report r) = none := rfl
    rw [Session.after, hnone, Option.toList_none, List.map_nil, List.append_nil]
    cases hc : r.cell? with
    | none => rw [deliver_refused hc]
    | some c => rw [deliver_late hr hc]
  · rw [hn, hs.adapter]
    exact (List.append_nil _).symm
  · have hp' : s'.adapter.phase = .ready e := by rw [hs.adapter, hp]
    rw [he, (calls_submit hp' ha).1, hsubmitted, hs.adapter]
    rfl

end Session

/-- The cell that ends a start. -/
def EngineSource.ending (s : EngineSource) : Cell :=
  match s.start.outcome with
  | .ok _ => .input ""
  | .error f => .error f.description

namespace Staged

variable {H : Type} {s : Staged H} {source : EngineSource} {init : Initialization H}
  {texts : List String} {requests : Nat}

/-- A start that is not over: the calls made so far, and no answer and no submission. -/
structure Early (a : Adapter) (answers : List (Except Fault Bool)) (source : EngineSource)
    (calls : List EngineCall) (texts : List String) : Prop where
  origin : a.source = source
  phase : a.phase = .idle
  calls : a.calls = calls
  unanswered : answers = []
  unsubmitted : texts = []

/-- A start that is over: its answer, which all were given, and the calls made in it and after. -/
structure Late (a : Adapter) (handle : Option H) (answers : List (Except Fault Bool))
    (source : EngineSource) (init : Initialization H) (answer : Except Fault Bool)
    (texts : List String) : Prop where
  outcome : answer = .ok source.start.outcome.isOk
  answered : ∀ b ∈ answers, b = answer
  calls : a.calls = source.start.calls ++ texts.map .submit
  ended : match source.start.outcome with
    | .ok e => a.phase = .ready e ∧ handle = some init.handle
    | .error _ => a.phase = .failed ∧ texts = []

def Stands (s : Staged H) (source : EngineSource) (init : Initialization H)
    (texts : List String) : Prop :=
  match s.stage with
  | .unasked => Early s.session.adapter s.answers source [] texts ∧ s.waiting = 0
  | .scheduled => Early s.session.adapter s.answers source [] texts
  | .initializing e => Early s.session.adapter s.answers source [.start] texts ∧ source.load = .ok e
  | .done answer => Late s.session.adapter s.handle s.answers source init answer texts

/-- What holds after every run from a source in which these texts have been submitted and so many
calls of `bootstrap` have been made. -/
structure Sound (s : Staged H) (source : EngineSource) (init : Initialization H)
    (texts : List String) (requests : Nat) : Prop where
  coherent : s.session.Coherent
  log : s.log = s.session.adapter.calls.map init.contact
  asked : s.answers.length + s.waiting = requests
  stands : s.Stands source init texts

theorem ofSource_sound (source : EngineSource) (init : Initialization H) :
    (ofSource source).Sound source init [] 0 :=
  ⟨Session.ofSource_coherent source, rfl, rfl, ⟨rfl, rfl, rfl, rfl, rfl⟩, rfl⟩

/-- A start that ends with its outcome stands as it should, and adds the cell that says so. -/
theorem finish_stands (ho : ∀ f, source.start.outcome = .error f → f.isOrdinary = true)
    (ha : s.answers = []) (hc : s.session.adapter.calls = source.start.calls) :
    (s.finish init source.start.outcome).Stands source init [] := by
  have hanswered (answer : Except Fault Bool) : ∀ a ∈ s.answers, a = answer := by simp [ha]
  have hcalls : s.session.adapter.calls = source.start.calls ++ ([] : List String).map .submit := by
    rw [hc, List.map_nil, List.append_nil]
  cases h : source.start.outcome with
  | ok e =>
    refine ⟨by rw [h]; rfl, hanswered _, hcalls, ?_⟩
    rw [h]
    exact ⟨rfl, rfl⟩
  | error f =>
    simp only [finish, ho f h, if_true]
    refine ⟨by rw [h]; rfl, hanswered _, hcalls, ?_⟩
    rw [h]
    exact ⟨rfl, rfl⟩

theorem finish_cells (ho : ∀ f, source.start.outcome = .error f → f.isOrdinary = true) :
    (s.finish init source.start.outcome).session.transcript.cells =
      s.session.transcript.cells ++ [source.ending] := by
  rw [EngineSource.ending]
  cases h : source.start.outcome with
  | ok e => rfl
  | error f =>
    simp only [finish, ho f h, if_true]
    rfl

/-- What a start leaves that has come to its end. -/
theorem concluded_sound (hc : s.session.Coherent)
    (he : s.session.adapter.phase = .idle) (hs : s.session.adapter.source = source)
    (ha : s.answers = []) (ho : ∀ f, source.start.outcome = .error f → f.isOrdinary = true) :
    (s.concluded init).Sound source init [] s.waiting ∧
      (s.concluded init).session.transcript.cells =
        s.session.transcript.cells ++ (source.start.cells ++ [source.ending]) := by
  have hcoherent : (s.concluded init).session.Coherent := by
    have hu : s.session.uncalled.Coherent := ⟨hc.ready, hc.unready, hc.empty, hc.reported⟩
    exact hu.bootstrap
  have hlog : (s.concluded init).log = (s.concluded init).session.adapter.calls.map init.contact :=
    rfl
  have hasked : (s.concluded init).answers.length + (s.concluded init).waiting = s.waiting := by
    have hnone : (s.concluded init).answers = [] := ha
    rw [hnone]
    exact Nat.zero_add _
  have hend : (s.heard init source.start).finish init source.start.outcome = s.concluded init := by
    rw [← hs]
    exact finish_heard he
  have hstands : (s.concluded init).Stands source init [] := by
    rw [← hend]
    exact finish_stands ho ha rfl
  refine ⟨⟨hcoherent, hlog, hasked, hstands⟩, ?_⟩
  calc (s.concluded init).session.transcript.cells
    _ = (source.start.cells.foldl Transcript.append s.session.transcript).cells ++
        [source.ending] := by
      rw [← hend]
      exact finish_cells ho
    _ = s.session.transcript.cells ++ (source.start.cells ++ [source.ending]) := by
      rw [Transcript.foldl_append_cells, List.append_assoc]

/-- A call of `bootstrap` has the start scheduled, unless it has been before. -/
theorem Sound.request (h : s.Sound source init texts requests) :
    s.request.Sound source init texts (requests + 1) := by
  refine ⟨h.coherent, h.log, ?_, ?_⟩
  · have hasked := h.asked
    change s.answers.length + (s.waiting + 1) = requests + 1
    omega
  · have hs := h.stands
    unfold Stands at hs ⊢
    unfold Staged.request
    cases hst : s.stage with
    | unasked =>
      rw [hst] at hs
      exact hs.1
    | scheduled | initializing | done =>
      rw [hst] at hs
      exact hs

/-- Those who wait for the start are told its one answer when it is over. -/
theorem Sound.wake (h : s.Sound source init texts requests) :
    s.wake.Sound source init texts requests := by
  unfold Staged.wake
  split
  · rename_i answer n hst hw
    have hs := h.stands
    unfold Stands at hs
    rw [hst] at hs
    refine ⟨h.coherent, h.log, ?_, ?_⟩
    · have hasked := h.asked
      rw [List.length_append, List.length_singleton]
      dsimp only
      omega
    · have hanswered : ∀ a ∈ s.answers ++ [answer], a = answer := by
        intro a ha
        rcases List.mem_append.mp ha with ha | ha
        · exact hs.answered a ha
        · exact List.mem_singleton.mp ha
      unfold Stands
      simp only [hst]
      exact ⟨hs.outcome, hanswered, hs.calls, hs.ended⟩
  · exact h

/-- A session is ready once a start that succeeds is over. -/
theorem Sound.ready (h : s.Sound source init texts requests)
    (hr : s.session.adapter.isReady = true) : ∃ e answer,
      source.start.outcome = .ok e ∧ s.stage = .done answer ∧
      s.session.adapter.phase = .ready e ∧
      Late s.session.adapter s.handle s.answers source init answer texts := by
  obtain ⟨e, hp⟩ := Adapter.isReady_iff.mp hr
  have early {calls : List EngineCall} (he : Early s.session.adapter s.answers source calls texts) :
      False := by cases hp.symm.trans he.phase
  have hs := h.stands
  unfold Stands at hs
  cases hst : s.stage with
  | unasked =>
    rw [hst] at hs
    exact (early hs.1).elim
  | scheduled =>
    rw [hst] at hs
    exact (early hs).elim
  | initializing =>
    rw [hst] at hs
    exact (early hs.1).elim
  | done answer =>
    rw [hst] at hs
    have hended := hs.ended
    cases ho : source.start.outcome with
    | ok e' =>
      rw [ho] at hended
      exact ⟨e', answer, rfl, rfl, hended.1, hs⟩
    | error f =>
      rw [ho] at hended
      cases hp.symm.trans hended.1

/-- What happens to a session calls the engine only when there is something to submit. -/
theorem Sound.act (h : s.Sound source init texts requests) {x : Session.Event}
    (hx : x ≠ .bootstrap) :
    (s.act x).Sound source init (texts ++ (s.session.submitted? x).toList) requests := by
  have hcoherent : (s.act x).session.Coherent := h.coherent.after x
  have hstands := h.stands
  cases hr : s.session.adapter.isReady with
  | false =>
    -- Before the end of the start, and after one that has failed, the engine is left alone.
    obtain ⟨ha, hn⟩ := h.coherent.unready_after hr hx
    have hadapter : (s.act x).session.adapter = s.session.adapter := ha
    have hlog : (s.act x).log = s.log := by simp [Staged.act, ha]
    rw [hn, Option.toList_none, List.append_nil]
    refine ⟨hcoherent, ?_, h.asked, ?_⟩
    · rw [hlog, hadapter, h.log]
    · unfold Stands at hstands ⊢
      rw [hadapter]
      exact hstands
  | true =>
    obtain ⟨e, answer, ho, hst, hp, hlate⟩ := h.ready hr
    have hcalls := h.coherent.calls_after hp x
    have hphase : (s.session.after x).adapter.phase = .ready e := by
      rw [(h.coherent.takes_after hr x).phase, hp]
    have hended := hlate.ended
    rw [ho] at hended
    refine ⟨hcoherent, ?_, h.asked, ?_⟩
    · have hlog : (s.act x).log = s.log ++ ((s.session.after x).adapter.calls.drop
          s.session.adapter.calls.length).map (·, s.handle) := rfl
      have hafter : (s.act x).session.adapter.calls = (s.session.after x).adapter.calls := rfl
      rw [hlog, hafter, hcalls, List.drop_left, h.log, hended.2, List.map_append]
      cases s.session.submitted? x <;> rfl
    · have hnew : Late (s.session.after x).adapter s.handle s.answers source init answer
          (texts ++ (s.session.submitted? x).toList) := by
        refine ⟨hlate.outcome, hlate.answered, ?_, ?_⟩
        · rw [hcalls, hlate.calls, List.map_append, List.append_assoc]
        · rw [ho]
          exact ⟨hphase, hended.2⟩
      unfold Stands Staged.act
      simp only [hst]
      exact hnew

/-- A turn comes to nothing before the start has been asked for and once it is over; else it ends
the start, or leaves it initializing the engine. -/
theorem Sound.turn_cases (h : s.Sound source init texts requests) :
    (s.turn init = s ∧ (s.stage = .unasked ∨ s.stage.isOver = true)) ∨
    (s.turn init = s.concluded init ∧ s.stage.isOver = false ∧
      ∃ calls, Early s.session.adapter s.answers source calls texts) ∨
    ∃ e, s.turn init = { s.call .start none with stage := .initializing e } ∧
      s.stage = .scheduled ∧ source.load = .ok e ∧
      Early s.session.adapter s.answers source [] texts := by
  have hs := h.stands
  unfold Stands at hs
  cases hst : s.stage with
  | unasked => exact .inl ⟨by simp only [Staged.turn, hst], .inl rfl⟩
  | done answer => exact .inl ⟨by simp only [Staged.turn, hst], .inr rfl⟩
  | initializing e =>
    rw [hst] at hs
    obtain ⟨he, hl⟩ := hs
    have hload : s.session.adapter.source.load = .ok e := by rw [he.origin, hl]
    have hlog : s.log = [(.start, none)] := by
      rw [h.log, he.calls]
      rfl
    exact .inr (.inl ⟨turn_initializing hst he.phase hload he.calls hlog, rfl, _, he⟩)
  | scheduled =>
    rw [hst] at hs
    have hlog : s.log = [] := by
      rw [h.log, hs.calls]
      rfl
    rcases turn_scheduled hst hs.phase hs.calls hlog with ht | ⟨e, hload, ht⟩
    · exact .inr (.inl ⟨ht, rfl, _, hs⟩)
    · exact .inr (.inr ⟨e, ht, rfl, by rw [← hs.origin, hload], hs⟩)

/-- A turn of the start makes the next call of the engine, and the last one ends in the cells of the
start. -/
theorem Sound.turn (h : s.Sound source init texts requests)
    (ho : ∀ f, source.start.outcome = .error f → f.isOrdinary = true) :
    (s.turn init).Sound source init texts requests ∧
      (s.turn init).session.transcript.cells = s.session.transcript.cells ++
        (if !s.stage.isOver && (s.turn init).stage.isOver then
          source.start.cells ++ [source.ending] else []) := by
  rcases h.turn_cases with ⟨ht, -⟩ | ⟨ht, hover, calls, he⟩ | ⟨e, ht, -, hload, he⟩
  · rw [ht]
    exact ⟨h, by simp⟩
  · obtain ⟨hsound, hcells⟩ := concluded_sound h.coherent he.phase he.origin he.unanswered ho
    have hwaiting : s.waiting = requests := by
      have hasked := h.asked
      rw [he.unanswered, List.length_nil] at hasked
      omega
    rw [ht, he.unsubmitted, ← hwaiting, hover, concluded_isOver]
    exact ⟨hsound, hcells⟩
  · have hcoherent : (s.call .start none).session.Coherent :=
      ⟨h.coherent.ready, h.coherent.unready, h.coherent.empty, h.coherent.reported⟩
    have hcalls : (s.call .start none).session.adapter.calls = [.start] := by
      simp [call, Session.calling, he.calls]
    have hlog : (s.call .start none).log =
        (s.call .start none).session.adapter.calls.map init.contact := by
      rw [hcalls]
      simp [call, h.log, he.calls, Initialization.contact]
    have hearly : Early (s.call .start none).session.adapter s.answers source [.start] texts :=
      ⟨he.origin, he.phase, hcalls, he.unanswered, he.unsubmitted⟩
    rw [ht]
    refine ⟨⟨hcoherent, hlog, h.asked, hearly, hload⟩, ?_⟩
    simp [Stage.isOver, call, Session.calling, Session.transcript]

theorem Sound.occur (h : s.Sound source init texts requests)
    (ho : ∀ f, source.start.outcome = .error f → f.isOrdinary = true) (o : Occurrence) :
    (s.occur init o).Sound source init (texts ++ (s.submission? o).toList)
      (requests + o.isRequest.toNat) := by
  have hkept : texts ++ (none : Option String).toList = texts := List.append_nil _
  cases o with
  | turn => exact hkept.symm ▸ (h.turn ho).1
  | wake => exact hkept.symm ▸ h.wake
  | event x =>
    by_cases hx : x = .bootstrap
    · rw [hx]
      exact hkept.symm ▸ h.request
    · have hnone : (Occurrence.event x).isRequest = false := by
        cases x with
        | bootstrap => exact absurd rfl hx
        | _ => rfl
      rw [occur_act hx, hnone]
      exact h.act hx

theorem Sound.run (h : s.Sound source init texts requests)
    (ho : ∀ f, source.start.outcome = .error f → f.isOrdinary = true)
    (occurrences : List Occurrence) :
    (s.run init occurrences).Sound source init (texts ++ s.submitted init occurrences)
      (requests + occurrences.countP Occurrence.isRequest) := by
  induction occurrences generalizing s texts requests with
  | nil =>
    rw [submitted, List.append_nil]
    exact h
  | cons o occurrences ih =>
    have hrest := ih (h.occur ho o)
    have hcount : requests + (o :: occurrences).countP Occurrence.isRequest =
        requests + o.isRequest.toNat + occurrences.countP Occurrence.isRequest := by
      rw [List.countP_cons]
      cases o.isRequest with
      | true => simp only [if_true, Bool.toNat_true]; omega
      | false => simp
    rw [submitted, ← List.append_assoc, hcount]
    exact hrest

/-- What is left to happen while so many calls wait: the turns of a start, and one of each call. -/
def outstanding (waiting : Nat) : List Occurrence :=
  [.turn, .turn] ++ List.replicate waiting .wake

/-- Two turns are enough for a start that has been asked for. -/
theorem Sound.over_of_turns (h : s.Sound source init texts requests)
    (ho : ∀ f, source.start.outcome = .error f → f.isOrdinary = true)
    (hs : s.stage ≠ .unasked) : ((s.turn init).turn init).stage.isOver = true := by
  have still {t : Staged H} (ht : t.stage.isOver = true) :
      (t.turn init).stage.isOver = true := by rw [turn_over ht, ht]
  rcases h.turn_cases with ⟨ht, hst | hst⟩ | ⟨ht, -, -⟩ | ⟨e, ht, -, -⟩
  · exact absurd hst hs
  · exact still (still hst)
  · exact still (by rw [ht]; rfl)
  · -- The second turn finds the engine initializing.
    have hstage : (s.turn init).stage = .initializing e := by rw [ht]
    rcases (h.turn ho).1.turn_cases with ⟨-, hst | hst⟩ | ⟨ht', -, -⟩ | ⟨-, -, hst, -⟩
    · cases hstage.symm.trans hst
    · rw [hstage] at hst
      cases hst
    · rw [ht']
      rfl
    · cases hstage.symm.trans hst

theorem Sound.turn_waiting (h : s.Sound source init texts requests) :
    (s.turn init).waiting = s.waiting := by
  rcases h.turn_cases with ⟨ht, -⟩ | ⟨ht, -, -⟩ | ⟨e, ht, -, -⟩
  · rw [ht]
  · rw [ht]
    rfl
  · rw [ht]
    rfl

/-- Once the start has had its turns, every call of `bootstrap` has been answered. -/
theorem Sound.all_answered (h : s.Sound source init texts requests)
    (ho : ∀ f, source.start.outcome = .error f → f.isOrdinary = true) :
    (s.run init (outstanding s.waiting)).answers.length = requests := by
  have hrun := h.run ho (outstanding s.waiting)
  have hcount : (outstanding s.waiting).countP Occurrence.isRequest = 0 := by
    simp [outstanding, List.countP_replicate, Occurrence.isRequest]
  have hnone : (s.run init (outstanding s.waiting)).waiting = 0 := by
    have hsplit : s.run init (outstanding s.waiting) =
        ((s.turn init).turn init).run init (List.replicate s.waiting .wake) := rfl
    rw [hsplit]
    by_cases hst : s.stage = .unasked
    · have hs := h.stands
      unfold Stands at hs
      rw [hst] at hs
      have hturn : s.turn init = s := by simp only [Staged.turn, hst]
      rw [hturn, hturn, hs.2]
      exact hs.2
    · have hwaiting : ((s.turn init).turn init).waiting = s.waiting := by
        rw [(h.turn ho).1.turn_waiting, h.turn_waiting]
      exact wake_all (h.over_of_turns ho hst) s.waiting hwaiting
  have hasked := hrun.asked
  rw [hnone, hcount] at hasked
  exact hasked

theorem Sound.answers (h : s.Sound source init texts requests) :
    ∀ a ∈ s.answers, a = .ok source.start.outcome.isOk := by
  have hs := h.stands
  unfold Stands at hs
  split at hs
  · simp [hs.1.unanswered]
  · simp [hs.unanswered]
  · simp [hs.1.unanswered]
  · rw [← hs.outcome]
    exact hs.answered

/-- The calls of a start, complete once there is a submission, and then the submissions. -/
theorem Sound.calls (h : s.Sound source init texts requests) :
    ∃ early : List EngineCall, early <+: [.start, .register] ∧
      s.log = (early ++ texts.map EngineCall.submit).map init.contact ∧
      (texts ≠ [] → early = [.start, .register] ∧ s.session.adapter.isReady = true) := by
  have hs := h.stands
  have early {calls : List EngineCall} (hc : calls <+: [.start, .register])
      (he : Early s.session.adapter s.answers source calls texts) :
      ∃ early : List EngineCall, early <+: [.start, .register] ∧
        s.log = (early ++ texts.map EngineCall.submit).map init.contact ∧
        (texts ≠ [] → early = [.start, .register] ∧ s.session.adapter.isReady = true) := by
    refine ⟨calls, hc, ?_, fun hne => absurd he.unsubmitted hne⟩
    rw [h.log, he.calls, he.unsubmitted, List.map_nil, List.append_nil]
  unfold Stands at hs
  split at hs
  · exact early List.nil_prefix hs.1
  · exact early List.nil_prefix hs
  · exact early ⟨[.register], rfl⟩ hs.1
  · refine ⟨source.start.calls, source.start_calls, by rw [h.log, hs.calls], ?_⟩
    intro hne
    have hended := hs.ended
    cases ho : source.start.outcome with
    | ok e =>
      rw [ho] at hended
      exact ⟨source.start_calls_ok ho, Adapter.isReady_iff.mpr ⟨e, hended.1⟩⟩
    | error f =>
      rw [ho] at hended
      exact absurd hended.2 hne

/-- What an event comes to at the boundary. If it submits, the session is ready, and both the
controller and the engine get the text that is active at that moment; if it does not, neither has
anything new. -/
def Moment (s : Staged H) (init : Initialization H) (x : Session.Event) : Prop :=
  match s.session.submitted? x with
  | some text =>
    s.session.adapter.isReady = true ∧
    (s.session.prepared x).transcript.active? = some text ∧
    (s.occur init (.event x)).session = (s.session.prepared x).submit.2 ∧
    (∃ r, (s.occur init (.event x)).session.last = some r ∧ r.text = text) ∧
    (s.occur init (.event x)).log = s.log ++ [(.submit text, some init.handle)]
  | none =>
    (s.occur init (.event x)).session.last = s.session.last ∧
    (s.occur init (.event x)).log = s.log

theorem Sound.moment (h : s.Sound source init texts requests) (x : Session.Event) :
    s.Moment init x := by
  unfold Moment
  by_cases hx : x = .bootstrap
  · rw [hx]
    exact ⟨rfl, rfl⟩
  have hlast (hn : s.session.submitted? x = none) :
      (s.act x).session.last = s.session.last := Session.last_after h.coherent.pointed hn
  rw [occur_act hx]
  cases hr : s.session.adapter.isReady with
  | false =>
    obtain ⟨ha, hn⟩ := h.coherent.unready_after hr hx
    rw [hn]
    exact ⟨hlast hn, by simp [Staged.act, ha]⟩
  | true =>
    obtain ⟨e, answer, ho, -, hp, hlate⟩ := h.ready hr
    have hended := hlate.ended
    rw [ho] at hended
    have hlog : (s.act x).log = s.log ++ ((s.session.after x).adapter.calls.drop
        s.session.adapter.calls.length).map (·, s.handle) := rfl
    rw [h.coherent.calls_after hp x, List.drop_left, hended.2] at hlog
    cases hn : s.session.submitted? x with
    | none =>
      rw [hn] at hlog
      exact ⟨hlast hn, hlog.trans (List.append_nil _)⟩
    | some text =>
      obtain ⟨hafter, ht⟩ := Session.after_submitted hn
      have hp' : (s.session.prepared x).adapter.phase = .ready e := by
        rw [(s.session.prepared_revised x).adapter, hp]
      obtain ⟨-, r, hr', htext⟩ := Session.calls_submit hp' ht
      have hsession : (s.act x).session = (s.session.prepared x).submit.2 := hafter
      rw [hn] at hlog
      exact ⟨rfl, ht, hsession, ⟨r, by rw [hsession, hr'], htext⟩, hlog⟩

/-- However calls of `bootstrap` mix with the other calls of a session, the engine sees the calls of
one start and then the submissions, all but the first call with its handle. Each submission comes
when the session is ready and has the text that is active then. All calls of `bootstrap` have the
same answer, and none is left without one. The start ends once, with the cells of what was reported
in it and then an input cell, or else an error cell with something to read; in that case nothing is
submitted. -/
theorem engine_called_in_order (source : EngineSource) (init : Initialization H)
    (ho : ∀ f, source.start.outcome = .error f → f.isOrdinary = true)
    (occurrences : List Occurrence) :
    let s := (ofSource source).run init occurrences
    let texts := (ofSource source).submitted init occurrences
    let requests := occurrences.countP Occurrence.isRequest
    (∃ early : List EngineCall, early <+: [.start, .register] ∧
      s.log = (early ++ texts.map EngineCall.submit).map init.contact ∧
      (texts ≠ [] → early = [.start, .register] ∧ s.session.adapter.isReady = true)) ∧
    (∀ x, s.Moment init x) ∧
    (∀ a ∈ s.answers, a = .ok source.start.outcome.isOk) ∧
    s.answers.length + s.waiting = requests ∧
    (s.run init (outstanding s.waiting)).answers.length = requests ∧
    (∀ o, s.stage.isOver = true → (s.occur init o).stage = s.stage) ∧
    s.request.session = s.session ∧ s.wake.session = s.session ∧
    (s.turn init).session.transcript.cells = s.session.transcript.cells ++
      (if !s.stage.isOver && (s.turn init).stage.isOver then
        source.start.cells ++ [source.ending] else []) ∧
    match source.start.outcome with
    | .ok _ => source.ending = .input ""
    | .error f => source.ending = .error f.description ∧ f.description ≠ "" ∧ texts = [] := by
  intro s texts requests
  have h : s.Sound source init texts requests := by
    have hrun := (ofSource_sound source init).run ho occurrences
    rw [List.nil_append, Nat.zero_add] at hrun
    exact hrun
  have hwake : s.wake.session = s.session := by
    unfold wake
    split <;> rfl
  refine ⟨h.calls, h.moment, h.answers, h.asked, h.all_answered ho, ?_, rfl, hwake,
    (h.turn ho).2, ?_⟩
  · intro o hs
    exact stage_occur hs o
  · cases hout : source.start.outcome with
    | ok e => rw [EngineSource.ending, hout]
    | error f =>
      refine ⟨by rw [EngineSource.ending, hout], f.description_ne_empty, ?_⟩
      by_contra hne
      obtain ⟨early, -, -, hready⟩ := h.calls
      obtain ⟨e, answer, hok, -⟩ := h.ready (hready hne).2
      cases hout.symm.trans hok

/-- An engine that lets others have their turn: two calls of `bootstrap`, an edit that comes too
early, and a submission between their answers. -/
theorem stack_called_in_order :
    let source := EngineSource.given .stack
    let init : Initialization Nat := ⟨7, true⟩
    let occurrences : List Occurrence := [.event .bootstrap, .turn, .event (.edit "2"),
      .event .bootstrap, .turn, .wake, .event (.submitText "1 p"), .wake]
    let s := (ofSource source).run init occurrences
    (∀ f, source.start.outcome = .error f → f.isOrdinary = true) ∧
      s.log = [(.start, none), (.register, some 7), (.submit "1 p", some 7)] ∧
      s.answers = [.ok true, .ok true] := by
  intro source init occurrences s
  have ho : ∀ f, source.start.outcome = .error f → f.isOrdinary = true := by
    intro f hf
    cases hf
  obtain ⟨-, -, hsame, hcount, -⟩ := engine_called_in_order source init ho occurrences
  have hnone : s.waiting = 0 := by decide +kernel
  have hlength : s.answers.length = 2 := by
    rw [← Nat.add_zero s.answers.length, ← hnone]
    exact hcount
  exact ⟨ho, by decide +kernel, List.eq_replicate_iff.mpr ⟨hlength, hsame⟩⟩

end Staged

end DeskCalc
