import DeskCalc.Proofs.Adapter.Buffer
import DeskCalc.Proofs.Session.Active

namespace DeskCalc

/-- What an engine hands over when it is initialized, and whether it lets others have their turn
before it does. -/
structure Initialization (H : Type) where
  handle : H
  waits : Bool

/-- A call of an engine as the engine sees it: all but the first come with the handle. -/
def Initialization.contact {H : Type} (init : Initialization H) (c : EngineCall) :
    EngineCall × Option H :=
  (c, if c = .start then none else some init.handle)

/-- How far the one start has come. -/
inductive Stage
  | unasked
  | scheduled
  | initializing (e : Engine)
  | done (answer : Except Fault Bool)

def Stage.isOver : Stage → Bool
  | done _ => true
  | _ => false

namespace Session

def calling (s : Session) (c : EngineCall) : Session :=
  { s with adapter := { s.adapter with calls := s.adapter.calls ++ [c] } }

def uncalled (s : Session) : Session := { s with adapter := { s.adapter with calls := [] } }

def inPhase (s : Session) (p : Phase) : Session := { s with adapter := { s.adapter with phase := p } }

end Session

/-- A session and its start: the handle that the adapter keeps, the calls that the engine has seen,
the calls of `bootstrap` that wait, and what the others were answered. -/
structure Staged (H : Type) where
  session : Session
  stage : Stage
  handle : Option H
  log : List (EngineCall × Option H)
  waiting : Nat
  answers : List (Except Fault Bool)

/-- What can happen: an event of the session, a turn of the start, or one of a call that waits. -/
inductive Occurrence
  | event (x : Session.Event)
  | turn
  | wake

def Occurrence.isRequest : Occurrence → Bool
  | event .bootstrap => true
  | _ => false

namespace Staged

variable {H : Type}

def ofSource (source : EngineSource) : Staged H := ⟨.ofSource source, .unasked, none, [], 0, []⟩

def call (s : Staged H) (c : EngineCall) (handle : Option H) : Staged H :=
  { s with session := s.session.calling c, log := s.log ++ [(c, handle)] }

/-- The end of the start, with an engine or a fault. -/
def finish (s : Staged H) (init : Initialization H) : Except Fault Engine → Staged H
  | .ok e =>
    { s with
      session := (s.session.inPhase (.ready e)).withTranscript
        (s.session.transcript.append (.input ""))
      stage := .done (.ok true)
      handle := some init.handle }
  | .error f =>
    if f.isOrdinary then
      { s with
        session := (s.session.inPhase .failed).withTranscript
          (s.session.transcript.append (.error f.description))
        stage := .done (.ok false) }
    else { s with session := s.session.inPhase (.interrupted f), stage := .done (.error f) }

/-- Gives the callback to an engine, which reports to it one thing after the other. -/
def register (s : Staged H) (init : Initialization H) (e : Engine) : Staged H :=
  let s := s.call .register (some init.handle)
  let (fault, b, t) := (Buffered.closed s.session.adapter).play s.session.transcript
    e.register.fault e.register.reports
  { s with session := { s.session with adapter := b.adapter }.withTranscript t }.finish init
    (match fault with
      | some f => .error f
      | none => .ok e)

/-- Goes on when the initialization of an engine has ended. -/
def goOn (s : Staged H) (init : Initialization H) (e : Engine) : Staged H :=
  match e.startFault with
  | some f => s.finish init (.error f)
  | none => s.register init e

def turn (s : Staged H) (init : Initialization H) : Staged H :=
  match s.stage with
  | .scheduled =>
    match s.session.adapter.source.load with
    | .error f => s.finish init (.error f)
    | .ok e =>
      let s := s.call .start none
      if init.waits then { s with stage := .initializing e } else s.goOn init e
  | .initializing e => s.goOn init e
  | .unasked | .done _ => s

/-- A call of `bootstrap`, which waits for the one start. -/
def request (s : Staged H) : Staged H :=
  { s with
    waiting := s.waiting + 1
    stage := match s.stage with
      | .unasked => .scheduled
      | stage => stage }

/-- Answers a call that waits, once the start is over. -/
def wake (s : Staged H) : Staged H :=
  match s.stage, s.waiting with
  | .done answer, n + 1 => { s with waiting := n, answers := s.answers ++ [answer] }
  | _, _ => s

/-- Any other event; the engine sees its calls with the handle that the adapter keeps. -/
def act (s : Staged H) (x : Session.Event) : Staged H :=
  let session := s.session.after x
  let calls := session.adapter.calls.drop s.session.adapter.calls.length
  { s with session := session, log := s.log ++ calls.map (·, s.handle) }

def occur (init : Initialization H) (s : Staged H) : Occurrence → Staged H
  | .event .bootstrap => s.request
  | .event x => s.act x
  | .turn => s.turn init
  | .wake => s.wake

/-- The text that an occurrence submits, if it submits one. -/
def submission? (s : Staged H) : Occurrence → Option String
  | .event x => s.session.submitted? x
  | _ => none

def run (init : Initialization H) (s : Staged H) (occurrences : List Occurrence) : Staged H :=
  occurrences.foldl (occur init) s

def submitted (init : Initialization H) (s : Staged H) : List Occurrence → List String
  | [] => []
  | o :: occurrences => (s.submission? o).toList ++ (s.occur init o).submitted init occurrences

/-- What the start comes to when it is made at once. -/
def concluded (s : Staged H) (init : Initialization H) : Staged H :=
  let (answer, session) := s.session.uncalled.bootstrap
  { s with
    session := session
    stage := .done answer
    log := session.adapter.calls.map init.contact
    handle := if session.adapter.isReady then some init.handle else s.handle }

/-- The session and the log as a start leaves them whose end is still to come. -/
def heard (s : Staged H) (init : Initialization H) (startup : Startup) : Staged H :=
  { s with
    session := { s.session with
      adapter := { s.session.adapter with calls := startup.calls } }.withTranscript
        (startup.cells.foldl Transcript.append s.session.transcript)
    log := startup.calls.map init.contact }

variable {s : Staged H} {init : Initialization H} {e : Engine} {f : Fault}

theorem concluded_isOver (s : Staged H) (init : Initialization H) :
    (s.concluded init).stage.isOver = true :=
  rfl

theorem finish_heard (hp : s.session.adapter.phase = .idle) :
    (s.heard init s.session.adapter.source.start).finish init
      s.session.adapter.source.start.outcome = s.concluded init := by
  unfold concluded Session.bootstrap Adapter.bootstrap
  simp only [Session.uncalled, hp, Adapter.start, List.nil_append]
  cases h : s.session.adapter.source.start.outcome with
  | ok e => rfl
  | error f =>
    cases hf : f.isOrdinary with
    | true =>
      simp only [finish, hf, if_true]
      rfl
    | false =>
      simp only [finish, hf]
      simp [heard, Session.inPhase, Session.withTranscript, Session.transcript, Adapter.isReady]

theorem register_eq (hr : s.session.adapter.isReady = false) (e : Engine) :
    s.register init e =
      { s.call .register (some init.handle) with
        session := (s.session.calling .register).withTranscript
          (e.register.relay.1.foldl Transcript.append s.session.transcript) }.finish init
            (match e.register.relay.2 with
              | some f => .error f
              | none => .ok e) := by
  have hcalled : (s.call .register (some init.handle)).session.adapter.isReady = false := hr
  rw [register]
  simp only [Buffered.play_closed hcalled]
  rfl

/-- An engine that has been initialized makes of the start what it makes of it at once. -/
theorem goOn_eq (hp : s.session.adapter.phase = .idle)
    (hl : s.session.adapter.source.load = .ok e) (hc : s.session.adapter.calls = [.start])
    (hlog : s.log = [(.start, none)]) : s.goOn init e = s.concluded init := by
  have hstart : s.session.adapter.source.start = e.start := by rw [EngineSource.start, hl]
  have hr : s.session.adapter.isReady = false := by simp [Adapter.isReady, hp]
  rw [← finish_heard hp, hstart]
  unfold goOn Engine.start
  cases hf : e.startFault with
  | some f =>
    have hsame : s.heard init ⟨[.start], [], .error f⟩ = s := by
      obtain ⟨⟨editor, ⟨source, phase, calls, pending⟩, last⟩, stage, handle, log, waiting,
        answers⟩ := s
      obtain rfl : calls = [.start] := hc
      obtain rfl : log = [(.start, none)] := hlog
      rfl
    simp only [hsame]
  | none =>
    have hcalls : s.session.adapter.calls ++ [.register] = [.start, .register] := by rw [hc]; rfl
    have hlogged : s.log ++ [(.register, some init.handle)] =
        [EngineCall.start, .register].map init.contact := by
      rw [hlog]
      rfl
    have hheard (startup : Startup) (h : startup.calls = [.start, .register]) :
        { s.call .register (some init.handle) with
          session := (s.session.calling .register).withTranscript
            (startup.cells.foldl Transcript.append s.session.transcript) } =
          s.heard init startup := by
      simp only [call, heard, Session.calling, hcalls, hlogged, h]
    exact (register_eq hr e).trans (congrArg (finish · init _) (hheard ⟨_, _, _⟩ rfl))

/-- The first turn of a start either is its last, or leaves the engine initializing. -/
theorem turn_scheduled (hs : s.stage = .scheduled) (hp : s.session.adapter.phase = .idle)
    (hc : s.session.adapter.calls = []) (hlog : s.log = []) :
    s.turn init = s.concluded init ∨ ∃ e, s.session.adapter.source.load = .ok e ∧
      s.turn init = { s.call .start none with stage := .initializing e } := by
  simp only [turn, hs]
  cases hl : s.session.adapter.source.load with
  | error f =>
    have hstart : s.session.adapter.source.start = ⟨[], [], .error f⟩ := by
      rw [EngineSource.start, hl]
    have hsame : s.heard init ⟨[], [], .error f⟩ = s := by
      obtain ⟨⟨editor, ⟨source, phase, calls, pending⟩, last⟩, stage, handle, log, waiting,
        answers⟩ := s
      obtain rfl : calls = [] := hc
      obtain rfl : log = [] := hlog
      rfl
    have hend : (s.heard init s.session.adapter.source.start).finish init
        s.session.adapter.source.start.outcome = s.concluded init := finish_heard hp
    rw [hstart, hsame] at hend
    exact .inl hend
  | ok e =>
    dsimp only
    split
    · exact .inr ⟨e, rfl, rfl⟩
    · have hcalled : (s.call .start none).session.adapter.calls = [.start] := by
        simp [call, Session.calling, hc]
      have hlogged : (s.call .start none).log = [(.start, none)] := by simp [call, hlog]
      have hgo : (s.call .start none).goOn init e = (s.call .start none).concluded init :=
        goOn_eq hp hl hcalled hlogged
      exact .inl hgo

/-- The turn after the initialization hears the engine and ends the start. -/
theorem turn_initializing (hs : s.stage = .initializing e)
    (hp : s.session.adapter.phase = .idle) (hl : s.session.adapter.source.load = .ok e)
    (hc : s.session.adapter.calls = [.start]) (hlog : s.log = [(.start, none)]) :
    s.turn init = s.concluded init := by
  simp only [turn, hs]
  exact goOn_eq hp hl hc hlog

theorem turn_over (hs : s.stage.isOver = true) : s.turn init = s := by
  unfold turn
  split
  · rename_i h
    rw [h] at hs
    cases hs
  · rename_i h
    rw [h] at hs
    cases hs
  · rfl
  · rfl

theorem occur_act {x : Session.Event} (hx : x ≠ .bootstrap) : s.occur init (.event x) = s.act x := by
  cases x with
  | bootstrap => exact absurd rfl hx
  | _ => rfl

/-- Nothing leads back from the end of the start. -/
theorem stage_occur (hs : s.stage.isOver = true) (o : Occurrence) :
    (s.occur init o).stage = s.stage := by
  cases hst : s.stage with
  | done answer =>
    cases o with
    | event x =>
      cases x with
      | bootstrap => simp only [occur, request, hst]
      | _ => exact hst
    | turn =>
      have ht : s.occur init .turn = s := turn_over hs
      rw [ht, hst]
    | wake =>
      simp only [occur, wake, hst]
      split
      · rfl
      · exact hst
  | _ =>
    rw [hst] at hs
    cases hs

/-- Once the start is over, every call that waits can be answered. -/
theorem wake_all (hs : s.stage.isOver = true) (n : Nat) (hn : s.waiting = n) :
    (s.run init (List.replicate n .wake)).waiting = 0 := by
  induction n generalizing s with
  | zero => exact hn
  | succ n ih =>
    have hstage : (s.occur init .wake).stage = s.stage := stage_occur hs .wake
    have hw : (s.occur init .wake).waiting = n := by
      cases hst : s.stage with
      | done answer => simp only [occur, wake, hst, hn]
      | _ =>
        rw [hst] at hs
        cases hs
    rw [← hstage] at hs
    exact ih hs hw

end Staged

end DeskCalc
