import DeskCalc.Engine.Catalog
import DeskCalc.Transcript

namespace DeskCalc

/-- Where an engine comes from. -/
inductive EngineSource
  | given (e : Engine)
  | path (c : Catalog) (path : String)

def EngineSource.load : EngineSource → Except Fault Engine
  | given e => .ok e
  | path c p => (c.load p).mapError LoadError.fault

/-- How far the start has come. An interrupted start is never taken up again: it stays under way,
and ends every later call as it ended the first. -/
inductive Phase
  | idle
  | interrupted (f : Fault)
  | failed
  | ready (e : Engine)

def Phase.name : Phase → String
  | idle => "idle"
  | interrupted _ => "loading"
  | failed => "failed"
  | ready _ => "ready"

/-- The adapter between one engine and one transcript. It starts the engine once, turns its reports
into cells, and holds the cells of reports that come outside a submission until the next one.
`calls` lists what the engine was called for, in order; `pending` the cells held back. -/
structure Adapter where
  source : EngineSource
  phase : Phase
  calls : List EngineCall
  pending : List Cell

/-- An attempt to start: the calls made, the cells of what was reported meanwhile, and the engine
or the fault it ended with. -/
structure Startup where
  calls : List EngineCall
  cells : List Cell
  outcome : Except Fault Engine

def Engine.start (e : Engine) : Startup :=
  match e.startFault with
  | some f => ⟨[.start], [], .error f⟩
  | none =>
    let (cells, fault) := e.register.relay
    ⟨[.start, .register], cells, match fault with
      | some f => .error f
      | none => .ok e⟩

def EngineSource.start (s : EngineSource) : Startup :=
  match s.load with
  | .error f => ⟨[], [], .error f⟩
  | .ok e => e.start

namespace Adapter

def ofSource (s : EngineSource) : Adapter := ⟨s, .idle, [], []⟩

def isReady (a : Adapter) : Bool :=
  match a.phase with
  | .ready _ => true
  | _ => false

/-- Whether the engine has been given the callback to report to. -/
def isRegistered (a : Adapter) : Bool := a.calls.contains .register

/-- Starts the engine. What it reports meanwhile is shown at once; then comes the first input cell,
or the description of the fault. -/
def start (a : Adapter) (t : Transcript) : Except Fault Bool × Adapter × Transcript :=
  let startup := a.source.start
  let t := startup.cells.foldl Transcript.append t
  let a := { a with calls := a.calls ++ startup.calls }
  match startup.outcome with
  | .ok e => (.ok true, { a with phase := .ready e }, t.append (.input ""))
  | .error f =>
    if f.isOrdinary then
      (.ok false, { a with phase := .failed }, t.append (.error f.description))
    else (.error f, { a with phase := .interrupted f }, t)

/-- The first call starts the engine; every later one has the same outcome. -/
def bootstrap (a : Adapter) (t : Transcript) : Except Fault Bool × Adapter × Transcript :=
  match a.phase with
  | .idle => a.start t
  | .interrupted f => (.error f, a, t)
  | .failed => (.ok false, a, t)
  | .ready _ => (.ok true, a, t)

/-- Hands a text to the engine. The cells are those held back, then those of the engine's reports;
if the engine ends with a fault, its reports are dropped and those held back stay. -/
def submit (a : Adapter) (text : String) : Except Fault (List Cell) × Adapter :=
  match a.phase with
  | .ready e =>
    let (cells, fault) := (e.submit a.calls text).relay
    let a := { a with calls := a.calls ++ [.submit text] }
    match fault with
    | none => (.ok (a.pending ++ cells), { a with pending := [] })
    | some f =>
      (.error (if f.isOrdinary then ⟨.submission, some f.description⟩ else f), a)
  | _ => (.error (.precondition "Engine is not ready"), a)

/-- Takes a report that comes outside a submission: into the transcript while there is no active
cell to keep last, and else into what is held back. -/
def deliver (a : Adapter) (t : Transcript) (r : Report) : Except Fault Unit × Adapter × Transcript :=
  match r.cell with
  | .error e => (.error e.fault, a, t)
  | .ok c =>
    if a.isReady then (.ok (), { a with pending := a.pending ++ [c] }, t)
    else (.ok (), a, t.append c)

end Adapter

end DeskCalc
