import DeskCalc.Fault
import DeskCalc.Report

namespace DeskCalc

/-- What an engine can be called for. -/
inductive EngineCall
  | start
  | register
  | submit (text : String)
  deriving DecidableEq

/-- How an engine reacts to a call: it reports to its callback, in order, and then returns or ends
with a fault. -/
structure Reaction where
  reports : List Report
  fault : Option Fault

namespace Reaction

def silent : Reaction := ⟨[], none⟩

/-- The cells of the reports that reach the transcript, and the fault that the call ends with. A
report that makes no cell is refused where it is made, and that ends the call. -/
def relayed : List Report → Option Fault → List Cell × Option Fault
  | [], fault => ([], fault)
  | r :: rs, fault =>
    match r.cell with
    | .error e => ([], some e.fault)
    | .ok c =>
      let (cells, fault) := relayed rs fault
      (c :: cells, fault)

def relay (r : Reaction) : List Cell × Option Fault := relayed r.reports r.fault

end Reaction

/-- A calculation engine, seen from outside: how it starts, and what it reports and ends with when
it is given a text. It may keep a state of its own; what it does is then decided by the calls
before, which `submit` is given. `startFault` is the fault, if any, that starting it ends with. -/
structure Engine where
  label : String
  startFault : Option Fault
  register : Reaction
  submit : List EngineCall → String → Reaction

end DeskCalc
