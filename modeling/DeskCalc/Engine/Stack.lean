import DeskCalc.Engine.Catalog
import DeskCalc.Machine

namespace DeskCalc

def Printout.report : Printout → Report
  | .one r => ⟨Report.Kind.quantity.name, r.payload⟩
  | .all rs => ⟨Report.Kind.quantityList.name, .list (rs.map Result.payload)⟩

/-- As an engine, the stack machine reports what it prints. -/
def Outcome.reaction (o : Outcome) : Reaction :=
  ⟨o.printed.map Printout.report, o.error.map MachineError.fault⟩

namespace Machine

/-- The machine after a call. A new one has nobody listening; registering a callback changes that. -/
def afterCall (m : Machine) : EngineCall → Machine
  | .start => empty
  | .register => { m with listening := true }
  | .submit text => (m.run text).machine

/-- The machine after a history of calls. -/
def after (calls : List EngineCall) : Machine := calls.foldl afterCall empty

end Machine

/-- The engine that is used unless another is asked for. -/
def Engine.stack : Engine :=
  { label := "RpnEngine"
    startFault := none
    register := .silent
    submit := fun calls text => ((Machine.after calls).run text).reaction }

namespace Catalog

def packageName : String := "unitdc_console"

def stackModuleName : String := "unitdc_console.rpn"

/-- The path of the engine that is used unless another is asked for. -/
def defaultPath : String := "unitdc_console.rpn:RpnEngine"

/-- Every module has its own name among its members. -/
def named (name : String) (isPackage : Bool) (members : List (String × Member)) : Module :=
  ⟨name, isPackage, members ++ [("__name__", .other)]⟩

/-- The modules that are always there: the package of the console and, in it, the stack engine. -/
def builtIn : Catalog :=
  [named packageName true [("rpn", .other)],
    named stackModuleName false
      [("RpnEngine", .factory (.ok (some .stack))),
        ("format_unit", .factory (.error ⟨.type,
          some "format_unit() missing 1 required positional argument: 'unit'"⟩))]]

end Catalog

end DeskCalc
