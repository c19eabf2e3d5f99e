import DeskCalc.CommandLine

namespace DeskCalc.Terminal

/-- Answers lines, the ones in `waiting` first, until the conversation ends. -/
partial def converse (input output : IO.FS.Stream) (p : Prompt) (waiting : List String) :
    IO UInt32 := do
  if !p.running then return 0
  output.putStr p.label
  output.flush
  match waiting with
  | [] =>
    let line ← input.getLine
    if line.isEmpty then
      output.putStr "\n"
      return 0
    answer input output p (Text.lines line)
  | waiting => answer input output p waiting
where
  answer (input output : IO.FS.Stream) (p : Prompt) (waiting : List String) : IO UInt32 := do
    let turn := p.handle (waiting.headD "")
    output.putStr turn.output
    match turn.fault with
    | some f => return (Exit.ofFault "" f).code.toUInt32
    | none => converse input output turn.prompt waiting.tail

def finish (output : IO.FS.Stream) (e : Exit) : IO UInt32 := do
  output.putStr e.output
  output.flush
  if let some f := e.fault then IO.eprintln (f.kind.name ++ ": " ++ f.text)
  return e.code.toUInt32

/-- The variables of the environment that settings come from. -/
def environment : IO (List (String × String)) :=
  ["UNITDC_ENGINE", "UNITDC_LOG_LEVEL", "UNITDC_HINTS"].filterMapM fun name => do
    return (← IO.getEnv name).map (name, ·)

def run (arguments : List String) : IO UInt32 := do
  let values ← environment
  let surroundings : CommandLine.Surroundings := ⟨.builtIn, fun name => values.lookup name⟩
  let output ← IO.getStdout
  match Command.ofArguments? arguments with
  | some (.repl a) =>
    match CommandLine.opening surroundings a with
    | .error e => finish output e
    | .ok turn =>
      output.putStr turn.output
      converse (← IO.getStdin) output turn.prompt []
  | _ => finish output (CommandLine.run surroundings arguments "")

end DeskCalc.Terminal

/-- The program on a terminal: reads arguments, environment and input, and writes what the command
line answers. -/
def main (arguments : List String) : IO UInt32 := DeskCalc.Terminal.run arguments
