import DeskCalc.Prompt
import DeskCalc.Settings
import DeskCalc.Text.Split

namespace DeskCalc

open Text

/-- What options can be given to a command. -/
inductive OptionName
  | engine
  | logLevel
  | json
  | hints (shown : Bool)
  deriving DecidableEq

namespace OptionName

def takesValue : OptionName → Bool
  | engine | logLevel => true
  | json | hints _ => false

end OptionName

/-- The options given, of which the last of a kind counts, and the other arguments. -/
structure Arguments where
  engine : Option String
  logLevel : Option String
  json : Bool
  hints : Option Bool
  others : List String
  deriving DecidableEq

namespace Arguments

def empty : Arguments := ⟨none, none, false, none, []⟩

def setFlag (a : Arguments) : OptionName → Arguments
  | .json => { a with json := true }
  | .hints shown => { a with hints := some shown }
  | _ => a

def setValue (a : Arguments) (value : String) : OptionName → Arguments
  | .engine => { a with engine := some value }
  | .logLevel => { a with logLevel := some value }
  | _ => a

def addOther (a : Arguments) (other : String) : Arguments := { a with others := a.others ++ [other] }

/-- The options of a command by the words they are given with. -/
abbrev Table := List (String × OptionName)

/-- An argument as an option. -/
inductive Word
  /-- A flag. -/
  | flag (o : OptionName)
  /-- An option with its value in the same argument. -/
  | withValue (o : OptionName) (value : String)
  /-- An option whose value is the next argument. -/
  | needsValue (o : OptionName)
  | unknown
  | plain
  deriving DecidableEq

/-- A long option, whose value may follow an equals sign. -/
def longWord (table : Table) (argument : List Char) : Word :=
  let name := argument.takeWhile (· ≠ '=')
  match table.lookup (.ofList name), argument.drop name.length with
  | some o, [] => if o.takesValue then .needsValue o else .flag o
  | some o, _ :: value => if o.takesValue then .withValue o (.ofList value) else .unknown
  | none, _ => .unknown

/-- A short option, whose value may follow at once. -/
def shortWord (table : Table) (letter : Char) (rest : List Char) : Word :=
  match table.lookup (.ofList ['-', letter]), rest with
  | some o, [] => .needsValue o
  | some o, value => .withValue o (.ofList value)
  | none, _ => .unknown

def word (table : Table) (argument : String) : Word :=
  match argument.toList with
  | '-' :: '-' :: rest => longWord table ('-' :: '-' :: rest)
  | '-' :: letter :: rest => shortWord table letter rest
  | _ => .plain

/-- The arguments of a command, nothing if they do not fit. Options may stand anywhere before `--`. -/
def read (table : Table) (a : Arguments) : List String → Option Arguments
  | [] => some a
  | "--" :: rest => some { a with others := a.others ++ rest }
  | argument :: rest =>
    match word table argument with
    | .flag o => read table (a.setFlag o) rest
    | .withValue o value => read table (a.setValue value o) rest
    | .needsValue o =>
      match rest with
      | [] => none
      | value :: rest => read table (a.setValue value o) rest
    | .unknown => none
    | .plain => read table (a.addOther argument) rest

end Arguments

inductive Command
  | eval (a : Arguments)
  | repl (a : Arguments)
  | keys
  deriving DecidableEq

namespace Command

def settingsOptions : Arguments.Table :=
  [("--engine", .engine), ("-e", .engine), ("--log-level", .logLevel)]

def evalOptions : Arguments.Table := settingsOptions ++ [("--json", .json)]

def replOptions : Arguments.Table :=
  settingsOptions ++ [("--hints", .hints true), ("--no-hints", .hints false)]

/-- `eval` needs an expression; the other two take none. -/
def ofNamed? (name : String) (arguments : List String) : Option Command :=
  match name with
  | "eval" =>
    ((Arguments.read evalOptions .empty arguments).filter (·.others ≠ [])).map .eval
  | "repl" =>
    ((Arguments.read replOptions .empty arguments).filter (·.others = [])).map .repl
  | "keys" =>
    ((Arguments.read [] .empty arguments).filter (·.others = [])).map fun _ => .keys
  | _ => none

/-- The command that arguments ask for, nothing if they do not fit. -/
def ofArguments? : List String → Option Command
  | "--" :: name :: arguments => ofNamed? name arguments
  | name :: arguments => ofNamed? name arguments
  | [] => none

end Command

/-- How the program ends: its exit code, the text shown, and a fault that nothing caught. -/
@[ext] structure Exit where
  code : Nat
  output : String
  fault : Option Fault
  deriving DecidableEq

namespace Exit

/-- The arguments or settings do not fit. -/
def usage : Exit := ⟨2, "", none⟩

/-- A fault that nothing caught. An interrupt has an exit code of its own and is not reported. -/
def ofFault (output : String) (f : Fault) : Exit :=
  if f.isOrdinary then ⟨1, output, some f⟩ else ⟨130, output, none⟩

end Exit

namespace CommandLine

/-- Where the program runs: the modules to import and the variables of the environment. -/
structure Surroundings where
  catalog : Catalog
  lookUp : String → Option String

/-- The settings of a command, or the exit for settings that do not fit. Their error is shown as
markup, though not on the output, and the text in it can make it no markup at all. -/
def settings (s : Surroundings) (a : Arguments) : Except Exit Settings :=
  match (Settings.ofEnvironment s.lookUp).bind (·.override a.engine a.logLevel) with
  | .ok settings => .ok settings
  | .error e =>
    .error (match plainText ("[red]" ++ e.message ++ "[/red]") with
      | .ok _ => .usage
      | .error e => .ofFault "" e.fault)

def session (s : Surroundings) (settings : Settings) : Session :=
  .ofSource (.path s.catalog settings.engine)

/-- Submits expressions in order; says whether all succeeded. -/
def submitAll (s : Session) : List String → Except Fault Bool × Session
  | [] => (.ok true, s)
  | e :: es =>
    match s.submitText e with
    | (.error f, s) => (.error f, s)
    | (.ok r, s) =>
      let (answer, s) := submitAll s es
      (answer.map (r.isSuccess && ·), s)

/-- Starts the engine and, if that succeeds, submits the expressions. -/
def evaluate (s : Session) (expressions : List String) : Except Fault Bool × Session :=
  match s.bootstrap with
  | (.error f, s) => (.error f, s)
  | (.ok false, s) => (.ok false, s)
  | (.ok true, s) => submitAll s expressions

/-- The transcript as `eval` shows it. -/
def shown (t : Transcript) (json : Bool) : Except Fault String :=
  if json then (Display.document t).map fun d => Display.line (d.indented 0)
  else Display.transcript t 0 none false

/-- The command `eval`: submits expressions and shows the transcript. -/
def eval (s : Session) (expressions : List String) (json : Bool) : Exit :=
  match evaluate s expressions with
  | (.error f, _) => .ofFault "" f
  | (.ok succeeded, s) =>
    match shown s.transcript json with
    | .error f => .ofFault "" f
    | .ok output => ⟨if succeeded then 0 else 1, output, none⟩

/-- What `repl` has shown before it asks for the first line, or how it ended before that. -/
def opening (s : Surroundings) (a : Arguments) : Except Exit Turn :=
  match settings s a with
  | .error exit => .error exit
  | .ok settings =>
    let prompt := Prompt.ofSession (session s settings) (a.hints.getD settings.showHints)
    let (turn, started) := prompt.start
    match turn.fault with
    | some f => .error (.ofFault turn.output f)
    | none => if started then .ok turn else .error ⟨1, turn.output, none⟩

/-- All that a conversation shows: each request ends in the words of the prompt. -/
def conversationText (c : Prompt.Conversation) : String :=
  String.join (c.requests.map fun r => r.output ++ r.prompt.label) ++ c.last.output

/-- The command `repl`: takes lines until a command to leave or the end of the input. -/
def repl (s : Surroundings) (a : Arguments) (input : List String) : Exit :=
  match opening s a with
  | .error exit => exit
  | .ok turn =>
    let c := turn.prompt.converse turn.output (input.map some)
    match c.last.fault with
    | some f => .ofFault (conversationText c) f
    | none => ⟨0, conversationText c, none⟩

def runCommand (s : Surroundings) (input : List String) : Command → Exit
  | .eval a =>
    match settings s a with
    | .error exit => exit
    | .ok settings => eval (session s settings) a.others a.json
  | .repl a => repl s a input
  | .keys => ⟨0, Display.keyboard, none⟩

/-- The whole program on its arguments and the text of its input. -/
def run (s : Surroundings) (arguments : List String) (input : String) : Exit :=
  match Command.ofArguments? arguments with
  | none => .usage
  | some c => runCommand s (lines input) c

end CommandLine

end DeskCalc
