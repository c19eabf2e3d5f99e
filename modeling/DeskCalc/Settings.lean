import DeskCalc.Engine.Stack
import DeskCalc.Text.Case
import DeskCalc.Text.Character

namespace DeskCalc

open Text

inductive LogLevel
  | debug
  | info
  | warning
  | error
  | critical
  deriving DecidableEq

namespace LogLevel

def name : LogLevel → String
  | debug => "DEBUG"
  | info => "INFO"
  | warning => "WARNING"
  | error => "ERROR"
  | critical => "CRITICAL"

def all : List LogLevel := [debug, info, warning, error, critical]

/-- Upper case as far as names of levels go: of the letters beyond ASCII only the dotless `ı` has an
upper case that stands in one. -/
def upper (c : Char) : Char := if c = 'ı' then 'I' else c.toUpper

/-- The level that a text names, in any case and with blanks around it. -/
def ofText? (text : String) : Option LogLevel :=
  let name := String.ofList ((trimmed isBlank text.toList).map upper)
  all.find? (·.name = name)

end LogLevel

inductive SettingsError
  | invalidLevel (text : String)
  deriving DecidableEq

def SettingsError.message : SettingsError → String
  | invalidLevel text =>
    "Invalid log level: " ++ text ++ ". Choose: " ++ ", ".intercalate (LogLevel.all.map LogLevel.name)

def SettingsError.fault (e : SettingsError) : Fault := .value e.message

/-- The settings of the console. They come from the environment, and options given on the command
line go before it. -/
structure Settings where
  engine : String
  logLevel : LogLevel
  showHints : Bool
  deriving DecidableEq

namespace Settings

def level (text : String) : Except SettingsError LogLevel :=
  match LogLevel.ofText? text with
  | some l => .ok l
  | none => .error (.invalidLevel text)

def isTrue (text : String) : Bool :=
  ["1", "true", "yes", "on"].contains (.ofList (lowerCase (trimmed isBlank text.toList)))

def ofEnvironment (lookUp : String → Option String) : Except SettingsError Settings := do
  let logLevel ← level ((lookUp "UNITDC_LOG_LEVEL").getD LogLevel.warning.name)
  return ⟨(lookUp "UNITDC_ENGINE").getD Catalog.defaultPath, logLevel,
    isTrue ((lookUp "UNITDC_HINTS").getD "1")⟩

/-- An option that is given and not empty. -/
def given (option : Option String) : Option String := option.filter (· ≠ "")

/-- The settings with the options in front of them. -/
def override (s : Settings) (engine logLevel : Option String) : Except SettingsError Settings := do
  let s := { s with engine := (given engine).getD s.engine }
  match given logLevel with
  | none => return s
  | some text => return { s with logLevel := ← level text }

end Settings

end DeskCalc
