import DeskCalc.Display
import DeskCalc.Session
import DeskCalc.Text.Markup
import DeskCalc.Text.Split

namespace DeskCalc

open Text

/-- A session driven line by line. A plain line replaces the active text and submits it, an empty
one submits what has been composed, and one that begins with a colon is a command for the keyboard.
Cells are shown once, when they are settled; the active one is the prompt itself. The cells before
`printed` have been shown. -/
structure Prompt where
  session : Session
  showHints : Bool
  printed : Nat
  running : Bool

/-- What a line comes to: the text shown, the prompt after it, and a fault that nothing caught. -/
structure Turn where
  output : String
  prompt : Prompt
  fault : Option Fault

namespace Turn

def silent (p : Prompt) : Turn := ⟨"", p, none⟩

def failed (p : Prompt) (f : Fault) : Turn := ⟨"", p, some f⟩

/-- Shows a text, unless making it ended with a fault. -/
def showing (p : Prompt) : Except Fault String → Turn
  | .ok output => ⟨output, p, none⟩
  | .error f => .failed p f

/-- Goes on with `next` unless there is a fault. -/
def andThen (t : Turn) (next : Prompt → Turn) : Turn :=
  match t.fault with
  | some _ => t
  | none =>
    let rest := next t.prompt
    { rest with output := t.output ++ rest.output }

end Turn

namespace Prompt

def ofSession (s : Session) (showHints : Bool) : Prompt := ⟨s, showHints, 0, true⟩

def withSession (p : Prompt) (s : Session) : Prompt := { p with session := s }

def label (p : Prompt) : String :=
  let index := match p.session.transcript.activeIndex with
    | some i => toString i
    | none => "None"
  "In [" ++ index ++ "]: "

def say (p : Prompt) (markup : String) : Turn :=
  .showing p (((plainText markup).map Display.line).mapError Markup.Error.fault)

/-- Where the cells that can be shown end. -/
def settled (p : Prompt) : Nat :=
  p.session.transcript.activeIndex.getD p.session.transcript.cells.length

/-- Shows the settled cells that have not been shown. -/
def flush (p : Prompt) : Turn :=
  (Turn.showing p (Display.transcript p.session.transcript p.printed (some p.settled) false)).andThen
    fun p => .silent { p with printed := max p.printed p.settled }

/-- Shows the active text and the modifier selected, if any. -/
def preview (p : Prompt) : Turn :=
  let modifier := match p.session.editor.composer.modifier with
    | some m => "  [magenta](" ++ m.symbol ++ "*)[/magenta]"
    | none => ""
  let text := (p.session.transcript.active?.map Markup.escape).getD ""
  p.say ("[dim]" ++ Markup.escape p.label ++ "[/dim]" ++ text ++ modifier)

/-- After an edit: a submission has moved the active cell, and leaves cells to show. -/
def afterEdit (p : Prompt) : Turn :=
  if p.printed < p.session.transcript.activeIndex.getD 0 then p.flush else p.preview

/-- A call on the session, which may end with a fault. -/
def call {α : Type} (p : Prompt) (f : Session → Except Fault α × Session) : Turn :=
  match f p.session with
  | (.ok _, s) => .silent (p.withSession s)
  | (.error fault, s) => .failed (p.withSession s) fault

def submit (p : Prompt) : Turn := (p.call Session.submit).andThen flush

def submitText (p : Prompt) (text : String) : Turn := (p.call (·.submitText text)).andThen flush

def help : String :=
  ":key LABEL...   press virtual keys by label, e.g. :key 1 2 + \"(m)\"\n" ++
  ":mod M          toggle a unit modifier (k c d m u n)\n" ++
  ":space          append a space            :newline   append a newline\n" ++
  ":bs             delete the last character :clear     empty the input\n" ++
  ":submit         submit the input          :show      redraw the transcript\n" ++
  ":keys           show the keyboard         :quit      leave\n"

/-- The commands that are actions of the keyboard. -/
def actionCommand? (name : String) : Option Action :=
  [("space", .space), ("newline", .newline), ("bs", .backspace), ("clear", .clear),
    ("submit", .submit)].lookup name

def pressAll (p : Prompt) : List String → Turn
  | [] => .silent p
  | label :: labels => (p.call (·.press label)).andThen fun p => p.pressAll labels

def showAll (p : Prompt) : Turn :=
  .showing p (Display.transcript p.session.transcript 0 none p.showHints)

def carryOut (p : Prompt) (name : String) (arguments : List String) : Turn :=
  if ["quit", "q", "exit"].contains name then .silent { p with running := false }
  else if name = "help" then ⟨Display.line help, p, none⟩
  else if name = "keys" then ⟨Display.keyboard, p, none⟩
  else if name = "show" then p.showAll
  else if name = "key" then (p.pressAll arguments).andThen afterEdit
  else if name = "mod" then
    match arguments with
    | [symbol] => (p.call (·.toggle symbol)).andThen preview
    | _ => p.say "[red]Usage: :mod M[/red]"
  else
    match actionCommand? name with
    | some a => (p.call (·.act a)).andThen afterEdit
    | none => p.say ("[red]Unknown command: :" ++ Markup.escape name ++ "[/red] (try :help)")

/-- A mistake in a command: an unknown key, or a value that does not fit. -/
def isMistake (f : Fault) : Bool := f.kind = .key || f.kind = .value

/-- Shows the message of a mistake; other faults stay. -/
def explained (t : Turn) : Turn :=
  match t.fault with
  | none => t
  | some f =>
    if isMistake f then
      { t with fault := none }.andThen
        (·.say ("[red]" ++ Markup.escape (f.message.getD "") ++ "[/red]"))
    else t

def command (p : Prompt) (text : String) : Turn :=
  match words text with
  | .error e => p.say ("[red]" ++ Markup.escape e.message ++ "[/red]")
  | .ok [] => .silent p
  | .ok (name :: arguments) => explained (p.carryOut name arguments)

def handle (p : Prompt) (line : String) : Turn :=
  match line.toList with
  | ':' :: rest => p.command (.ofList rest)
  | [] => p.submit
  | _ => p.submitText line

def greeting : String := "[dim]unitdc console. Type :help for keyboard commands.[/dim]"

/-- Starts the engine and shows what there is; says whether lines can be taken. -/
def start (p : Prompt) : Turn × Bool :=
  let (answer, session) := p.session.bootstrap
  let p := p.withSession session
  match answer with
  | .error f => (.failed p f, false)
  | .ok false => (.showing p (Display.transcript session.transcript 0 none false), false)
  | .ok true => ((if p.showHints then p.say greeting else .silent p).andThen flush, true)

/-- A request for a line: what has been shown since the one before, and the prompt at that time. -/
structure Request where
  output : String
  prompt : Prompt

/-- A conversation: the requests for lines, and what came after the last of them. -/
structure Conversation where
  requests : List Request
  last : Turn

/-- Takes lines until one ends the conversation. A missing line is a break, which ends it as the end
of the input does. `output` has been shown since the last request. -/
def converse (p : Prompt) (output : String) : List (Option String) → Conversation
  | some line :: rest =>
    if p.running then
      let turn := p.handle line
      match turn.fault with
      | some _ => ⟨[⟨output, p⟩], turn⟩
      | none =>
        let after := turn.prompt.converse turn.output rest
        ⟨⟨output, p⟩ :: after.requests, after.last⟩
    else ⟨[], ⟨output, p, none⟩⟩
  | _ => if p.running then ⟨[⟨output, p⟩], ⟨Display.line "", p, none⟩⟩ else ⟨[], ⟨output, p, none⟩⟩

end Prompt

end DeskCalc
