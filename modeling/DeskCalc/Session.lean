import DeskCalc.Adapter
import DeskCalc.Editor

namespace DeskCalc

/-- A submission is under way until the engine returns or fails. -/
inductive Submission.Status
  | submitting
  | succeeded
  | failed (description : String)
  deriving DecidableEq

def Submission.Status.name : Submission.Status → String
  | submitting => "submitting"
  | succeeded => "succeeded"
  | failed _ => "failed"

/-- The text sent, the index of its cell, and the cells that the submission added. -/
@[ext] structure Submission where
  text : String
  index : Nat
  status : Submission.Status
  cells : List Cell
  deriving DecidableEq

namespace Submission

def started (text : String) (index : Nat) : Submission := ⟨text, index, .submitting, []⟩

/-- A success is followed by a blank input cell. -/
def succeed (s : Submission) (produced : List Cell) : Submission :=
  { s with status := .succeeded, cells := produced ++ [.input ""] }

/-- A failure is described and its text offered again. -/
def fail (s : Submission) (description : String) : Submission :=
  { s with status := .failed description, cells := [.error description, .input s.text] }

def isSuccess (s : Submission) : Bool := s.status = .succeeded

def error? (s : Submission) : Option String :=
  match s.status with
  | .failed description => some description
  | _ => none

end Submission

/-- One editor, one engine, and the submissions from the one to the other. Every call gives what it
returns or the fault it ends with, and the session after it. `last` is the latest submission that
was begun. -/
structure Session where
  editor : Editor
  adapter : Adapter
  last : Option Submission

namespace Session

def ofSource (s : EngineSource) : Session := ⟨.empty, .ofSource s, none⟩

def transcript (s : Session) : Transcript := s.editor.transcript

def withTranscript (s : Session) (t : Transcript) : Session :=
  { s with editor := { s.editor with transcript := t } }

def isSubmitting (s : Session) : Bool := s.last.any (·.status = .submitting)

def bootstrap (s : Session) : Except Fault Bool × Session :=
  let (answer, adapter, transcript) := s.adapter.bootstrap s.transcript
  (answer, { s with adapter := adapter }.withTranscript transcript)

/-- A report of the engine outside a submission. -/
def deliver (s : Session) (r : Report) : Except Fault Unit × Session :=
  let (answer, adapter, transcript) := s.adapter.deliver s.transcript r
  (answer, { s with adapter := adapter }.withTranscript transcript)

/-- Hands a text to the engine without recording a submission. -/
def ask (s : Session) (text : String) : Except Fault (List Cell) × Session :=
  let (answer, adapter) := s.adapter.submit text
  (answer, { s with adapter := adapter })

/-- Records a submission that has ended and adds its cells. -/
def conclude (s : Session) (r : Submission) : Except Fault Submission × Session :=
  (.ok r, { s with last := some r }.withTranscript (s.transcript.extend r.cells))

/-- Submits the text of the active cell. A fault that is no rejected submission passes through and
leaves the submission under way. -/
def submit (s : Session) : Except Fault Submission × Session :=
  match s.transcript.active?, s.transcript.activeIndex with
  | some text, some index =>
    let r := Submission.started text index
    let (answer, s) := { s with last := some r }.ask text
    match answer with
    | .ok produced => s.conclude (r.succeed produced)
    | .error f =>
      if f.kind = .submission then s.conclude (r.fail (f.message.getD ""))
      else (.error f, s)
  | _, _ => (.error (.precondition "No active input cell to submit"), s)

def edit (s : Session) (text : String) : Except Fault Unit × Session :=
  match s.editor.setText text with
  | .ok editor => (.ok (), { s with editor := editor })
  | .error e => (.error e.fault, s)

def submitText (s : Session) (text : String) : Except Fault Submission × Session :=
  match s.edit text with
  | (.ok (), s) => s.submit
  | (.error f, s) => (.error f, s)

/-- Carries out what an action or a key came to. -/
def settle (s : Session) : Except EditError Effect → Except Fault Unit × Session
  | .ok (.edited editor) => (.ok (), { s with editor := editor })
  | .ok .submit =>
    match s.submit with
    | (.ok _, s) => (.ok (), s)
    | (.error f, s) => (.error f, s)
  | .error e => (.error e.fault, s)

def press (s : Session) (label : String) : Except Fault Unit × Session :=
  s.settle (s.editor.press label)

def act (s : Session) (a : Action) : Except Fault Unit × Session := s.settle (s.editor.act a)

def actNamed (s : Session) (name : String) : Except Fault Unit × Session :=
  s.settle (s.editor.actNamed name)

/-- Inserts a token and gives the new text of the active cell. -/
def insert (s : Session) (token className : String) : Except Fault String × Session :=
  match s.editor.insertNamed token className with
  | .ok (text, editor) => (.ok text, { s with editor := editor })
  | .error e => (.error e.fault, s)

/-- Toggles a modifier and gives the one that is selected then. -/
def toggle (s : Session) (symbol : String) : Except Fault (Option Modifier) × Session :=
  match s.editor.toggleNamed symbol with
  | .ok editor => (.ok editor.composer.modifier, { s with editor := editor })
  | .error e => (.error e.fault, s)

end Session

end DeskCalc
