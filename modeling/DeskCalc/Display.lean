import DeskCalc.Keyboard
import DeskCalc.Number.Shortest
import DeskCalc.Text.Document
import DeskCalc.Text.Split
import DeskCalc.Transcript

namespace DeskCalc.Display

open Text

def blanks (n : Nat) : String := .ofList (List.replicate n ' ')

def padded (width : Nat) (s : String) : String := s ++ blanks (width - s.length)

/-- A text in the middle of a line; an odd blank goes to the right. -/
def centred (width : Nat) (s : String) : String :=
  padded width (blanks ((width - s.length) / 2) ++ s)

def line (s : String) : String := s ++ "\n"

/-- The column of labels is ten wide, or as wide as a long label and a blank. -/
def labelWidth (label : String) : Nat := max 10 (label.length + 1)

/-- A label and the lines of a body beside it, which all have the width of the longest. The console
is taken to be wide enough for them, and each character to be one column wide. -/
def beside (label : String) (body : List String) : String :=
  let width := body.foldl (fun w s => max w s.length) 1
  let row (k : Nat) (s : String) : String :=
    line (padded (labelWidth label) (if k = 0 then label else "") ++ padded width s)
  String.join (body.mapIdx row)

def submitHint : String := "Enter to submit, :help for keyboard commands"

/-- The hint stands below the text of the active cell, where it is wanted. -/
def cell (index : Int) (active hints : Bool) : Cell → String
  | .input text =>
    beside ("In [" ++ toString index ++ "]:")
      (pieces '\n' text ++ if active && hints then [submitHint] else [])
  | .output results => beside "Out:" (pieces '\n' ("\n".intercalate (Result.lines results)))
  | .error text => beside "Error:" (pieces '\n' text)
  | .message text => beside "" (pieces '\n' text)

/-- `count` cells from `index` on. -/
def cellsFrom (t : Transcript) (hints : Bool) (index : Int) : (count : Nat) → Except Fault String
  | 0 => .ok ""
  | count + 1 =>
    match t.at? index with
    | none => .error Transcript.outOfRange
    | some c =>
      let shown := cell index (t.activeIndex.map Int.ofNat = some index) hints c
      (cellsFrom t hints (index + 1) count).map (shown ++ ·)

/-- The cells from `start` on and before `stop`, which is the end unless given. -/
def transcript (t : Transcript) (start : Int) (stop : Option Int) (hints : Bool) :
    Except Fault String :=
  if t.cells = [] then .ok (line "Loading engine...")
  else
    let stop : Int := stop.getD t.cells.length
    cellsFrom t hints start (stop - start).toNat

/-- The width of a key between the rules. -/
def keyWidth : Nat := 7

/-- A rule across all columns, with its left end, crossings and right end. -/
def rule (left crossing right : String) : String :=
  line (left ++ crossing.intercalate (Keyboard.layout.map fun _ =>
    .ofList (List.replicate keyWidth '─')) ++ right)

def keyRow (row : Nat) : String :=
  line ("│" ++ "│".intercalate (Keyboard.layout.map fun column =>
    centred keyWidth ((column[row]?.map Key.label).getD "")) ++ "│")

def keyboard : String :=
  let columns := Keyboard.layout.length
  let rows := Keyboard.layout.foldl (fun n column => max n column.length) 0
  line "" ++ line (centred (columns * (keyWidth + 1) + 1) "Keyboard") ++ rule "┌" "┬" "┐" ++
    (rule "├" "┼" "┤").intercalate ((List.range rows).map keyRow) ++ rule "└" "┴" "┘" ++ line ""

def factorDocument (f : Factor) : Document :=
  .record [("unit", .text f.symbol), ("exponent", .number (toString f.exponent))]

/-- A document holds finite numbers only; a double that is no number is left out. -/
def resultDocument (r : Result) : Except Fault Document :=
  let document (number : Document) : Document :=
    .record [("_str", .text r.display), ("number_float", number),
      ("unit", .list (r.unit.map factorDocument))]
  match r.value with
  | .nan => .ok (document .null)
  | .infinite _ =>
    .error (.value ("Out of range float values are not JSON compliant: " ++ r.value.text))
  | .finite .. => .ok (document (.number r.value.text))

def textDocument (type text : String) : Document :=
  .record [("type", .text type), ("text", .text text)]

def cellDocument : Cell → Except Fault Document
  | .input text => .ok (textDocument "input" text)
  | .message text => .ok (textDocument "message" text)
  | .error text => .ok (textDocument "error" text)
  | .output results => do
    let quantities ← results.mapM resultDocument
    return .record [("type", .text "output"), ("quantity", .list quantities)]

/-- A transcript as a document, unless a cell cannot be written. -/
def document (t : Transcript) : Except Fault Document :=
  (t.cells.mapM cellDocument).map .list

end DeskCalc.Display
