import DeskCalc.Cell
import DeskCalc.Fault

namespace DeskCalc

/-- Cells in the order in which they were added. A transcript only grows; its last cell, while it is
an input cell, is active, and the text of that cell alone can change. The index of the active cell
is kept beside the cells; `generation` counts how often it has changed, and so names the cell that
is active now. -/
@[ext] structure Transcript where
  cells : List Cell
  activeIndex : Option Nat
  generation : Nat
  deriving DecidableEq

namespace Transcript

def empty : Transcript := ⟨[], none, 0⟩

/-- The index of the last cell, if that is an input cell. -/
def lastInput (cells : List Cell) : Option Nat :=
  if cells.getLast?.any Cell.isInput then some (cells.length - 1) else none

/-- The transcript with new contents, its active cell found anew. -/
def refresh (t : Transcript) (cells : List Cell) : Transcript :=
  let activeIndex := lastInput cells
  ⟨cells, activeIndex, if activeIndex = t.activeIndex then t.generation else t.generation + 1⟩

def append (t : Transcript) (c : Cell) : Transcript := t.refresh (t.cells ++ [c])

/-- Adds several cells at once, so that the active cell changes once. -/
def extend (t : Transcript) (batch : List Cell) : Transcript :=
  if batch = [] then t else t.refresh (t.cells ++ batch)

def active? (t : Transcript) : Option String :=
  t.activeIndex.bind fun i => t.cells[i]?.bind Cell.inputText?

/-- Replaces the text of the active cell, if there is one. -/
def update? (t : Transcript) (text : String) : Option Transcript :=
  t.activeIndex.map fun i => { t with cells := t.cells.set i (.input text) }

/-- The fault of asking for a cell that is not there. -/
def outOfRange : Fault := ⟨.index, some "list index out of range"⟩

/-- The cell at an index; a negative one counts from the end. -/
def at? (t : Transcript) (index : Int) : Option Cell :=
  let i := if index < 0 then index + t.cells.length else index
  if i < 0 then none else t.cells[i.toNat]?

end Transcript

end DeskCalc
