import DeskCalc.Display
import DeskCalc.Report
import Mathlib.Tactic.Common

namespace DeskCalc

open Text

namespace Payload

mutual

/-- The document that a payload is written as. It has finite numbers only, and its keys are texts. -/
def document? : Payload → Option Document
  | null => some .null
  | int n => some (.number (toString n))
  | float x => if x.isFinite then some (.number x.text) else none
  | text s => some (.text s)
  | list items => (documents? items).map .list
  | dict entries => (fields? entries).map .record
  | bool _ | result _ => none

def documents? : List Payload → Option (List Document)
  | [] => some []
  | p :: ps => (document? p).bind fun d => (documents? ps).map (d :: ·)

def fields? : List (Payload × Payload) → Option (List (String × Document))
  | [] => some []
  | (text name, p) :: rest => (document? p).bind fun d => (fields? rest).map ((name, d) :: ·)
  | _ :: _ => none

end

theorem find?_text (key name : String) (p : Payload) (rest : List (Payload × Payload)) :
    find? key ((text name, p) :: rest) = if name = key then some p else find? key rest := by
  by_cases h : name = key <;> simp [find?, isText, h]

end Payload

/-- The dictionary that stands for a cell. -/
def Cell.payload : Cell → Payload
  | input s => worded "input" s
  | message s => worded "message" s
  | error s => worded "error" s
  | output results =>
    .dict [(.text "type", .text "output"),
      (.text "quantity", .list (results.map Result.payload))]
where
  worded (type s : String) : Payload :=
    .dict [(.text "type", .text type), (.text "text", .text s)]

/-- Items are read in order from what each of them is written as. -/
theorem mapM_written {α β ε : Type} {read : β → Except ε α} {written : α → β}
    (h : ∀ x, read (written x) = .ok x) (xs : List α) : (xs.map written).mapM read = .ok xs := by
  have hread : read ∘ written = fun x => pure (id x) := funext h
  rw [List.mapM_map, hread, List.mapM_pure, List.map_id]
  rfl

namespace Result

theorem factorOfPayload_factorPayload (f : Factor) :
    factorOfPayload (factorPayload f) = .ok f := by
  have he : (Payload.int f.exponent).toInt = .ok f.exponent := rfl
  simp [factorPayload, factorOfPayload, Payload.find?_text, he, bind, Except.bind, pure,
    Except.pure, Payload.toText]

/-- A number that is none is left out and read as none; all others are read as they are. -/
theorem valueOfPayload_number (x : Double) :
    valueOfPayload (if x.isNaN then .null else .float x) = .ok x := by
  cases x <;> rfl

/-- A result is read from the dictionary that reports it just as it was. -/
theorem ofPayload_payload (r : Result) : ofPayload r.payload = .ok r := by
  have hunit : (r.unit.map factorPayload).mapM factorOfPayload = .ok r.unit :=
    mapM_written factorOfPayload_factorPayload r.unit
  have hvalue := valueOfPayload_number r.value
  simp [payload, ofPayload, Payload.find?_text, Payload.elements, hunit, hvalue, bind,
    Except.bind, pure, Except.pure, Payload.toText]

end Result

namespace Report

theorem cell_result (r : Result) : cell ⟨Kind.quantity.name, r.payload⟩ = .ok (.output [r]) := by
  have hk : Kind.ofName? Kind.quantity.name = some .quantity := by decide
  simp only [cell, hk, r.ofPayload_payload]
  rfl

/-- A list of results comes back in the order in which it was reported. -/
theorem cell_results (rs : List Result) :
    cell ⟨Kind.quantityList.name, .list (rs.map Result.payload)⟩ = .ok (.output rs) := by
  have hk : Kind.ofName? Kind.quantityList.name = some .quantityList := by decide
  have hread : (rs.map Result.payload).mapM Result.ofPayload = .ok rs :=
    mapM_written Result.ofPayload_payload rs
  simp only [cell, hk, Payload.elements, bind, Except.bind, hread]
  rfl

end Report

namespace Payload

end Payload

namespace Display

end Display

end DeskCalc
