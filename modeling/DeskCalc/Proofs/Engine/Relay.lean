import DeskCalc.Adapter
import Mathlib.Tactic.Common

namespace DeskCalc

/-- Whether a cell shows a report of the engine: it is no input and no error. -/
def Cell.isReport : Cell → Bool
  | .output _ | .message _ => true
  | .input _ | .error _ => false

theorem Cell.isInput_of_isReport {c : Cell} (h : c.isReport = true) : c.isInput = false := by
  cases c with
  | output | message => rfl
  | input | error => cases h

namespace Report

/-- The cell that a report becomes, nothing for one that is refused. -/
def cell? (r : Report) : Option Cell := r.cell.toOption

theorem cell_isReport {r : Report} {c : Cell} (h : r.cell = .ok c) : c.isReport = true := by
  unfold cell at h
  split at h
  · cases h
  · cases hp : Result.ofPayload r.payload with
    | error e => simp [hp, Except.map] at h
    | ok result =>
      rw [hp] at h
      cases h
      rfl
  · cases he : r.payload.elements with
    | error e => simp [he, bind, Except.bind] at h
    | ok items =>
      cases hm : items.mapM Result.ofPayload with
      | error e => simp [he, hm, bind, Except.bind] at h
      | ok results =>
        simp only [he, hm, bind, Except.bind, pure, Except.pure, Except.ok.injEq] at h
        rw [← h]
        rfl
  · cases h
    rfl

theorem cell?_eq_some_iff {r : Report} {c : Cell} : r.cell? = some c ↔ r.cell = .ok c := by
  cases h : r.cell <;> simp [cell?, h, Except.toOption]

theorem cell?_eq_none_iff {r : Report} : r.cell? = none ↔ ∃ e, r.cell = .error e := by
  cases h : r.cell <;> simp [cell?, h, Except.toOption]

/-- The fault that refuses a report, if it is refused. -/
def refusal? (r : Report) : Option Fault :=
  match r.cell with
  | .ok _ => none
  | .error e => some e.fault

end Report

namespace Reaction

/-- The fault that a call ends with: that of the first report refused, or else the engine's own. -/
def escaping (r : Reaction) : Option Fault := (r.reports.findSome? Report.refusal?).or r.fault

/-- The cells of all reports, in the order in which they were made. -/
def cells (r : Reaction) : List Cell := r.reports.filterMap Report.cell?

/-- The first report refused decides about the fault, and without one the engine does. -/
theorem relayed_fault (rs : List Report) (fault : Option Fault) :
    (relayed rs fault).2 = (rs.findSome? Report.refusal?).or fault := by
  induction rs with
  | nil => rfl
  | cons r rs ih =>
    cases hr : r.cell with
    | error e => simp [relayed, hr, Report.refusal?]
    | ok c => simp [relayed, hr, Report.refusal?, ih]

theorem relayed_cells {rs : List Report} {fault : Option Fault}
    (h : rs.findSome? Report.refusal? = none) :
    (relayed rs fault).1 = rs.filterMap Report.cell? := by
  induction rs with
  | nil => rfl
  | cons r rs ih =>
    cases hr : r.cell with
    | error e => simp [hr, Report.refusal?] at h
    | ok c =>
      have ht : rs.findSome? Report.refusal? = none := by simpa [hr, Report.refusal?] using h
      simp [relayed, hr, Report.cell?, Except.toOption, ih ht]

theorem relayed_isReport (rs : List Report) (fault : Option Fault) :
    ∀ c ∈ (relayed rs fault).1, c.isReport = true := by
  induction rs with
  | nil => simp [relayed]
  | cons r rs ih =>
    cases hr : r.cell with
    | error e => simp [relayed, hr]
    | ok c =>
      intro d hd
      simp only [relayed, hr, List.mem_cons] at hd
      rcases hd with rfl | hd
      · exact Report.cell_isReport hr
      · exact ih d hd

theorem relay_fault (r : Reaction) : r.relay.2 = r.escaping := relayed_fault r.reports r.fault

theorem relay_cells {r : Reaction} (h : r.escaping = none) : r.relay.1 = r.cells := by
  have hr : r.reports.findSome? Report.refusal? = none := (Option.or_eq_none_iff.mp h).1
  exact relayed_cells hr

theorem relay_isReport (r : Reaction) : ∀ c ∈ r.relay.1, c.isReport = true :=
  relayed_isReport r.reports r.fault

theorem cells_isReport (r : Reaction) : ∀ c ∈ r.cells, c.isReport = true := by
  intro c hc
  obtain ⟨p, -, hp⟩ := List.mem_filterMap.mp hc
  exact Report.cell_isReport (Report.cell?_eq_some_iff.mp hp)

end Reaction

/-- Starting an engine shows nothing but what the engine reports. -/
theorem EngineSource.start_isReport (s : EngineSource) :
    ∀ c ∈ s.start.cells, c.isReport = true := by
  intro c hc
  unfold start at hc
  split at hc
  · simp at hc
  · rename_i e _
    unfold Engine.start at hc
    split at hc
    · simp at hc
    · exact e.register.relay_isReport c hc

theorem Engine.start_calls_ok {e e' : Engine} (h : e.start.outcome = .ok e') :
    e.start.calls = [.start, .register] := by
  unfold start at h ⊢
  split at h
  · cases h
  · rfl

/-- A start that succeeds has made both calls. -/
theorem EngineSource.start_calls_ok {s : EngineSource} {e : Engine} (h : s.start.outcome = .ok e) :
    s.start.calls = [.start, .register] := by
  unfold start at h ⊢
  split at h
  · cases h
  · exact Engine.start_calls_ok h

/-- A start makes two calls at most, and the first of them first. -/
theorem EngineSource.start_calls (s : EngineSource) : s.start.calls <+: [.start, .register] := by
  unfold start
  split
  · exact List.nil_prefix
  · unfold Engine.start
    split
    · exact ⟨[.register], rfl⟩
    · exact List.prefix_rfl

end DeskCalc
