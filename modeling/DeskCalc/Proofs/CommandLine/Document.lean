import DeskCalc.Proofs.CommandLine.Evaluation
import DeskCalc.Proofs.Report

namespace DeskCalc

open Text

namespace Text.Document

mutual

def numbers : Document → List String
  | null | text _ => []
  | number digits => [digits]
  | list items => numbersOfItems items
  | record entries => numbersOfEntries entries

def numbersOfItems : List Document → List String
  | [] => []
  | d :: ds => numbers d ++ numbersOfItems ds

def numbersOfEntries : List (String × Document) → List String
  | [] => []
  | (_, d) :: rest => numbers d ++ numbersOfEntries rest

end

/-- All numbers of a document are whole or finite doubles. -/
def Finite (d : Document) : Prop :=
  ∀ digits ∈ d.numbers, (∃ n : Int, digits = toString n) ∨
    ∃ x : Double, x.isFinite = true ∧ digits = x.text

theorem finite_list {items : List Document} (h : ∀ d ∈ items, d.Finite) : (list items).Finite := by
  induction items with
  | nil => simp [Finite, numbers, numbersOfItems]
  | cons d items ih =>
    obtain ⟨hd, hitems⟩ := List.forall_mem_cons.mp h
    intro digits hdigits
    rw [numbers, numbersOfItems, List.mem_append] at hdigits
    rcases hdigits with hdigits | hdigits
    · exact hd digits hdigits
    · exact ih hitems digits hdigits

theorem finite_record {entries : List (String × Document)}
    (h : ∀ entry ∈ entries, entry.2.Finite) : (record entries).Finite := by
  induction entries with
  | nil => simp [Finite, numbers, numbersOfEntries]
  | cons entry entries ih =>
    obtain ⟨hentry, hentries⟩ := List.forall_mem_cons.mp h
    intro digits hdigits
    rw [numbers, numbersOfEntries, List.mem_append] at hdigits
    rcases hdigits with hdigits | hdigits
    · exact hentry digits hdigits
    · exact ih hentries digits hdigits

theorem finite_text (s : String) : (text s).Finite := by simp [Finite, numbers]

theorem finite_null : null.Finite := by simp [Finite, numbers]

end Text.Document

namespace Display

def unwritable (negative : Bool) : Fault :=
  .value ("Out of range float values are not JSON compliant: " ++ (Double.infinite negative).text)

/-- What is to be written holds an infinite number and cannot be, or is written. -/
def Written {α : Type} (infinite : Bool) (x : Except Fault α) : Prop :=
  if infinite then ∃ negative, x = .error (unwritable negative) else ∃ y, x = .ok y

/-- A list is written unless one of its entries holds an infinite number. -/
theorem written_mapM {α β : Type} {f : α → Except Fault β} {infinite : α → Bool}
    (h : ∀ x, Written (infinite x) (f x)) (xs : List α) :
    Written (xs.any infinite) (xs.mapM f) := by
  induction xs with
  | nil => exact ⟨[], rfl⟩
  | cons x xs ih =>
    have hx := h x
    rw [List.mapM_cons, List.any_cons]
    cases hi : infinite x with
    | true =>
      rw [hi] at hx
      obtain ⟨negative, he⟩ := hx
      exact ⟨negative, by rw [he]; rfl⟩
    | false =>
      rw [hi] at hx
      obtain ⟨y, hy⟩ := hx
      rw [hy, Bool.false_or]
      cases ha : xs.any infinite with
      | true =>
        rw [ha] at ih
        obtain ⟨negative, he⟩ := ih
        exact ⟨negative, by rw [he]; rfl⟩
      | false =>
        rw [ha] at ih
        obtain ⟨ys, hys⟩ := ih
        exact ⟨y :: ys, by rw [hys]; rfl⟩

theorem Written.map {α β : Type} {infinite : Bool} {x : Except Fault α} (h : Written infinite x)
    (f : α → β) : Written infinite (x.map f) := by
  cases infinite with
  | true =>
    obtain ⟨negative, he⟩ := h
    exact ⟨negative, by rw [he]; rfl⟩
  | false =>
    obtain ⟨y, hy⟩ := h
    exact ⟨f y, by rw [hy]; rfl⟩

theorem Written.ok_iff {α : Type} {infinite : Bool} {x : Except Fault α} (h : Written infinite x) :
    (∃ y, x = .ok y) ↔ infinite = false := by
  cases infinite with
  | true =>
    obtain ⟨negative, he⟩ := h
    simp [he]
  | false =>
    obtain ⟨y, hy⟩ := h
    simp [hy]

theorem written_result (r : Result) : Written r.value.isInfinite (resultDocument r) := by
  unfold resultDocument
  cases r.value with
  | nan => exact ⟨_, rfl⟩
  | infinite negative => exact ⟨negative, rfl⟩
  | finite negative m e => exact ⟨_, rfl⟩

theorem written_cell (c : Cell) : Written c.holdsInfinity (cellDocument c) := by
  cases c with
  | output results => exact (written_mapM written_result results).map _
  | input text | message text | error text => exact ⟨_, rfl⟩

/-- One infinite number is enough to lose the whole document. -/
theorem written_document (t : Transcript) :
    Written (t.cells.any Cell.holdsInfinity) (document t) :=
  (written_mapM written_cell t.cells).map _

theorem finite_factor (f : Factor) : (factorDocument f).Finite := by
  have hexponent : (Document.number (toString f.exponent)).Finite := by
    intro digits hdigits
    exact .inl ⟨f.exponent, List.mem_singleton.mp hdigits⟩
  apply Document.finite_record
  intro entry hentry
  rcases List.mem_pair.mp hentry with rfl | rfl
  · exact Document.finite_text f.symbol
  · exact hexponent

theorem finite_result {r : Result} {d : Document} (h : resultDocument r = .ok d) : d.Finite := by
  have hunit : (Document.list (r.unit.map factorDocument)).Finite := by
    apply Document.finite_list
    intro item hitem
    obtain ⟨f, -, rfl⟩ := List.mem_map.mp hitem
    exact finite_factor f
  have hrecord {number : Document} (hn : number.Finite) :
      (Document.record [("_str", .text r.display), ("number_float", number),
        ("unit", .list (r.unit.map factorDocument))]).Finite := by
    apply Document.finite_record
    simp [hn, hunit, Document.finite_text]
  unfold resultDocument at h
  cases hv : r.value with
  | nan =>
    simp only [hv] at h
    rw [← Except.ok.inj h]
    exact hrecord Document.finite_null
  | infinite negative => simp [hv] at h
  | finite negative m e =>
    have hnumber : (Document.number (Double.finite negative m e).text).Finite := by
      intro digits hdigits
      exact .inr ⟨.finite negative m e, rfl, List.mem_singleton.mp hdigits⟩
    simp only [hv] at h
    rw [← Except.ok.inj h]
    exact hrecord hnumber

theorem finite_items {α : Type} {f : α → Except Fault Document} {xs : List α}
    {ds : List Document} (hf : ∀ x d, f x = .ok d → d.Finite) (h : xs.mapM f = .ok ds) :
    (Document.list ds).Finite := by
  apply Document.finite_list
  have hall := forall₂_of_mapM h
  clear h
  induction hall with
  | nil => simp
  | cons hd _ ih => exact List.forall_mem_cons.mpr ⟨hf _ _ hd, ih⟩

theorem finite_cell {c : Cell} {d : Document} (h : cellDocument c = .ok d) : d.Finite := by
  have htext (type text : String) : (textDocument type text).Finite := by
    apply Document.finite_record
    simp [Document.finite_text]
  cases c with
  | input text | message text | error text =>
    rw [← Except.ok.inj h]
    exact htext _ text
  | output results =>
    cases hm : results.mapM resultDocument with
    | error f => simp [cellDocument, hm, bind, Except.bind] at h
    | ok quantities =>
      have hd : Document.record [("type", .text "output"), ("quantity", .list quantities)] = d := by
        simpa [cellDocument, hm, bind, Except.bind, pure, Except.pure] using h
      have hitems : (Document.list quantities).Finite :=
        finite_items (fun _ _ hr => finite_result hr) hm
      rw [← hd]
      apply Document.finite_record
      simp [hitems, Document.finite_text]

/-- The numbers of a document are finite: one that is infinite would have kept it from being
written, and what is no number is left out. -/
theorem finite_document {t : Transcript} {d : Document} (h : document t = .ok d) :
    d.Finite := by
  cases hm : t.cells.mapM cellDocument with
  | error f => simp [document, hm, Except.map] at h
  | ok items =>
    have hd : Document.list items = d := by simpa [document, hm, Except.map] using h
    rw [← hd]
    exact finite_items (fun _ _ hc => finite_cell hc) hm

end Display

/-- The reports of a registration that are not refused, up to the first that is. -/
def EngineSource.heard (s : EngineSource) : List Report :=
  match s.load with
  | .error _ => []
  | .ok e =>
    if e.startFault.isSome then [] else e.register.reports.takeWhile (·.cell?.isSome)

def keptReports (answers : List (String × Reaction)) : List Report :=
  (answers.filter (·.2.escaping.isNone)).flatMap (·.2.reports)

/-- The reports that an evaluation of texts shows. -/
def EngineSource.shown (s : EngineSource) (texts : List String) : List Report :=
  s.heard ++ match s.start.outcome with
    | .ok e => keptReports (e.answers [.start, .register] texts)
    | .error _ => []

theorem Reaction.relayed_takeWhile (rs : List Report) (fault : Option Fault) :
    (relayed rs fault).1 = (rs.takeWhile (·.cell?.isSome)).filterMap Report.cell? := by
  induction rs with
  | nil => rfl
  | cons r rs ih =>
    cases hr : r.cell with
    | error e => simp [relayed, hr, Report.cell?, Except.toOption]
    | ok c =>
      have hc : r.cell? = some c := Report.cell?_eq_some_iff.mpr hr
      simp [relayed, hr, hc, ih]

theorem EngineSource.start_cells (s : EngineSource) :
    s.start.cells = s.heard.filterMap Report.cell? := by
  unfold start heard
  cases s.load with
  | error f => rfl
  | ok e =>
    simp only [Engine.start]
    cases e.startFault with
    | some f => rfl
    | none => exact Reaction.relayed_takeWhile _ _

theorem EngineSource.heard_accepted (s : EngineSource) :
    ∀ r ∈ s.heard, r.cell?.isSome = true := by
  intro r hr
  unfold heard at hr
  split at hr
  · cases hr
  · split at hr
    · cases hr
    · exact List.mem_takeWhile_imp (p := fun r : Report => r.cell?.isSome) hr

theorem Reaction.reports_accepted {r : Reaction} (h : r.escaping = none) :
    ∀ p ∈ r.reports, p.cell?.isSome = true := by
  intro p hp
  have hrefusal := List.findSome?_eq_none_iff.mp (Option.or_eq_none_iff.mp h).1 p hp
  unfold Report.refusal? at hrefusal
  split at hrefusal
  · rename_i c hc
    rw [Report.cell?_eq_some_iff.mpr hc]
    rfl
  · cases hrefusal

/-- A submission brings an infinite number into the transcript only by a report, and only if no
fault escapes from it. -/
theorem Reaction.passage_holdsInfinity (r : Reaction) (text : String) :
    (r.passage text).any Cell.holdsInfinity =
      (r.escaping.isNone && r.reports.any Report.statesInfinity) := by
  unfold passage
  cases h : r.escaping with
  | none => exact Report.cells_holdInfinity (reports_accepted h)
  | some f => rfl

theorem passages_holdInfinity (answers : List (String × Reaction)) :
    (passages answers).any Cell.holdsInfinity =
      (keptReports answers).any Report.statesInfinity := by
  induction answers with
  | nil => rfl
  | cons x answers ih =>
    rw [passages, List.flatMap_cons, List.any_append, Reaction.passage_holdsInfinity, ← passages,
      ih, keptReports, keptReports, List.filter_cons]
    cases x.2.escaping.isNone <;> simp

namespace CommandLine

open Session Display

/-- Whether the transcript of an evaluation holds an infinite number. -/
theorem evaluate_holdsInfinity {source : EngineSource} {texts : List String}
    (hn : source.interruption? texts = none) : ∃ succeeded s,
      evaluate (ofSource source) texts = (.ok succeeded, s) ∧
      s.transcript.cells.any Cell.holdsInfinity =
        (source.shown texts).any Report.statesInfinity := by
  have hheard : source.start.cells.any Cell.holdsInfinity =
      source.heard.any Report.statesInfinity := by
    rw [source.start_cells]
    exact Report.cells_holdInfinity source.heard_accepted
  unfold EngineSource.interruption? at hn
  cases h : source.start.outcome with
  | ok e =>
    rw [h] at hn
    obtain ⟨s, hs, hoffers⟩ := evaluate_offers h hn
    refine ⟨_, s, hs, ?_⟩
    rw [hoffers.cells, List.any_append, List.any_append, hheard, passages_holdInfinity,
      EngineSource.shown, h, List.any_append]
    exact Bool.or_false _
  | error f =>
    have hf : f.isOrdinary = true := by
      rw [h] at hn
      simpa using hn
    obtain ⟨s, hs, -, hcells⟩ := evaluate_fails h hf texts
    refine ⟨false, s, hs, ?_⟩
    rw [hcells, List.any_append, hheard, EngineSource.shown, h, List.any_append]
    rfl

/-- What an evaluation that comes to an end shows as a document, if it can. -/
theorem eval_document {s s' : Session} {texts : List String} {succeeded : Bool}
    (h : evaluate s texts = (.ok succeeded, s')) :
    if s'.transcript.cells.any Cell.holdsInfinity then
      ∃ negative, eval s texts true = ⟨1, "", some (unwritable negative)⟩
    else ∃ d, document s'.transcript = .ok d ∧
      eval s texts true = ⟨if succeeded then 0 else 1, line (d.indented 0), none⟩ := by
  have hw := written_document s'.transcript
  cases hi : s'.transcript.cells.any Cell.holdsInfinity with
  | true =>
    rw [hi] at hw
    obtain ⟨negative, he⟩ := hw
    have hshown : shown s'.transcript true = .error (unwritable negative) := by
      rw [shown, if_pos rfl, he]
      rfl
    refine ⟨negative, ?_⟩
    rw [eval, h]
    simp only [hshown]
    rfl
  | false =>
    rw [hi] at hw
    obtain ⟨d, hd⟩ := hw
    have hshown : shown s'.transcript true = .ok (line (d.indented 0)) := by
      rw [shown, if_pos rfl, hd]
      rfl
    exact ⟨d, hd, eval_shown h hshown⟩

/-- A transcript can be written as a document exactly if no cell holds an infinite number, and the
numbers of the document are finite; a cell holds an infinite number exactly if the report behind it
states one. So an evaluation that is to show its transcript as a document, and comes to an end
without being interrupted, does so unless one of the reports shown states an infinite number, and
shows nothing then. -/
theorem document_written_iff_finite (source : EngineSource) (texts : List String) :
    (∀ t : Transcript, (∃ d, document t = .ok d) ↔ t.cells.any Cell.holdsInfinity = false) ∧
    (∀ (t : Transcript) (d : Document), document t = .ok d → d.Finite) ∧
    (∀ (r : Report) (c : Cell), r.cell = .ok c → c.holdsInfinity = r.statesInfinity) ∧
    match source.interruption? texts with
    | some f => eval (ofSource source) texts true = .ofFault "" f
    | none =>
      ∃ (succeeded : Bool) (s : Session),
        evaluate (ofSource source) texts = (.ok succeeded, s) ∧
        if (source.shown texts).any Report.statesInfinity then
          ∃ negative, eval (ofSource source) texts true = ⟨1, "", some (unwritable negative)⟩
        else ∃ d, document s.transcript = .ok d ∧
          eval (ofSource source) texts true =
            ⟨if succeeded then 0 else 1, line (d.indented 0), none⟩ := by
  refine ⟨fun t => (written_document t).ok_iff, fun t d h => finite_document h,
    fun r c h => Report.cell_holdsInfinity h, ?_⟩
  cases hn : source.interruption? texts with
  | some f =>
    obtain ⟨s, hs⟩ := evaluate_interrupted hn
    dsimp only
    rw [eval, hs]
  | none =>
    obtain ⟨succeeded, s, hs, hi⟩ := evaluate_holdsInfinity hn
    refine ⟨succeeded, s, hs, ?_⟩
    rw [← hi]
    exact eval_document hs

/-- An engine that answers every text with an infinite number. -/
def overflowing : Engine where
  label := "overflowing"
  startFault := none
  register := .silent
  submit _ _ := ⟨[⟨"quantity", .dict [(.text "_str", .text "inf"),
    (.text "number_float", .float (.infinite false))]⟩], none⟩

/-- Each report of the engine makes a cell and the submission succeeds, and still nothing is shown
of the transcript. -/
theorem infinite_number_loses_document :
    (evaluate (ofSource (.given overflowing)) ["x"]).1 = .ok true ∧
      (evaluate (ofSource (.given overflowing)) ["x"]).2.transcript.cells =
        [.input "x", .output [⟨"inf", .infinite false, []⟩], .input ""] ∧
      eval (ofSource (.given overflowing)) ["x"] true =
        ⟨1, "", some (.value "Out of range float values are not JSON compliant: inf")⟩ := by
  decide +kernel

end CommandLine

end DeskCalc
