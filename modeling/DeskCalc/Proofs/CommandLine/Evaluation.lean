import DeskCalc.CommandLine
import DeskCalc.Proofs.Display
import DeskCalc.Proofs.Session.Outcome
import DeskCalc.Proofs.Session.Serving

namespace DeskCalc

def Cell.errorText? : Cell → Option String
  | error text => some text
  | _ => none

/-- What an engine makes of texts, one after the other, after the calls before them. -/
def Engine.answers (e : Engine) (calls : List EngineCall) : List String → List (String × Reaction)
  | [] => []
  | text :: texts =>
    (text, e.submit calls text) :: e.answers (calls ++ [.submit text]) texts

namespace Reaction

/-- The text that is offered for editing after a submission of `text`. -/
def offered (r : Reaction) (text : String) : String := if r.escaping.isNone then "" else text

/-- What a submission of `text` leaves for good: its cell, and then the reports or the one fault. -/
def passage (r : Reaction) (text : String) : List Cell :=
  .input text :: match r.escaping with
    | none => r.cells
    | some f => [.error f.description]

/-- The fault that interrupts the program, if one does. -/
def interruption? (r : Reaction) : Option Fault := r.escaping.filter (!·.isOrdinary)

end Reaction

/-- An engine source that never interrupts the program. -/
structure EngineSource.Ordinary (s : EngineSource) : Prop where
  start : ∀ f, s.start.outcome = .error f → f.isOrdinary = true
  engine : ∀ e, s.start.outcome = .ok e → e.Ordinary

theorem EngineSource.stack_ordinary : (EngineSource.given .stack).Ordinary := by
  constructor
  · intro f hf
    cases hf
  · intro e he
    rw [← Except.ok.inj he]
    exact Engine.stack_ordinary

theorem Engine.answers_texts (e : Engine) (calls : List EngineCall) (texts : List String) :
    (e.answers calls texts).map Prod.fst = texts := by
  induction texts generalizing calls with
  | nil => rfl
  | cons text texts ih => rw [answers, List.map_cons, ih]

/-- The first fault among some answers that interrupts the program, if one does. -/
def interruption? (answers : List (String × Reaction)) : Option Fault :=
  answers.findSome? (·.2.interruption?)

theorem interruption?_cons (text : String) (r : Reaction) (answers : List (String × Reaction)) :
    interruption? ((text, r) :: answers) = r.interruption?.or (interruption? answers) := by
  rw [interruption?, List.findSome?_cons]
  cases r.interruption? <;> rfl

theorem Engine.Ordinary.uninterrupted {e : Engine} (ho : e.Ordinary) (calls : List EngineCall)
    (texts : List String) : interruption? (e.answers calls texts) = none := by
  induction texts generalizing calls with
  | nil => rfl
  | cons text texts ih =>
    have hnone : (e.submit calls text).interruption? = none := by
      rw [Reaction.interruption?, Option.filter_eq_none_iff]
      intro f hf
      simp [Reaction.escaping_isOrdinary (ho calls text) hf]
    rw [answers, interruption?_cons, hnone, ih]
    rfl

/-- The fault that interrupts an evaluation of texts, in the start or after it. -/
def EngineSource.interruption? (s : EngineSource) (texts : List String) : Option Fault :=
  match s.start.outcome with
  | .ok e => DeskCalc.interruption? (e.answers [.start, .register] texts)
  | .error f => if f.isOrdinary then none else some f

/-- Reports make neither inputs nor errors. -/
theorem Cell.texts_of_isReport {cs : List Cell} (h : ∀ c ∈ cs, c.isReport = true) :
    cs.filterMap Cell.inputText? = [] ∧ cs.filterMap Cell.errorText? = [] := by
  have hnone : ∀ c ∈ cs, c.inputText? = none ∧ c.errorText? = none := by
    intro c hc
    have hr := h c hc
    cases c with
    | output | message => exact ⟨rfl, rfl⟩
    | input | error => cases hr
  refine ⟨List.filterMap_eq_nil_iff.mpr ?_, List.filterMap_eq_nil_iff.mpr ?_⟩
  · exact fun c hc => (hnone c hc).1
  · exact fun c hc => (hnone c hc).2

theorem Reaction.passage_inputs (r : Reaction) (text : String) :
    (r.passage text).filterMap Cell.inputText? = [text] := by
  unfold passage
  cases r.escaping with
  | none => exact congrArg (text :: ·) (Cell.texts_of_isReport r.cells_isReport).1
  | some f => rfl

theorem Reaction.passage_errors (r : Reaction) (text : String) :
    (r.passage text).filterMap Cell.errorText? = (r.escaping.map Fault.description).toList := by
  unfold passage
  cases r.escaping with
  | none =>
    have hnone : r.cells.filterMap Cell.errorText? = [] :=
      (Cell.texts_of_isReport r.cells_isReport).2
    exact hnone
  | some f => rfl

/-- What a list of answers leaves in a transcript. -/
def passages (answers : List (String × Reaction)) : List Cell :=
  answers.flatMap fun (text, r) => r.passage text

/-- The text that is offered after answers, where `offer` was before them. -/
def offeredAfter (offer : String) (answers : List (String × Reaction)) : String :=
  (answers.getLast?.map fun (text, r) => r.offered text).getD offer

theorem offeredAfter_cons (offer text : String) (r : Reaction)
    (answers : List (String × Reaction)) :
    offeredAfter offer ((text, r) :: answers) = offeredAfter (r.offered text) answers := by
  rw [offeredAfter, List.getLast?_cons, offeredAfter]
  cases answers.getLast? with
  | none => rfl
  | some x => rfl

theorem passages_inputs (answers : List (String × Reaction)) :
    (passages answers).filterMap Cell.inputText? = answers.map Prod.fst := by
  induction answers with
  | nil => rfl
  | cons x answers ih =>
    rw [passages, List.flatMap_cons, List.filterMap_append, Reaction.passage_inputs, ← passages, ih]
    rfl

/-- The errors of a transcript describe the faults that have escaped, in their order. -/
theorem passages_errors (answers : List (String × Reaction)) :
    (passages answers).filterMap Cell.errorText? =
      (answers.filterMap (·.2.escaping)).map Fault.description := by
  induction answers with
  | nil => rfl
  | cons x answers ih =>
    rw [passages, List.flatMap_cons, List.filterMap_append, Reaction.passage_errors, ← passages, ih,
      List.filterMap_cons]
    cases x.2.escaping <;> rfl

namespace Session

/-- A session that has made these calls and offers a text for editing behind these cells, with
nothing held back. -/
structure Offers (s : Session) (e : Engine) (calls : List EngineCall) (before : List Cell)
    (offer : String) : Prop where
  coherent : s.Coherent
  phase : s.adapter.phase = .ready e
  calls : s.adapter.calls = calls
  pending : s.adapter.pending = []
  cells : s.transcript.cells = before ++ [.input offer]

variable {s : Session} {e : Engine} {calls : List EngineCall} {before : List Cell} {offer : String}

/-- The text that is offered is the last cell, so an edit overwrites it and leaves the cells before
it alone. -/
theorem Offers.edit (h : s.Offers e calls before offer) (text : String) :
    ∃ s', s.edit text = (.ok (), s') ∧ s'.Offers e calls before text := by
  have hr : s.adapter.isReady = true := Adapter.isReady_iff.mpr ⟨e, h.phase⟩
  obtain ⟨i, -, hi, -⟩ := h.coherent.open_active hr
  have hlen := h.coherent.length_active hi
  have hi' : i = before.length := by simpa [h.cells] using hlen.symm
  have hcoherent := h.coherent.revised (s.edit_revised text)
  rw [edit_eq hi] at hcoherent
  refine ⟨_, edit_eq hi text, hcoherent, h.phase, h.calls, h.pending, ?_⟩
  have hset : s.transcript.cells.set i (.input text) = before ++ [.input text] := by
    rw [h.cells, hi', List.set_append_right _ _ (Nat.le_refl _), Nat.sub_self]
    rfl
  exact hset

/-- The offer is the active text. -/
theorem Offers.isOpen (h : s.Offers e calls before offer) : s.transcript.Open offer := by
  obtain ⟨text, hopen⟩ := h.coherent.ready (Adapter.isReady_iff.mpr ⟨e, h.phase⟩)
  have htext : text = offer := by
    have hlast := hopen.last
    rw [h.cells, List.getLast?_concat] at hlast
    exact (Cell.input.inj (Option.some.inj hlast)).symm
  rw [← htext]
  exact hopen

/-- What a submission of the text that is offered leaves. -/
theorem Offers.submit (h : s.Offers e calls before offer)
    (ho : (e.submit calls offer).interruption? = none) :
    ∃ r s', s.submit = (.ok r, s') ∧
      r.isSuccess = (e.submit calls offer).escaping.isNone ∧
      s'.Offers e (calls ++ [.submit offer]) (before ++ (e.submit calls offer).passage offer)
        ((e.submit calls offer).offered offer) := by
  have hopen := h.isOpen
  have hcoherent : s.submit.2.Coherent := h.coherent.submit
  rw [← h.calls]
  cases hx : (e.submit s.adapter.calls offer).escaping with
  | none =>
    have hs := submit_returned h.phase hopen.active? hopen.active hx
    rw [hs] at hcoherent
    refine ⟨_, _, hs, rfl, hcoherent, h.phase, rfl, rfl, ?_⟩
    calc _ = s.transcript.cells ++
          (s.adapter.pending ++ (e.submit s.adapter.calls offer).cells ++ [.input ""]) :=
        Transcript.extend_cells _ _
      _ = _ := by
        rw [h.cells, h.pending, Reaction.passage, Reaction.offered, hx]
        simp
  | some f =>
    have hf : f.isOrdinary = true := by
      rw [← h.calls, Reaction.interruption?, hx] at ho
      simpa using ho
    have hs := submit_failed h.phase hopen.active? hopen.active hx hf
    rw [hs] at hcoherent
    refine ⟨_, _, hs, rfl, hcoherent, h.phase, rfl, h.pending, ?_⟩
    calc _ = s.transcript.cells ++ [.error f.description, .input offer] :=
        Transcript.extend_cells _ _
      _ = _ := by
        rw [h.cells, Reaction.passage, Reaction.offered, hx]
        simp

theorem Offers.submitText (h : s.Offers e calls before offer) {text : String}
    (ho : (e.submit calls text).interruption? = none) :
    ∃ r s', s.submitText text = (.ok r, s') ∧
      r.isSuccess = (e.submit calls text).escaping.isNone ∧
      s'.Offers e (calls ++ [.submit text]) (before ++ (e.submit calls text).passage text)
        ((e.submit calls text).offered text) := by
  obtain ⟨s', hedit, hoffers⟩ := h.edit text
  rw [Session.submitText, hedit]
  exact hoffers.submit ho

theorem Offers.submitText_interrupted (h : s.Offers e calls before offer) {text : String}
    {f : Fault} (hf : (e.submit calls text).interruption? = some f) :
    ∃ s', s.submitText text = (.error f, s') := by
  obtain ⟨s', hedit, hoffers⟩ := h.edit text
  obtain ⟨hx, hinterrupt⟩ := Option.filter_eq_some_iff.mp hf
  have hopen := hoffers.isOpen
  rw [← hoffers.calls] at hx
  have hf' : f.isOrdinary = false := by simpa using hinterrupt
  rw [Session.submitText, hedit]
  exact ⟨_, submit_interrupted hoffers.phase hopen.active? hopen.active hx hf'⟩

theorem start_new (source : EngineSource) : (ofSource source).bootstrap =
    let (answer, a, t) := (Adapter.ofSource source).start .empty
    (answer, { ofSource source with adapter := a }.withTranscript t) :=
  rfl

theorem started_cells (source : EngineSource) :
    (source.start.cells.foldl Transcript.append .empty).cells = source.start.cells :=
  Transcript.foldl_append_cells _ _

/-- An engine that starts leaves an empty text to edit, behind the cells of what it has reported. -/
theorem bootstrap_offers {source : EngineSource} (h : source.start.outcome = .ok e) :
    ∃ s, (ofSource source).bootstrap = (.ok true, s) ∧
      s.Offers e [.start, .register] source.start.cells "" := by
  have hcoherent : (ofSource source).bootstrap.2.Coherent := (ofSource_coherent source).bootstrap
  have ha : (Adapter.ofSource source).start .empty = (.ok true,
      ⟨source, .ready e, source.start.calls, []⟩,
      (source.start.cells.foldl Transcript.append .empty).append (.input "")) := by
    simp [Adapter.start, Adapter.ofSource, h]
  rw [start_new, ha] at hcoherent ⊢
  refine ⟨_, rfl, hcoherent, rfl, source.start_calls_ok h, rfl, ?_⟩
  exact congrArg (· ++ [Cell.input ""]) (started_cells source)

theorem bootstrap_fails {source : EngineSource} {f : Fault} (h : source.start.outcome = .error f)
    (hf : f.isOrdinary = true) : ∃ s, (ofSource source).bootstrap = (.ok false, s) ∧
      s.adapter.calls = source.start.calls ∧
      s.transcript.cells = source.start.cells ++ [.error f.description] := by
  have ha : (Adapter.ofSource source).start .empty = (.ok false,
      ⟨source, .failed, source.start.calls, []⟩,
      (source.start.cells.foldl Transcript.append .empty).append (.error f.description)) := by
    simp [Adapter.start, Adapter.ofSource, h, hf]
  rw [start_new, ha]
  refine ⟨_, rfl, rfl, ?_⟩
  exact congrArg (· ++ [Cell.error f.description]) (started_cells source)

theorem bootstrap_interrupted {source : EngineSource} {f : Fault}
    (h : source.start.outcome = .error f) (hf : f.isOrdinary = false) :
    ∃ s, (ofSource source).bootstrap = (.error f, s) := by
  have ha : (Adapter.ofSource source).start .empty = (.error f,
      ⟨source, .interrupted f, source.start.calls, []⟩,
      source.start.cells.foldl Transcript.append .empty) := by
    simp [Adapter.start, Adapter.ofSource, h, hf]
  rw [start_new, ha]
  exact ⟨_, rfl⟩

end Session

namespace CommandLine

open Session

variable {s : Session} {e : Engine} {calls : List EngineCall} {before : List Cell} {offer : String}

/-- By induction on the expressions: each leaves a session that offers a text, and adds its call and
its passage. -/
theorem submitAll_offers (h : s.Offers e calls before offer) {texts : List String}
    (ho : interruption? (e.answers calls texts) = none) :
    ∃ s', submitAll s texts =
        (.ok ((e.answers calls texts).all (·.2.escaping.isNone)), s') ∧
      s'.Offers e (calls ++ texts.map .submit) (before ++ passages (e.answers calls texts))
        (offeredAfter offer (e.answers calls texts)) := by
  induction texts generalizing s calls before offer with
  | nil =>
    refine ⟨s, rfl, ?_⟩
    simpa [passages, Engine.answers, offeredAfter] using h
  | cons text texts ih =>
    rw [Engine.answers, interruption?_cons, Option.or_eq_none_iff] at ho
    obtain ⟨r, s', hs, hsuccess, hoffers⟩ := h.submitText ho.1
    obtain ⟨s'', hrest, hafter⟩ := ih hoffers ho.2
    refine ⟨s'', ?_, ?_⟩
    · rw [submitAll, hs]
      simp only [hrest, hsuccess]
      rfl
    · rw [Engine.answers, offeredAfter_cons, passages, List.flatMap_cons, ← passages]
      simpa using hafter

/-- An interruption ends the program at the expression that meets it. -/
theorem submitAll_interrupted (h : s.Offers e calls before offer) {texts : List String}
    {f : Fault} (hf : interruption? (e.answers calls texts) = some f) :
    ∃ s', submitAll s texts = (.error f, s') := by
  induction texts generalizing s calls before offer with
  | nil => cases hf
  | cons text texts ih =>
    rw [Engine.answers, interruption?_cons, Option.or_eq_some_iff] at hf
    rcases hf with hx | ⟨hx, hlater⟩
    · obtain ⟨s', hs⟩ := h.submitText_interrupted hx
      exact ⟨s', by rw [submitAll, hs]⟩
    · obtain ⟨r, s', hs, -, hoffers⟩ := h.submitText hx
      obtain ⟨s'', hrest⟩ := ih hoffers hlater
      refine ⟨s'', ?_⟩
      rw [submitAll, hs]
      simp only [hrest]
      rfl

theorem evaluate_offers {source : EngineSource} (h : source.start.outcome = .ok e)
    {texts : List String} (ho : interruption? (e.answers [.start, .register] texts) = none) :
    let answers := e.answers [.start, .register] texts
    ∃ s, evaluate (ofSource source) texts = (.ok (answers.all (·.2.escaping.isNone)), s) ∧
      s.Offers e ([.start, .register] ++ texts.map .submit)
        (source.start.cells ++ passages answers) (offeredAfter "" answers) := by
  intro answers
  obtain ⟨s, hs, hoffers⟩ := bootstrap_offers h
  obtain ⟨s', hall, hafter⟩ := submitAll_offers hoffers ho
  refine ⟨s', ?_, hafter⟩
  rw [evaluate, hs]
  exact hall

theorem evaluate_fails {source : EngineSource} {f : Fault} (h : source.start.outcome = .error f)
    (hf : f.isOrdinary = true) (texts : List String) :
    ∃ s, evaluate (ofSource source) texts = (.ok false, s) ∧
      s.adapter.calls = source.start.calls ∧
      s.transcript.cells = source.start.cells ++ [.error f.description] := by
  obtain ⟨s, hs, hcalls, hcells⟩ := bootstrap_fails h hf
  refine ⟨s, ?_, hcalls, hcells⟩
  rw [evaluate, hs]

/-- An evaluation that is interrupted comes to no end. -/
theorem evaluate_interrupted {source : EngineSource} {texts : List String} {f : Fault}
    (hf : source.interruption? texts = some f) :
    ∃ s, evaluate (ofSource source) texts = (.error f, s) := by
  unfold EngineSource.interruption? at hf
  cases h : source.start.outcome with
  | ok e =>
    rw [h] at hf
    obtain ⟨s, hs, hoffers⟩ := bootstrap_offers h
    obtain ⟨s', hs'⟩ := submitAll_interrupted hoffers hf
    refine ⟨s', ?_⟩
    rw [evaluate, hs]
    exact hs'
  | error f' =>
    rw [h] at hf
    obtain ⟨hinterrupt, rfl⟩ : f'.isOrdinary = false ∧ f' = f := by simpa using hf
    obtain ⟨s, hs⟩ := bootstrap_interrupted h hinterrupt
    exact ⟨s, by rw [evaluate, hs]⟩

theorem eval_shown {s s' : Session} {texts : List String} {succeeded json : Bool} {text : String}
    (h : evaluate s texts = (.ok succeeded, s')) (ht : shown s'.transcript json = .ok text) :
    eval s texts json = ⟨if succeeded then 0 else 1, text, none⟩ := by
  rw [eval, h]
  simp only [ht]

/-- What an evaluation that comes to an end shows, and its exit code. -/
theorem eval_text {s s' : Session} {texts : List String} {succeeded : Bool}
    (h : evaluate s texts = (.ok succeeded, s')) :
    ∃ shown, eval s texts false = ⟨if succeeded then 0 else 1, shown, none⟩ := by
  have hstop : ∀ n, none = some n → n ≤ s'.transcript.cells.length := by simp
  obtain ⟨text, ht⟩ := Display.transcript_ok s'.transcript 0 none false hstop
  exact ⟨text, eval_shown h ht⟩

/-- All expressions have succeeded exactly if the transcript shows no error. -/
theorem succeeded_iff (answers : List (String × Reaction)) :
    answers.all (·.2.escaping.isNone) = true ↔
      (passages answers).filterMap Cell.errorText? = [] := by
  rw [passages_errors, List.map_eq_nil_iff, List.filterMap_eq_nil_iff, List.all_eq_true]
  simp only [Option.isNone_iff_eq_none]

/-- The transcript of an evaluation, and its exit code. Every expression is submitted, and the
transcript holds it and what came of it in turn, the fault alone if it failed; the last one is
offered again if it failed. If the engine does not start, its fault is all that there is. The exit
code tells whether there is an error in the transcript. -/
theorem eval_transcript (source : EngineSource) (texts : List String) (ho : source.Ordinary) :
    ∃ (succeeded : Bool) (s : Session) (shown : String),
      evaluate (ofSource source) texts = (.ok succeeded, s) ∧
      eval (ofSource source) texts false =
        ⟨if s.transcript.cells.filterMap Cell.errorText? = [] then 0 else 1, shown, none⟩ ∧
      match source.start.outcome with
      | .ok e =>
        let answers := e.answers [.start, .register] texts
        let offer := offeredAfter "" answers
        s.adapter.calls = [.start, .register] ++ texts.map .submit ∧
        answers.map Prod.fst = texts ∧
        s.transcript.cells = source.start.cells ++ passages answers ++ [.input offer] ∧
        s.transcript.cells.filterMap Cell.inputText? = texts ++ [offer] ∧
        s.transcript.cells.filterMap Cell.errorText? =
          (answers.filterMap (·.2.escaping)).map Fault.description
      | .error f =>
        s.adapter.calls <+: [.start, .register] ∧
        s.transcript.cells = source.start.cells ++ [.error f.description] ∧
        s.transcript.cells.filterMap Cell.inputText? = [] ∧
        s.transcript.cells.filterMap Cell.errorText? = [f.description] := by
  obtain ⟨hinputs, herrors⟩ := Cell.texts_of_isReport source.start_isReport
  cases h : source.start.outcome with
  | ok e =>
    obtain ⟨s, hs, hoffers⟩ := evaluate_offers h ((ho.engine e h).uninterrupted _ texts)
    obtain ⟨shown, hshown⟩ := eval_text hs
    have hcells := hoffers.cells
    have he : s.transcript.cells.filterMap Cell.errorText? =
        (passages (e.answers [.start, .register] texts)).filterMap Cell.errorText? := by
      rw [hcells, List.filterMap_append, List.filterMap_append, herrors]
      exact List.append_nil _
    refine ⟨_, s, shown, hs, ?_, hoffers.calls, e.answers_texts _ texts, hcells, ?_, ?_⟩
    · simp only [hshown, he, succeeded_iff]
    · rw [hcells, List.filterMap_append, List.filterMap_append, hinputs, passages_inputs,
        e.answers_texts]
      rfl
    · rw [he, passages_errors]
  | error f =>
    obtain ⟨s, hs, hcalls, hcells⟩ := evaluate_fails h (ho.start f h) texts
    obtain ⟨shown, hshown⟩ := eval_text hs
    have he : s.transcript.cells.filterMap Cell.errorText? = [f.description] := by
      rw [hcells, List.filterMap_append, herrors]
      rfl
    refine ⟨_, s, shown, hs, ?_, ?_, hcells, ?_, he⟩
    · rw [hshown, he]
      simp
    · rw [hcalls]
      exact source.start_calls
    · rw [hcells, List.filterMap_append, hinputs]
      rfl

/-- An expression that fails is offered again, and replaced by the next one rather than extended. -/
theorem stack_eval_transcript :
    (EngineSource.given .stack).Ordinary ∧
    ∃ (s : Session) (shown : String),
      evaluate (ofSource (.given .stack)) ["+", "2 p", "1 0 /"] = (.ok false, s) ∧
      eval (ofSource (.given .stack)) ["+", "2 p", "1 0 /"] false = ⟨1, shown, none⟩ ∧
      s.transcript.cells.filterMap Cell.inputText? = ["+", "2 p", "1 0 /", "1 0 /"] ∧
      s.transcript.cells.filterMap Cell.errorText? = ["Stack underflow", "Division by zero"] := by
  have ho := EngineSource.stack_ordinary
  obtain ⟨succeeded, s, shown, hs, heval, -, -, -, hinputs, herrors⟩ :=
    eval_transcript (.given .stack) ["+", "2 p", "1 0 /"] ho
  have hfailed : (evaluate (ofSource (.given .stack)) ["+", "2 p", "1 0 /"]).1 = .ok false := by
    decide +kernel
  have hdescribed : s.transcript.cells.filterMap Cell.errorText? =
      ["Stack underflow", "Division by zero"] := by
    rw [herrors]
    decide +kernel
  rw [hs] at hfailed
  rw [hdescribed] at heval
  refine ⟨ho, s, shown, ?_, heval, ?_, hdescribed⟩
  · rw [hs, ← Except.ok.inj hfailed]
  · rw [hinputs]
    decide +kernel

end CommandLine

end DeskCalc
