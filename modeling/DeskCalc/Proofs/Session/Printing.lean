import DeskCalc.Engine.Stack
import DeskCalc.Proofs.Machine.Printing
import DeskCalc.Proofs.Report.RoundTrip
import DeskCalc.Proofs.Session.Boundary

namespace DeskCalc

/-- What is printed is reported as a payload that makes an output cell, with the same results. -/
theorem Printout.cell_report (p : Printout) : p.report.cell = .ok (.output p.results) := by
  cases p with
  | one r => exact Report.cell_result r
  | all rs => exact Report.cell_results rs

theorem Outcome.cells_reaction (o : Outcome) :
    o.reaction.cells = o.printed.map fun p => .output p.results := by
  have hcell : Report.cell? ∘ Printout.report = fun p => some (.output p.results) :=
    funext fun p => Report.cell?_eq_some_iff.mpr p.cell_report
  rw [Reaction.cells, reaction, List.filterMap_map, hcell, List.filterMap_eq_map']

/-- Nothing escapes from a reaction of the machine unless the run has failed. -/
theorem Outcome.error_of_escaping {o : Outcome} (h : o.reaction.escaping = none) :
    o.error = none := by
  have hfault : o.error.map MachineError.fault = none := (Option.or_eq_none_iff.mp h).2
  exact Option.map_eq_none_iff.mp hfault

namespace Machine

/-- A machine that has been given a callback is heard, whatever it is given to run. -/
theorem listening_after (texts : List String) :
    (after ([.start, .register] ++ texts.map .submit)).listening = true := by
  induction texts using List.reverseRecOn with
  | nil => rfl
  | append_singleton texts text ih =>
    rw [List.map_append, ← List.append_assoc, after, List.foldl_append, ← after]
    exact (listening_run _ text).trans ih

end Machine

/-- Before the start nothing has been called; a start that has succeeded has made two calls, and
only submissions have followed. -/
def Adapter.Called (a : Adapter) : Prop :=
  match a.phase with
  | .idle => a.calls = []
  | .ready _ => ∃ texts : List String, a.calls = [.start, .register] ++ texts.map .submit
  | _ => True

namespace Session

variable {s : Session}

theorem called_bootstrap (h : s.adapter.Called) : s.bootstrap.2.adapter.Called := by
  by_cases hp : s.adapter.phase = .idle
  · rw [Adapter.Called, hp] at h
    rw [bootstrap_first hp]
    rcases s.adapter.start_cases s.transcript with ⟨e, hok, he⟩ | ⟨f, -, -, he⟩ | ⟨f, -, -, he⟩
    · rw [he]
      have hcalls : s.adapter.calls ++ s.adapter.source.start.calls =
          [.start, .register] ++ ([] : List String).map .submit := by
        rw [h, EngineSource.start_calls_ok hok]
        rfl
      exact ⟨[], hcalls⟩
    · rw [he]
      trivial
    · rw [he]
      trivial
  · rw [bootstrap_again hp]
    exact h

theorem Coherent.called_after (hc : s.Coherent) (h : s.adapter.Called) (x : Event) :
    (s.after x).adapter.Called := by
  cases hr : s.adapter.isReady with
  | true =>
    obtain ⟨e, hp⟩ := Adapter.isReady_iff.mp hr
    have hp' : (s.after x).adapter.phase = .ready e := by rw [(hc.takes_after hr x).phase, hp]
    rw [Adapter.Called, hp] at h
    obtain ⟨texts, htexts⟩ := h
    rw [Adapter.Called, hp']
    refine ⟨texts ++ (s.submitted? x).toList, ?_⟩
    rw [hc.calls_after hp x, htexts, List.map_append, List.append_assoc]
  | false =>
    by_cases hx : x = .bootstrap
    · rw [hx]
      exact called_bootstrap h
    · rw [(hc.unready_after hr hx).1]
      exact h

/-- Whatever happens, the engine is called to start first and then given the callback. -/
theorem called_run (source : EngineSource) (events : List Event) :
    ((ofSource source).run events).adapter.Called := by
  induction events using List.reverseRecOn with
  | nil => exact (rfl : (Adapter.ofSource source).calls = [])
  | append_singleton events x ih =>
    rw [run_snoc]
    exact ((ofSource_coherent source).run events).called_after ih x

/-- A submission that comes back with a success is one that the engine returns from. -/
theorem submit_succeeded {e : Engine} {r : Submission} {s' : Session}
    (hp : s.adapter.phase = .ready e) (hs : s.submit = (.ok r, s')) (hr : r.isSuccess = true) :
    s.transcript.active? = some r.text ∧
      (e.submit s.adapter.calls r.text).escaping = none ∧
      r.cells = s.adapter.pending ++ (e.submit s.adapter.calls r.text).cells ++ [.input ""] ∧
      s'.transcript.cells = s.transcript.cells ++ r.cells := by
  cases ha : s.transcript.active? with
  | none => simp [submit, ha] at hs
  | some text =>
    obtain ⟨i, hi, -⟩ := Transcript.active?_eq_some_iff.mp ha
    cases hx : (e.submit s.adapter.calls text).escaping with
    | none =>
      rw [submit_returned hp ha hi hx] at hs
      obtain ⟨hr', rfl⟩ := Prod.mk.inj hs
      obtain rfl := Except.ok.inj hr'
      exact ⟨rfl, hx, rfl, Transcript.extend_cells _ _⟩
    | some f =>
      cases hf : f.isOrdinary with
      | true =>
        rw [submit_failed hp ha hi hx hf] at hs
        obtain rfl := Except.ok.inj (Prod.mk.inj hs).1
        simp [Submission.fail, Submission.isSuccess] at hr
      | false =>
        rw [submit_interrupted hp ha hi hx hf] at hs
        cases (Prod.mk.inj hs).1

/-- In a session with the stack engine that holds nothing back, a submission that succeeds adds one
output cell for each printing operator of its text, in their order, and then the blank input. The
cell of `p` or `n` shows the top of the stack that the operator finds, and that of `f` all entries
from the bottom; the lines of the latter list them by number from the top. -/
theorem printings_shown (source : EngineSource) (events : List Event)
    (hp : ((ofSource source).run events).adapter.phase = .ready .stack)
    (hn : ((ofSource source).run events).adapter.pending = []) {r : Submission} {s' : Session}
    (hs : ((ofSource source).run events).submit = (.ok r, s')) (hr : r.isSuccess = true) :
    let s := (ofSource source).run events
    let m := Machine.after s.adapter.calls
    let tokens := Machine.lexemes r.text
    s.transcript.active? = some r.text ∧ (lex r.text).error = none ∧
    (m.runTokens tokens).error = none ∧
    ∃ shown : List (List Result),
      r.cells = shown.map .output ++ [.input ""] ∧
      s'.transcript.cells = s.transcript.cells ++ r.cells ∧
      List.Forall₂ (fun x rs => x.1.Shows (m.stackAt tokens x.2) rs ∧
          (x.1 = .list → Quantity.Listed (m.stackAt tokens x.2) (Result.lines rs)))
        (Lexeme.printings tokens) shown := by
  intro s m tokens
  have hcalled := called_run source events
  rw [Adapter.Called, hp] at hcalled
  obtain ⟨texts, hcalls⟩ := hcalled
  obtain ⟨hactive, hx, hcells, hgrown⟩ := submit_succeeded hp hs hr
  obtain ⟨hlex, hrun, hprinted⟩ := Machine.run_completed (Outcome.error_of_escaping hx)
  have hl : m.listening = true := by
    rw [show m = Machine.after s.adapter.calls from rfl, hcalls]
    exact Machine.listening_after texts
  have hshown := Machine.runTokens_printed hl hrun
  refine ⟨hactive, hlex, hrun, (m.runTokens tokens).printed.map Printout.results, ?_, hgrown, ?_⟩
  · rw [hcells, hn, List.nil_append, List.map_map, ← hprinted]
    exact congrArg (· ++ [Cell.input ""]) (Outcome.cells_reaction _)
  · rw [List.forall₂_map_right_iff]
    refine hshown.imp ?_
    intro x p hxp
    refine ⟨hxp, ?_⟩
    intro hlist
    rw [hlist] at hxp
    exact hxp.listed

/-- Behind a text that fails, a stack with what an earlier one has left, of which all three printing
operators show something, and a comment that names one more. -/
theorem stack_printings_shown :
    let s := (ofSource (.given .stack)).run
      [.bootstrap, .submitText "1 (m) 2 >x", .submitText "+", .edit "3 <x f p n # p"]
    let m := Machine.after s.adapter.calls
    let tokens := Machine.lexemes "3 <x f p n # p"
    s.adapter.phase = .ready .stack ∧ s.adapter.pending = [] ∧
    (m.stackAt tokens 2).map Quantity.number = [2, 3, 1] ∧
    ∃ (r : Submission) (s' : Session) (list print take : List Result),
      s.submit = (.ok r, s') ∧ r.isSuccess = true ∧
      r.cells = [.output list, .output print, .output take, .input ""] ∧
      Operator.list.Shows (m.stackAt tokens 2) list ∧
      Quantity.Listed (m.stackAt tokens 2) (Result.lines list) ∧
      Operator.print.Shows (m.stackAt tokens 3) print ∧
      Operator.take.Shows (m.stackAt tokens 4) take := by
  intro s m tokens
  have hready : ((ofSource (.given .stack)).after .bootstrap).adapter.isReady = true := rfl
  have hcoherent := (ofSource_coherent (.given .stack)).after .bootstrap
  have hp : s.adapter.phase = .ready .stack := (hcoherent.takes_run hready _).phase
  have hn : s.adapter.pending = [] := by decide +kernel
  have hstack : (m.stackAt tokens 2).map Quantity.number = [2, 3, 1] := by decide +kernel
  have hsubmit : s.submit.1.toOption.map (fun r => (r.text, r.isSuccess)) =
      some ("3 <x f p n # p", true) := by decide +kernel
  obtain ⟨r, hr, htext, hsuccess⟩ : ∃ r, s.submit.1.toOption = some r ∧
      r.text = "3 <x f p n # p" ∧ r.isSuccess = true := by
    obtain ⟨r, hr, hboth⟩ := Option.map_eq_some_iff.mp hsubmit
    exact ⟨r, hr, congrArg Prod.fst hboth, congrArg Prod.snd hboth⟩
  have hs : s.submit = (.ok r, s.submit.2) := Prod.ext (submit_ok hr) rfl
  obtain ⟨-, -, -, shown, hcells, -, hshown⟩ := printings_shown _ _ hp hn hs hsuccess
  have hprintings : Lexeme.printings (Machine.lexemes r.text) =
      [(.list, 2), (.print, 3), (.take, 4)] := by
    rw [htext]
    decide +kernel
  rw [hprintings] at hshown
  rcases hshown with _ | ⟨hlist, _ | ⟨hprint, _ | ⟨htake, _ | _⟩⟩⟩
  rw [htext] at hlist hprint htake
  exact ⟨hp, hn, hstack, r, s.submit.2, _, _, _, hs, hsuccess, hcells, hlist.1,
    hlist.2 rfl, hprint.1, htake.1⟩

end Session

end DeskCalc
