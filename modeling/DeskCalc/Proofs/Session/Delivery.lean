import DeskCalc.Proofs.Session.Outcome

namespace DeskCalc

/-- Exchanges up to and with a submission that succeeds, the only one among them. -/
structure Round where
  before : List Exchange
  reaction : Reaction
  unsuccessful : ∀ x ∈ before, x.succeeds = false
  returned : reaction.escaping = none

namespace Round

def exchanges (r : Round) : List Exchange := r.before ++ [.submission r.reaction]

/-- The cells of the late reports, and then those of the submission. -/
def cells (r : Round) : List Cell := r.before.filterMap Exchange.lateCell? ++ r.reaction.cells

end Round

/-- All exchanges are rounds, up to those that wait for the next success. -/
theorem exists_rounds (xs : List Exchange) : ∃ (rounds : List Round) (waiting : List Exchange),
    xs = rounds.flatMap Round.exchanges ++ waiting ∧
    (∀ x ∈ waiting, x.succeeds = false) ∧
    shownBy [] xs = rounds.flatMap Round.cells ∧
    heldAfter [] xs = waiting.filterMap Exchange.lateCell? := by
  induction xs using List.reverseRecOn with
  | nil => exact ⟨[], [], rfl, by simp, rfl, rfl⟩
  | append_singleton xs x ih =>
    obtain ⟨rounds, waiting, hxs, hw, hshown, hheld⟩ := ih
    have hs : shownBy [] (xs ++ [x]) = shownBy [] xs ++ x.shows (heldAfter [] xs) := by
      rw [shownBy_append]
      exact congrArg _ (List.append_nil _)
    have hh : heldAfter [] (xs ++ [x]) = x.holds (heldAfter [] xs) := heldAfter_append [] xs [x]
    cases hx : x.succeeds with
    | false =>
      refine ⟨rounds, waiting ++ [x], ?_, ?_, ?_, ?_⟩
      · rw [hxs, List.append_assoc]
      · intro y hy
        rcases List.mem_append.mp hy with hy | hy
        · exact hw y hy
        · rw [List.mem_singleton.mp hy, hx]
      · rw [hs, Exchange.shows_of_not_succeeds hx, List.append_nil, hshown]
      · rw [hh, Exchange.holds_of_not_succeeds hx, hheld, List.filterMap_append]
        cases hc : x.lateCell? <;> simp [hc]
    | true =>
      cases x with
      | late r => cases hx
      | submission r =>
        have hr : r.escaping = none := by simpa [Exchange.succeeds] using hx
        refine ⟨rounds ++ [⟨waiting, r, hw, hr⟩], [], ?_, by simp, ?_, ?_⟩
        · simp [hxs, Round.exchanges]
        · simp [hs, hshown, hheld, Exchange.shows, hr, Round.cells]
        · rw [hh, Exchange.holds_of_succeeds hx]
          rfl

namespace Session

/-- After the start that makes a session ready, the reports shown are those of its rounds, each late
one with the first success after it; what is held back is what came late since the last success. -/
theorem reports_shown_once (source : EngineSource) (before after : List Event)
    (hu : ((ofSource source).run before).adapter.isReady = false)
    (hr : ((ofSource source).run (before ++ [.bootstrap])).adapter.isReady = true) :
    let s := (ofSource source).run (before ++ [.bootstrap])
    ∃ (rounds : List Round) (waiting : List Exchange),
      s.history after = rounds.flatMap Round.exchanges ++ waiting ∧
      (s.history after).filterMap Exchange.late? = after.filterMap Event.report? ∧
      (∀ x ∈ waiting, x.succeeds = false) ∧
      (s.run after).transcript.reportsFrom s.transcript.cells.length =
        rounds.flatMap Round.cells ∧
      (s.run after).adapter.pending = waiting.filterMap Exchange.lateCell? := by
  intro s
  have hb : ((ofSource source).run before).Coherent := (ofSource_coherent source).run before
  have hs : s = ((ofSource source).run before).after .bootstrap := run_snoc _ _ _
  have hp : s.adapter.pending = [] := by
    rw [hs]
    exact hb.pending_unready hu .bootstrap
  have hc : s.Coherent := (ofSource_coherent source).run _
  have ht : Takes s (s.run after) (s.history after) := hc.takes_run hr after
  obtain ⟨rounds, waiting, hxs, hw, hshown, hheld⟩ := exists_rounds (s.history after)
  refine ⟨rounds, waiting, hxs, hc.history_late hr after, hw, ?_, ?_⟩
  · rw [ht.reports _ (le_refl _), hp, hshown]
    simp [Transcript.reportsFrom]
  · rw [ht.pending, hp, hheld]

/-- Late reports on both sides of a failure and an interrupt come with the next success. -/
theorem echo_reports_shown_once :
    let s := (ofSource (.given echo)).run ([] ++ [.bootstrap])
    let events := [Event.report ⟨"message", .text "a"⟩, .submitText "fail",
      .report ⟨"message", .text "b"⟩, .submitText "stop", .submitText "c",
      .report ⟨"message", .text "d"⟩]
    (s.run events).transcript.reportsFrom 1 = [.message "a", .message "b", .message "c"] ∧
    ∃ (rounds : List Round) (waiting : List Exchange),
      s.history events = rounds.flatMap Round.exchanges ++ waiting ∧
      (s.history events).filterMap Exchange.late? = events.filterMap Event.report? ∧
      (∀ x ∈ waiting, x.succeeds = false) ∧
      (s.run events).transcript.reportsFrom s.transcript.cells.length =
        rounds.flatMap Round.cells ∧
      (s.run events).adapter.pending = waiting.filterMap Exchange.lateCell? :=
  ⟨by decide, reports_shown_once _ _ _ (by decide) (by decide)⟩

end Session

end DeskCalc
