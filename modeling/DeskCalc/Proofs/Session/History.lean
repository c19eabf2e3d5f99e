import DeskCalc.Proofs.Session.Active
import Mathlib.Data.List.DropRight

namespace DeskCalc

/-- A late report, or the engine's reaction to a submission. -/
inductive Exchange
  | late (r : Report)
  | submission (r : Reaction)

namespace Exchange

def succeeds : Exchange → Bool
  | late _ => false
  | submission r => r.escaping.isNone

def late? : Exchange → Option Report
  | late r => some r
  | submission _ => none

/-- The cell of a late report that is not refused. -/
def lateCell? (x : Exchange) : Option Cell := x.late?.bind Report.cell?

/-- The cells held back after an exchange, from those held back before it. -/
def holds (held : List Cell) : Exchange → List Cell
  | late r => held ++ r.cell?.toList
  | submission r => if r.escaping.isNone then [] else held

/-- The cells that an exchange shows, from those held back before it. -/
def shows (held : List Cell) : Exchange → List Cell
  | late _ => []
  | submission r => if r.escaping.isNone then held ++ r.cells else []

theorem holds_of_succeeds {x : Exchange} (h : x.succeeds = true) (held : List Cell) :
    x.holds held = [] := by
  cases x with
  | late r => cases h
  | submission r => exact if_pos h

/-- What does not succeed releases nothing, and adds what has come late. -/
theorem holds_of_not_succeeds {x : Exchange} (h : x.succeeds = false) (held : List Cell) :
    x.holds held = held ++ x.lateCell?.toList := by
  cases x with
  | late r => rfl
  | submission r =>
    have hr : ¬ r.escaping.isNone = true := Bool.not_eq_true _ ▸ h
    rw [holds, if_neg hr]
    exact (List.append_nil held).symm

theorem shows_of_not_succeeds {x : Exchange} (h : x.succeeds = false) (held : List Cell) :
    x.shows held = [] := by
  cases x with
  | late r => rfl
  | submission r =>
    have hr : ¬ r.escaping.isNone = true := Bool.not_eq_true _ ▸ h
    exact if_neg hr

end Exchange

def heldAfter (held : List Cell) (xs : List Exchange) : List Cell := xs.foldl Exchange.holds held

def shownBy (held : List Cell) : List Exchange → List Cell
  | [] => []
  | x :: xs => x.shows held ++ shownBy (x.holds held) xs

theorem heldAfter_append (held : List Cell) (xs ys : List Exchange) :
    heldAfter held (xs ++ ys) = heldAfter (heldAfter held xs) ys :=
  List.foldl_append

theorem shownBy_append (held : List Cell) (xs ys : List Exchange) :
    shownBy held (xs ++ ys) = shownBy held xs ++ shownBy (heldAfter held xs) ys := by
  induction xs generalizing held with
  | nil => rfl
  | cons x xs ih =>
    rw [List.cons_append, shownBy, ih, shownBy, List.append_assoc]
    rfl

/-- The cells of the late reports since the last submission that succeeded. -/
def unread (xs : List Exchange) : List Cell :=
  (xs.rtakeWhile (!·.succeeds)).filterMap Exchange.lateCell?

/-- What is held back is what has come late since the last success. -/
theorem heldAfter_nil_eq_unread (xs : List Exchange) : heldAfter [] xs = unread xs := by
  induction xs using List.reverseRecOn with
  | nil => rfl
  | append_singleton xs x ih =>
    rw [heldAfter_append, ih]
    change x.holds (unread xs) = unread (xs ++ [x])
    rw [unread, unread, List.rtakeWhile_concat]
    cases hx : x.succeeds with
    | true => simp [Exchange.holds_of_succeeds hx]
    | false =>
      rw [Exchange.holds_of_not_succeeds hx, if_pos (by rfl), List.filterMap_append]
      cases hc : x.lateCell? <;> simp [hc]

namespace Transcript

/-- The cells from an index on that show what the engine reported. -/
def reportsFrom (t : Transcript) (n : Nat) : List Cell := (t.cells.drop n).filter Cell.isReport

theorem reportsFrom_extend (t : Transcript) (batch : List Cell) {n : Nat}
    (hn : n ≤ t.cells.length) :
    (t.extend batch).reportsFrom n = t.reportsFrom n ++ batch.filter Cell.isReport := by
  rw [reportsFrom, extend_cells, List.drop_append_of_le_length hn, List.filter_append, reportsFrom]

/-- Editing the active cell leaves the reports alone, for it is no report; it is the last cell, so
those before it stay as they are. -/
theorem Open.reportsFrom_update? {t u : Transcript} {old text : String} (h : t.Open old)
    (hu : t.update? text = some u) (n : Nat) : u.reportsFrom n = t.reportsFrom n := by
  obtain ⟨cs, hcs⟩ := List.getLast?_eq_some_iff.mp h.last
  obtain ⟨i, hi, rfl⟩ := update?_eq_some_iff.mp hu
  have hi' : i = cs.length := by
    rw [h.active, hcs] at hi
    simpa using hi.symm
  have hset : t.cells.set i (.input text) = cs ++ [.input text] := by
    rw [hcs, hi', List.set_append_right _ _ (le_refl _), Nat.sub_self]
    rfl
  simp only [reportsFrom, hset]
  rw [hcs]
  by_cases hn : n ≤ cs.length
  · rw [List.drop_append_of_le_length hn, List.drop_append_of_le_length hn]
    simp [Cell.isReport]
  · rw [List.drop_eq_nil_of_le (by simp; omega), List.drop_eq_nil_of_le (by simp; omega)]

end Transcript

namespace Session

/-- What an event makes a ready session take from its engine. -/
def taken (s : Session) (x : Event) : List Exchange :=
  match s.adapter.phase with
  | .ready e =>
    (x.report?.map Exchange.late).toList ++
      ((s.submitted? x).map fun text => .submission (e.submit s.adapter.calls text)).toList
  | _ => []

/-- What a run makes a session take from its engine. -/
def history (s : Session) : List Event → List Exchange
  | [] => []
  | x :: events => s.taken x ++ (s.after x).history events

theorem history_snoc (s : Session) (events : List Event) (x : Event) :
    s.history (events ++ [x]) = s.history events ++ (s.run events).taken x := by
  induction events generalizing s with
  | nil => simp [history, run]
  | cons y events ih =>
    rw [List.cons_append, history, ih, history, List.append_assoc]
    rfl

theorem taken_ready {s : Session} {e : Engine} (hp : s.adapter.phase = .ready e) (x : Event) :
    s.taken x = (x.report?.map Exchange.late).toList ++
      ((s.submitted? x).map fun text => .submission (e.submit s.adapter.calls text)).toList := by
  rw [taken, hp]

theorem taken_unready {s : Session} (hr : s.adapter.isReady = false) (x : Event) :
    s.taken x = [] := by
  cases hp : s.adapter.phase with
  | ready e => simp [Adapter.isReady, hp] at hr
  | idle | interrupted | failed => rw [taken, hp]

theorem taken_late {s : Session} (hr : s.adapter.isReady = true) (x : Event) :
    (s.taken x).filterMap Exchange.late? = x.report?.toList := by
  obtain ⟨e, hp⟩ := Adapter.isReady_iff.mp hr
  rw [taken_ready hp, List.filterMap_append]
  cases x.report? <;> cases s.submitted? x <;> rfl

/-- The first session becomes the second by taking some exchanges from its engine. -/
structure Takes (s s' : Session) (xs : List Exchange) : Prop where
  phase : s'.adapter.phase = s.adapter.phase
  pending : s'.adapter.pending = heldAfter s.adapter.pending xs
  length : s.transcript.cells.length ≤ s'.transcript.cells.length
  reports : ∀ n ≤ s.transcript.cells.length,
    s'.transcript.reportsFrom n = s.transcript.reportsFrom n ++ shownBy s.adapter.pending xs

theorem Takes.refl (s : Session) : Takes s s [] :=
  ⟨rfl, rfl, le_refl _, fun _ _ => (List.append_nil _).symm⟩

theorem Takes.trans {s t u : Session} {xs ys : List Exchange} (h : Takes s t xs)
    (k : Takes t u ys) : Takes s u (xs ++ ys) := by
  constructor
  · rw [k.phase, h.phase]
  · rw [k.pending, h.pending, heldAfter_append]
  · exact le_trans h.length k.length
  · intro n hn
    rw [k.reports n (le_trans hn h.length), h.reports n hn, h.pending, shownBy_append,
      List.append_assoc]

theorem Coherent.takes_revised {s s' : Session} (h : s.Coherent) (hr : s.adapter.isReady = true)
    (hs : Revised s s') : Takes s s' [] := by
  obtain ⟨text, ho⟩ := h.ready hr
  have hphase : s'.adapter.phase = s.adapter.phase := by rw [hs.adapter]
  have hheld : s'.adapter.pending = heldAfter s.adapter.pending [] := by
    rw [hs.adapter]
    rfl
  rcases hs.transcript with he | ⟨new, hu⟩
  · refine ⟨hphase, hheld, by rw [he], fun n _ => ?_⟩
    rw [he, shownBy, List.append_nil]
  · obtain ⟨i, -, he⟩ := Transcript.update?_eq_some_iff.mp hu
    refine ⟨hphase, hheld, by simp [he], fun n _ => ?_⟩
    rw [ho.reportsFrom_update? hu, shownBy, List.append_nil]

theorem takes_late {s : Session} (hr : s.adapter.isReady = true) (r : Report) :
    Takes s (s.deliver r).2 [.late r] := by
  have hshown : shownBy s.adapter.pending [.late r] = [] := rfl
  have hheld : heldAfter s.adapter.pending [.late r] = s.adapter.pending ++ r.cell?.toList := rfl
  cases hc : r.cell? with
  | none =>
    rw [deliver_refused hc]
    refine ⟨rfl, ?_, le_refl _, fun n _ => ?_⟩
    · rw [hheld, hc, Option.toList_none, List.append_nil]
    · rw [hshown, List.append_nil]
  | some c =>
    rw [deliver_late hr hc]
    refine ⟨rfl, ?_, le_refl _, fun n _ => ?_⟩
    · rw [hheld, hc, Option.toList_some]
    · rw [hshown, List.append_nil]
      rfl

/-- A submission that has ended takes what its cells show and its adapter holds. -/
theorem takes_conclude {s : Session} {a : Adapter} {r : Submission} {xs : List Exchange}
    (hp : a.phase = s.adapter.phase) (hh : a.pending = heldAfter s.adapter.pending xs)
    (hc : r.cells.filter Cell.isReport = shownBy s.adapter.pending xs) :
    Takes s (conclude { s with adapter := a } r).2 xs := by
  have ht : (conclude { s with adapter := a } r).2.transcript = s.transcript.extend r.cells := rfl
  refine ⟨hp, hh, ?_, fun n hn => ?_⟩
  · simp [ht, Transcript.extend_cells]
  · rw [ht, Transcript.reportsFrom_extend _ _ hn, hc]

/-- A submission shows what is held back and its own reports if the engine returns, and nothing of
either if it does not. -/
theorem Coherent.takes_submit {s : Session} (h : s.Coherent) {e : Engine} {text : String}
    (hp : s.adapter.phase = .ready e) (ht : s.transcript.active? = some text) :
    Takes s s.submit.2 [.submission (e.submit s.adapter.calls text)] := by
  obtain ⟨i, hi, -⟩ := Transcript.active?_eq_some_iff.mp ht
  cases hx : (e.submit s.adapter.calls text).escaping with
  | none =>
    have hshown : ∀ c ∈ s.adapter.pending ++ (e.submit s.adapter.calls text).cells,
        c.isReport = true := by
      intro c hc
      rcases List.mem_append.mp hc with hc | hc
      · exact h.reported c hc
      · exact Reaction.cells_isReport _ c hc
    rw [submit_returned hp ht hi hx]
    refine takes_conclude rfl ?_ ?_
    · simp [Adapter.released, heldAfter, Exchange.holds, hx]
    · rw [Submission.succeed, List.filter_append, List.filter_eq_self.mpr hshown]
      simp [shownBy, Exchange.shows, Cell.isReport, hx]
  | some f =>
    have hheld : heldAfter s.adapter.pending [.submission (e.submit s.adapter.calls text)] =
        s.adapter.pending := by
      simp [heldAfter, Exchange.holds, hx]
    have hshown : shownBy s.adapter.pending [.submission (e.submit s.adapter.calls text)] = [] := by
      simp [shownBy, Exchange.shows, hx]
    cases hf : f.isOrdinary with
    | true =>
      rw [submit_failed hp ht hi hx hf]
      exact takes_conclude rfl hheld.symm (by rw [hshown]; rfl)
    | false =>
      rw [submit_interrupted hp ht hi hx hf]
      refine ⟨rfl, hheld.symm, le_refl _, fun n _ => ?_⟩
      rw [hshown, List.append_nil]
      rfl

/-- What happens to a ready session takes from the engine what it reports on the way. -/
theorem Coherent.takes_after {s : Session} (h : s.Coherent) (hr : s.adapter.isReady = true)
    (x : Event) : Takes s (s.after x) (s.taken x) := by
  obtain ⟨e, hp⟩ := Adapter.isReady_iff.mp hr
  rw [taken_ready hp]
  rcases after_cases h.activeIndex_none x with
    rfl | ⟨r, rfl⟩ | ⟨hn, ht, hs⟩ | ⟨s', text, ht, hs, ha, he⟩
  · have hb : s.bootstrap.2 = s := bootstrap_again (by simp [hp])
    rw [Session.after, hb]
    exact .refl s
  · exact takes_late hr r
  · rw [hn, ht]
    exact h.takes_revised hr hs
  · have hp' : s'.adapter.phase = .ready e := by rw [hs.adapter, hp]
    have hk := (h.takes_revised hr hs).trans ((h.revised hs).takes_submit hp' ha)
    rw [hs.adapter] at hk
    rw [report?_of_submitted? ht, ht, he]
    exact hk

theorem Coherent.isReady_after {s : Session} (h : s.Coherent) (hr : s.adapter.isReady = true)
    (x : Event) : (s.after x).adapter.isReady = true := by
  rw [Adapter.isReady, (h.takes_after hr x).phase]
  exact hr

/-- What a run of a ready session shows and holds back follows from what it takes. -/
theorem Coherent.takes_run {s : Session} (h : s.Coherent) (hr : s.adapter.isReady = true)
    (events : List Event) : Takes s (s.run events) (s.history events) := by
  induction events generalizing s with
  | nil => exact .refl s
  | cons x events ih =>
    have hx := h.takes_after hr x
    exact hx.trans (ih (h.after x) (h.isReady_after hr x))

/-- A run takes its late reports, each once and in order, and no others. -/
theorem Coherent.history_late {s : Session} (h : s.Coherent) (hr : s.adapter.isReady = true)
    (events : List Event) :
    (s.history events).filterMap Exchange.late? = events.filterMap Event.report? := by
  induction events generalizing s with
  | nil => rfl
  | cons x events ih =>
    rw [history, List.filterMap_append, taken_late hr, ih (h.after x) (h.isReady_after hr x)]
    cases hx : x.report? <;> simp [hx]

/-- As long as a session is not ready it holds nothing back, and the step by which it becomes ready
keeps that. -/
theorem Coherent.pending_unready {s : Session} (h : s.Coherent)
    (hr : s.adapter.isReady = false) (x : Event) : (s.after x).adapter.pending = [] := by
  rcases after_cases h.activeIndex_none x with
    rfl | ⟨r, rfl⟩ | ⟨-, -, hs⟩ | ⟨s', text, -, hs, ha, -⟩
  · by_cases hp : s.adapter.phase = .idle
    · rw [Session.after, bootstrap_first hp]
      rcases s.adapter.start_cases s.transcript with ⟨e, -, he⟩ | ⟨f, -, -, he⟩ | ⟨f, -, -, he⟩
      all_goals
        rw [he]
        exact h.empty hr
    · rw [Session.after, bootstrap_again hp]
      exact h.empty hr
  · cases hc : r.cell? with
    | none =>
      rw [Session.after, deliver_refused hc]
      exact h.empty hr
    | some c =>
      rw [Session.after, deliver_early hr hc]
      exact h.empty hr
  · rw [hs.adapter]
    exact h.empty hr
  · -- Without an active cell nothing is submitted.
    have hc := (h.revised hs).unready (by rw [hs.adapter, hr])
    rw [hc.active?] at ha
    cases ha

/-- What a session holds back is what came late since the last submission that succeeded. -/
theorem pending_eq_unread (source : EngineSource) (events : List Event) :
    ((ofSource source).run events).adapter.pending =
      unread ((ofSource source).history events) := by
  rw [← heldAfter_nil_eq_unread]
  induction events using List.reverseRecOn with
  | nil => rfl
  | append_singleton events x ih =>
    have h : ((ofSource source).run events).Coherent := (ofSource_coherent source).run events
    rw [run_snoc, history_snoc, heldAfter_append, ← ih]
    cases hr : ((ofSource source).run events).adapter.isReady with
    | true => exact (h.takes_after hr x).pending
    | false =>
      rw [taken_unready hr, h.pending_unready hr, h.empty hr]
      rfl

end Session

end DeskCalc
