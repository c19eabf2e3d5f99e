import DeskCalc.Proofs.Session.Outcome
import DeskCalc.Proofs.Session.Stepwise

namespace DeskCalc.Session

/-- The refusal of a call that needs an active cell, or else what comes `next` for it. -/
def needingCell (s : Session) (refusal : Fault) (next : Option Fault) : Option Fault :=
  match s.transcript.active? with
  | none => some refusal
  | some _ => next

/-- Why a stroke is refused; a modifier never is. -/
def strokeRefusal (s : Session) : Stroke → Option Fault
  | .modifier _ => none
  | .token _ _ | .action _ => s.needingCell EditError.noActiveCell.fault none

/-- Why an event is refused, told by what it finds; nothing for one that is taken up. -/
def refusal? (s : Session) : Event → Option Fault
  | .bootstrap => none
  | .edit _ | .submitText _ => s.needingCell EditError.nothingToUpdate.fault none
  | .submit => s.needingCell (.precondition "No active input cell to submit") none
  | .press label =>
    match Keyboard.find? label with
    | none => some (EditError.unknownKey label).fault
    | some key => s.strokeRefusal key.stroke
  | .insert _ className =>
    s.needingCell EditError.noActiveCell.fault <|
      if (TokenClass.ofName? className).isSome then none
      else some (EditError.unknownClass className).fault
  | .act name =>
    s.needingCell EditError.noActiveCell.fault <|
      if (Action.ofName? name).isSome then none else some (EditError.unknownAction name).fault
  | .toggle symbol =>
    if (Modifier.ofSymbol? symbol).isSome then none
    else some (EditError.unknownModifier symbol).fault
  | .report r => r.refusal?

/-- What comes of an event with a refusal or without one: a refused one has done nothing, and one
that is taken up ends without a fault or is interrupted. -/
def Answered (refusal fault : Option Fault) (s s' : Session) : Prop :=
  match refusal with
  | some f => fault = some f ∧ s' = s
  | none => ∀ f, fault = some f → f.isOrdinary = false

variable {s s' : Session} {x : Event} {f : Fault} {old : String}

theorem needingCell_none (h : s.transcript.active? = none) (refusal : Fault)
    (next : Option Fault) : s.needingCell refusal next = some refusal := by
  rw [needingCell, h]

theorem needingCell_some (h : s.transcript.active? = some old) (refusal : Fault)
    (next : Option Fault) : s.needingCell refusal next = next := by
  rw [needingCell, h]

theorem answered_ok (s s' : Session) : Answered none none s s' := by
  intro f hf
  cases hf

def refusalOf : Except EditError Effect → Option Fault
  | .ok _ => none
  | .error x => some x.fault

theorem actNamed_refusal (s : Session) (name : String) :
    s.refusal? (.act name) = refusalOf (s.editor.actNamed name) := by
  rw [refusal?]
  cases ha : s.transcript.active? with
  | none => rw [needingCell_none ha, Editor.actNamed_inactive ha, refusalOf]
  | some old =>
    rw [needingCell_some ha]
    cases hn : Action.ofName? name with
    | none => rw [Editor.actNamed_unknown ha hn, refusalOf, if_neg (by simp)]
    | some a =>
      rw [if_pos (by simp)]
      cases hx : Editor.acted old a with
      | none => rw [Editor.actNamed_submit ha hn hx, refusalOf]
      | some text =>
        obtain ⟨u, -, hok⟩ := Editor.actNamed_edit ha hn hx
        rw [hok, refusalOf]

theorem act_refusal (s : Session) (a : Action) :
    refusalOf (s.editor.act a) = s.needingCell EditError.noActiveCell.fault none := by
  have h := s.actNamed_refusal a.name
  simp only [refusal?, Editor.actNamed, Action.ofName?_name, Option.isSome_some, if_true] at h
  exact h.symm

theorem insertNamed_refusal (s : Session) (token className : String) :
    (s.refusal? (.insert token className) = none ∧
      ∃ p, s.editor.insertNamed token className = .ok p) ∨
    ∃ x, s.refusal? (.insert token className) = some x.fault ∧
      s.editor.insertNamed token className = .error x := by
  rw [refusal?]
  cases ha : s.transcript.active? with
  | none =>
    rw [needingCell_none ha]
    exact .inr ⟨.noActiveCell, rfl, Editor.insertNamed_inactive ha token className⟩
  | some old =>
    rw [needingCell_some ha]
    cases hc : TokenClass.ofName? className with
    | none =>
      rw [if_neg (by simp)]
      exact .inr ⟨.unknownClass className, rfl, Editor.insertNamed_unknown ha hc token⟩
    | some cls =>
      obtain ⟨u, -, hok⟩ := Editor.insertNamed_active ha hc token
      rw [if_pos (by simp)]
      exact .inl ⟨rfl, _, hok⟩

theorem insert_refusal (s : Session) (token : String) (cls : TokenClass) :
    refusalOf ((s.editor.insert token cls).map fun p => .edited p.2) =
      s.needingCell EditError.noActiveCell.fault none := by
  have h := s.insertNamed_refusal token cls.name
  simp only [refusal?, Editor.insertNamed, TokenClass.ofName?_name, Option.isSome_some,
    if_true] at h
  rcases h with ⟨hr, p, hp⟩ | ⟨x, hr, hx⟩
  · rw [hr, hp]
    rfl
  · rw [hr, hx]
    rfl

/-- A key is refused if no key has the label, or for what it would do. -/
theorem press_refusal (s : Session) (label : String) :
    s.refusal? (.press label) = refusalOf (s.editor.press label) := by
  simp only [refusal?, Editor.press]
  cases Keyboard.find? label with
  | none => rfl
  | some key =>
    dsimp only
    cases key.stroke with
    | modifier m => rfl
    | action a => exact (s.act_refusal a).symm
    | token token cls => exact (s.insert_refusal token cls).symm

/-- A submission is refused where there is no active cell, and otherwise nothing but an interrupt
stops it. -/
theorem submit_answered (h : s.Coherent) :
    Answered (s.refusal? .submit) (faultOf s.submit.1) s s.submit.2 := by
  rw [refusal?]
  cases hr : s.adapter.isReady with
  | false =>
    have ha := (h.unready hr).active?
    rw [needingCell_none ha, submit, ha]
    exact ⟨rfl, rfl⟩
  | true =>
    obtain ⟨e, hp⟩ := Adapter.isReady_iff.mp hr
    obtain ⟨text, ho⟩ := h.ready hr
    rw [needingCell_some ho.active?]
    cases hx : (e.submit s.adapter.calls text).escaping with
    | none =>
      rw [submit_returned hp ho.active? ho.active hx]
      exact answered_ok _ _
    | some f =>
      cases hf : f.isOrdinary with
      | true =>
        -- The submission fails, and its record says so; the call does not.
        rw [submit_failed hp ho.active? ho.active hx hf]
        exact answered_ok _ _
      | false =>
        rw [submit_interrupted hp ho.active? ho.active hx hf]
        intro g hg
        rw [← Option.some.inj hg, hf]

theorem edit_answered (h : s.Coherent) (text : String) :
    Answered (s.refusal? (.edit text)) (faultOf (s.edit text).1) s (s.edit text).2 := by
  rw [refusal?]
  cases ha : s.transcript.active? with
  | none =>
    rw [needingCell_none ha, edit_inactive (h.activeIndex_none ha)]
    exact ⟨rfl, rfl⟩
  | some old =>
    rw [needingCell_some ha, (edit_active? ha text).1]
    exact answered_ok _ _

theorem submitText_answered (h : s.Coherent) (text : String) :
    Answered (s.refusal? (.submitText text)) (faultOf (s.submitText text).1) s
      (s.submitText text).2 := by
  rw [refusal?, submitText]
  cases ha : s.transcript.active? with
  | none =>
    rw [needingCell_none ha, edit_inactive (h.activeIndex_none ha)]
    exact ⟨rfl, rfl⟩
  | some old =>
    obtain ⟨hedit, hnew⟩ := edit_active? ha text
    have hsubmit := submit_answered (h.revised (s.edit_revised text))
    rw [refusal?, needingCell_some hnew] at hsubmit
    rw [needingCell_some ha, hedit]
    exact hsubmit

theorem settle_answered (h : s.Coherent) {r : Except EditError Effect}
    (hr : r = .ok .submit → s.transcript.active?.isSome = true) :
    Answered (refusalOf r) (faultOf (s.settle r).1) s (s.settle r).2 := by
  cases r with
  | error x => exact ⟨rfl, rfl⟩
  | ok effect =>
    cases effect with
    | edited e => exact answered_ok _ _
    | submit =>
      obtain ⟨text, ha⟩ := Option.isSome_iff_exists.mp (hr rfl)
      have hsubmit := submit_answered h
      rw [refusal?, needingCell_some ha] at hsubmit
      rw [refusalOf, settle_fault]
      exact hsubmit

theorem insert_answered (s : Session) (token className : String) :
    Answered (s.refusal? (.insert token className)) (faultOf (s.insert token className).1) s
      (s.insert token className).2 := by
  rw [insert]
  rcases s.insertNamed_refusal token className with ⟨hr, p, hp⟩ | ⟨x, hr, hx⟩
  · rw [hr, hp]
    exact answered_ok _ _
  · rw [hr, hx]
    exact ⟨rfl, rfl⟩

theorem toggle_answered (s : Session) (symbol : String) :
    Answered (s.refusal? (.toggle symbol)) (faultOf (s.toggle symbol).1) s
      (s.toggle symbol).2 := by
  rw [refusal?, toggle, Editor.toggleNamed]
  cases Modifier.ofSymbol? symbol with
  | none => exact ⟨rfl, rfl⟩
  | some m => exact answered_ok _ _

theorem deliver_answered (s : Session) (r : Report) :
    Answered (s.refusal? (.report r)) (faultOf (s.deliver r).1) s (s.deliver r).2 := by
  rw [refusal?, Report.refusal?]
  cases hc : r.cell with
  | error e =>
    have hsession : (s.deliver r).2 = s := deliver_refused (Report.cell?_eq_none_iff.mpr ⟨e, hc⟩)
    refine ⟨?_, hsession⟩
    rw [deliver, Adapter.deliver, hc]
    rfl
  | ok c =>
    have hanswer : (s.deliver r).1 = .ok () := by
      rw [deliver, Adapter.deliver, hc]
      cases s.adapter.isReady <;> rfl
    rw [hanswer]
    exact answered_ok _ _

/-- A start that has been given up was interrupted. -/
def Halted (s : Session) : Prop :=
  ∀ f, s.adapter.phase = .interrupted f → f.isOrdinary = false

theorem Halted.phase_eq (h : s.Halted) (hp : s'.adapter.phase = s.adapter.phase) : s'.Halted := by
  intro f hf
  exact h f (hp.symm.trans hf)

/-- A start is never refused, and an interrupt of it ends every later one in the same way. -/
theorem bootstrap_answered (h : s.Halted) :
    Answered none (faultOf s.bootstrap.1) s s.bootstrap.2 ∧ s.bootstrap.2.Halted := by
  have hanswer : s.bootstrap.1 = (s.adapter.bootstrap s.transcript).1 := rfl
  have hadapter : s.bootstrap.2.adapter = (s.adapter.bootstrap s.transcript).2.1 := rfl
  rw [hanswer, Halted, hadapter]
  cases hp : s.adapter.phase with
  | idle =>
    rw [Adapter.bootstrap_idle hp]
    rcases s.adapter.start_cases s.transcript with ⟨e, -, he⟩ | ⟨f, -, -, he⟩ | ⟨f, -, hf, he⟩
    · rw [he]
      exact ⟨answered_ok _ _, fun g hg => by cases hg⟩
    · rw [he]
      exact ⟨answered_ok _ _, fun g hg => by cases hg⟩
    · rw [he]
      refine ⟨?_, ?_⟩
      · intro g hg
        rw [← Option.some.inj hg, hf]
      · intro g hg
        rw [← Phase.interrupted.inj hg, hf]
  | interrupted f =>
    have hf : f.isOrdinary = false := h f hp
    rw [Adapter.bootstrap, hp]
    refine ⟨?_, ?_⟩
    · intro g hg
      rw [← Option.some.inj hg, hf]
    · intro g hg
      exact h g hg
  | failed | ready =>
    rw [Adapter.bootstrap, hp]
    refine ⟨answered_ok _ _, ?_⟩
    intro g hg
    exact h g hg

theorem Halted.after (h : s.Halted) (hc : s.Coherent) (x : Event) : (s.after x).Halted := by
  cases hr : s.adapter.isReady with
  | true => exact h.phase_eq (hc.takes_after hr x).phase
  | false =>
    rcases after_cases hc.activeIndex_none x with
      rfl | ⟨r, rfl⟩ | ⟨-, -, hs⟩ | ⟨s', text, -, hs, ha, -⟩
    · exact (bootstrap_answered h).2
    · apply h.phase_eq
      show (s.deliver r).2.adapter.phase = s.adapter.phase
      cases hcell : r.cell? with
      | none => rw [deliver_refused hcell]
      | some c =>
        rw [deliver_early hr hcell]
        rfl
    · exact h.phase_eq (congrArg Adapter.phase hs.adapter)
    · -- Nothing can be submitted before the start.
      have hclosed := (hc.revised hs).unready (by rw [hs.adapter, hr])
      rw [hclosed.active?] at ha
      cases ha

theorem run_halted (source : EngineSource) (events : List Event) :
    ((ofSource source).run events).Halted := by
  induction events using List.reverseRecOn with
  | nil =>
    intro f hf
    cases hf
  | append_singleton events x ih =>
    rw [run_snoc]
    exact ih.after ((ofSource_coherent source).run events) x

theorem after_answered (h : s.Coherent) (hh : s.Halted) (x : Event) :
    Answered (s.refusal? x) (s.fault? x) s (s.after x) := by
  cases x with
  | bootstrap => exact (bootstrap_answered hh).1
  | edit text => exact edit_answered h text
  | submit => exact submit_answered h
  | submitText text => exact submitText_answered h text
  | press label =>
    rw [press_refusal]
    exact settle_answered h fun hr => (Editor.press_eq_submit_iff.mp hr).2
  | insert token className => exact s.insert_answered token className
  | act name =>
    rw [actNamed_refusal]
    exact settle_answered h fun hr => (Editor.actNamed_eq_submit_iff.mp hr).2
  | toggle symbol => exact s.toggle_answered symbol
  | report r => exact s.deliver_answered r

/-- A fault of the kinds that refuse calls. -/
def IsRefusal (f : Fault) : Prop := f.kind = .precondition ∨ f.kind = .key ∨ f.kind = .value

theorem needingCell_kind {next : Option Fault} {refusal : Fault}
    (h : s.needingCell refusal next = some f) (hr : IsRefusal refusal)
    (hn : ∀ g, next = some g → IsRefusal g) : IsRefusal f := by
  unfold needingCell at h
  split at h
  · rw [← Option.some.inj h]
    exact hr
  · exact hn f h

theorem unless_kind {known : Prop} [Decidable known] {refusal : Fault}
    (h : (if known then none else some refusal) = some f) (hr : IsRefusal refusal) :
    IsRefusal f := by
  split at h
  · cases h
  · rw [← Option.some.inj h]
    exact hr

theorem strokeRefusal_kind {k : Stroke} (h : s.strokeRefusal k = some f) : IsRefusal f := by
  cases k with
  | modifier m => cases h
  | token | action =>
    refine needingCell_kind h (.inl rfl) ?_
    intro g hg
    cases hg

/-- A refusal says that something is missing or that a name stands for nothing; it is no
interrupt. -/
theorem refusal_kind (hx : x.report? = none) (hr : s.refusal? x = some f) : IsRefusal f := by
  have nothing (g : Fault) (hg : none = some g) : IsRefusal g := by cases hg
  cases x with
  | bootstrap => cases hr
  | report r => cases hx
  | edit | submitText | submit => exact needingCell_kind hr (.inl rfl) nothing
  | insert token className =>
    refine needingCell_kind hr (.inl rfl) ?_
    intro g hg
    exact unless_kind hg (.inr (.inr rfl))
  | act name =>
    refine needingCell_kind hr (.inl rfl) ?_
    intro g hg
    exact unless_kind hg (.inr (.inr rfl))
  | toggle symbol => exact unless_kind hr (.inr (.inr rfl))
  | press label =>
    simp only [refusal?] at hr
    cases hk : Keyboard.find? label with
    | none =>
      rw [hk] at hr
      rw [← Option.some.inj hr]
      exact .inr (.inl rfl)
    | some key =>
      rw [hk] at hr
      exact strokeRefusal_kind hr

/-- All that can be seen of a session is as it was; its composer may have looked. -/
structure Unchanged (d d' : Session) : Prop where
  transcript : d'.transcript = d.transcript
  modifier : d'.editor.composer.modifier = d.editor.composer.modifier
  lastClass : d'.editor.lastClass = d.editor.lastClass
  last : d'.last = d.last
  adapter : d'.adapter = d.adapter

theorem Matches.unchanged {d d' : Session} (h : s.Matches d) (h' : s.Matches d') :
    Unchanged d d' := by
  constructor
  · rw [h'.transcript, h.transcript]
  · rw [h'.editor.modifier, h.editor.modifier]
  · rw [h'.editor.lastClass, h.editor.lastClass]
  · rw [h'.last, h.last]
  · rw [h'.adapter, h.adapter]

theorem follow_events (s : Session) (events : List Event) :
    s.follow (events.map .event) = s.run events := by
  rw [follow, List.foldl_map]
  rfl

/-- In every session the calls that end with a fault which is no interrupt are the refused ones:
their preconditions fail in the session that they find. A refused call changes nothing and does not
reach the engine, also when it is done one assignment after the other and stops at the first fault;
and the faults of calls are of three kinds. -/
theorem refused_calls_change_nothing (source : EngineSource) (events : List Event) (x : Event)
    {f : Fault} (hf : f.isOrdinary = true) :
    let s := (ofSource source).run events
    let d := (ofSource source).perform (events.map .event)
    (s.fault? x = some f ↔ s.refusal? x = some f) ∧
    (s.fault? x = some f → s.after x = s) ∧
    (x.report? = none → s.fault? x = some f →
      f.kind = .precondition ∨ f.kind = .key ∨ f.kind = .value) ∧
    (d.performed x).1 = s.fault? x ∧
    ((d.performed x).1 = some f → Unchanged d (d.performed x).2) := by
  intro s d
  have hs : s.Coherent := (ofSource_coherent source).run events
  have hanswered := after_answered hs (run_halted source events) x
  have hmatches : s.Matches d := by
    have h := follow_matches source (events.map .event)
    rwa [follow_events] at h
  obtain ⟨hfault, hafter⟩ := hmatches.performed x
  -- A fault that is no interrupt is the refusal.
  have hrefused (hx : s.fault? x = some f) : s.refusal? x = some f ∧ s.after x = s := by
    cases hr : s.refusal? x with
    | none =>
      rw [hr] at hanswered
      have hinterrupt := hanswered f hx
      rw [hf] at hinterrupt
      cases hinterrupt
    | some g =>
      rw [hr] at hanswered
      obtain ⟨hg, hsame⟩ := hanswered
      rw [← hg, hx]
      exact ⟨rfl, hsame⟩
  refine ⟨⟨fun hx => (hrefused hx).1, ?_⟩, fun hx => (hrefused hx).2, ?_, hfault, ?_⟩
  · intro hr
    rw [hr] at hanswered
    exact hanswered.1
  · intro hx hfx
    exact refusal_kind hx (hrefused hfx).1
  · intro hd
    rw [hfault] at hd
    rw [(hrefused hd).2] at hafter
    exact hmatches.unchanged hafter

/-- A token of an unknown class, while a modifier is selected and something has been held back. -/
theorem echo_unknown_class_changes_nothing :
    let events := [Event.bootstrap, .report ⟨"message", .text "a"⟩, .toggle "k"]
    let s := (ofSource (.given echo)).run events
    let d := (ofSource (.given echo)).perform (events.map .event)
    let f := (EditError.unknownClass "word").fault
    f.isOrdinary = true ∧ s.fault? (.insert "g" "word") = some f ∧
      s.after (.insert "g" "word") = s ∧ (d.performed (.insert "g" "word")).1 = some f ∧
      Unchanged d (d.performed (.insert "g" "word")).2 := by
  intro events s d f
  have hf : f.isOrdinary = true := rfl
  obtain ⟨hiff, hsame, -, hfault, hunchanged⟩ :=
    refused_calls_change_nothing (.given echo) events (.insert "g" "word") hf
  have hx : s.fault? (.insert "g" "word") = some f := hiff.mpr rfl
  have hd : (d.performed (.insert "g" "word")).1 = some f := hfault.trans hx
  exact ⟨hf, hx, hsame hx, hd, hunchanged hd⟩

end DeskCalc.Session
