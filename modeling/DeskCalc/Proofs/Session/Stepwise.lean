import DeskCalc.Proofs.Editor.Stepwise
import DeskCalc.Proofs.Session.Submitting

namespace DeskCalc.Session

def faultOf {α : Type} : Except Fault α → Option Fault
  | .ok _ => none
  | .error f => some f

/-- The fault that an event ends with, if it ends with one. -/
def fault? (s : Session) : Event → Option Fault
  | .bootstrap => faultOf s.bootstrap.1
  | .edit text => faultOf (s.edit text).1
  | .submit => faultOf s.submit.1
  | .submitText text => faultOf (s.submitText text).1
  | .press label => faultOf (s.press label).1
  | .insert token className => faultOf (s.insert token className).1
  | .act name => faultOf (s.actNamed name).1
  | .toggle symbol => faultOf (s.toggle symbol).1
  | .report r => faultOf (s.deliver r).1

/-- A call of a session: it goes from session to session, and may end with a fault on its way. -/
abbrev Working := EStateM Fault Session

/-- A call that the composer takes. -/
def composing {α : Type} (call : Editor.Doing α) : Working α := fun s =>
  match call.run s.editor with
  | .ok a editor => .ok a { s with editor := editor }
  | .error x editor => .error x.fault { s with editor := editor }

/-- A call that the composer has no part in; what it answers is left out. -/
def directly {α : Type} (call : Session → Except Fault α × Session) : Working Unit := fun s =>
  match call s with
  | (.ok _, s) => .ok () s
  | (.error f, s) => .error f s

/-- A call that the composer takes, and the submission that it asks for. -/
def settling (call : Editor.Doing Bool) : Working Unit := do
  if ← composing call then directly submit

def performing : Event → Working Unit
  | .bootstrap => directly bootstrap
  | .edit text => composing (Editor.putText text)
  | .submit => directly submit
  | .submitText text => do
    composing (Editor.putText text)
    directly submit
  | .press label => settling (Editor.pressing label)
  | .insert token className => do
    let _ ← composing (Editor.inserting token className)
  | .act name => settling (Editor.acting name)
  | .toggle symbol => composing (Editor.toggling symbol)
  | .report r => directly (deliver · r)

/-- The fault that a call has ended with, if it has, and the session that it leaves. -/
def ended : EStateM.Result Fault Session Unit → Option Fault × Session
  | .ok _ d => (none, d)
  | .error f d => (some f, d)

def performed (d : Session) (x : Event) : Option Fault × Session := ended ((performing x).run d)

def worked (d : Session) : Move → Session
  | .event x => (d.performed x).2
  | .append c => d.withTranscript (d.transcript.append c)
  | .extend batch => d.withTranscript (d.transcript.extend batch)

def perform (d : Session) (moves : List Move) : Session := moves.foldl worked d

/-- The second session shows what the first one shows, however often its composer has looked. -/
structure Matches (s d : Session) : Prop where
  editor : s.editor.Matches d.editor
  adapter : d.adapter = s.adapter
  last : d.last = s.last

/-- A call has ended with the fault `fault`, or without one, and left a session that shows what `s`
shows. -/
def Ends (o : EStateM.Result Fault Session Unit) (fault : Option Fault) (s : Session) : Prop :=
  (ended o).1 = fault ∧ s.Matches (ended o).2

variable {s d : Session} {text : String}

theorem perform_snoc (d : Session) (moves : List Move) (m : Move) :
    d.perform (moves ++ [m]) = (d.perform moves).worked m := by
  simp [perform]

theorem Matches.transcript (h : s.Matches d) : d.transcript = s.transcript := h.editor.transcript

theorem Matches.withEditor (h : s.Matches d) {e e' : Editor} (he : e.Matches e') :
    Matches { s with editor := e } { d with editor := e' } :=
  ⟨he, h.adapter, h.last⟩

def withComposer (s : Session) (k : Composer) : Session :=
  { s with editor := { s.editor with composer := k } }

/-- A call that neither asks the composer nor changes it, and takes no cell away. -/
structure Apart {α : Type} (call : Session → Except Fault α × Session) : Prop where
  answer : ∀ s k, (call (s.withComposer k)).1 = (call s).1
  session : ∀ s k, (call (s.withComposer k)).2 = (call s).2.withComposer k
  composer : ∀ s, (call s).2.editor.composer = s.editor.composer
  generation : ∀ s, s.transcript.generation ≤ (call s).2.transcript.generation

theorem Matches.withComposer_eq (h : s.Matches d) : d = s.withComposer d.editor.composer := by
  obtain ⟨⟨t, k⟩, a, l⟩ := d
  obtain ⟨he, ha, hl⟩ := h
  obtain rfl : t = s.editor.transcript := he.transcript
  obtain rfl : a = s.adapter := ha
  obtain rfl : l = s.last := hl
  rfl

/-- A call that does not touch the composer comes to the same, whatever the composer remembers. -/
theorem Matches.directly {α : Type} {call : Session → Except Fault α × Session}
    (h : s.Matches d) (hc : Apart call) :
    Ends ((Session.directly call).run d) (faultOf (call s).1) (call s).2 := by
  have hended : ended ((Session.directly call).run d) = (faultOf (call d).1, (call d).2) := by
    have hrun : (Session.directly call).run d = Session.directly call d := rfl
    rw [hrun, Session.directly]
    rcases call d with ⟨answer, d'⟩
    cases answer <;> rfl
  have hd : d = s.withComposer d.editor.composer := h.withComposer_eq
  have hanswer : (call d).1 = (call s).1 := by rw [hd, hc.answer]
  have hsession : (call d).2 = (call s).2.withComposer d.editor.composer := by
    conv_lhs => rw [hd]
    exact hc.session s d.editor.composer
  have heditor : (call s).2.editor = s.editor.withTranscript (call s).2.transcript :=
    Editor.ext rfl (hc.composer s)
  have hmatches : (call s).2.Matches (call d).2 := by
    refine ⟨?_, by rw [hsession]; rfl, by rw [hsession]; rfl⟩
    rw [hsession, heditor]
    exact h.editor.withTranscript (hc.generation s)
  rw [Ends, hended, hanswer]
  exact ⟨rfl, hmatches⟩

theorem bootstrap_apart : Apart bootstrap := by
  refine ⟨fun _ _ => rfl, fun _ _ => rfl, fun _ => rfl, ?_⟩
  intro s
  by_cases hp : s.adapter.phase = .idle
  · rw [bootstrap_first hp]
    have hrelayed := Transcript.generation_le_foldl_append s.transcript s.adapter.source.start.cells
    rcases s.adapter.start_cases s.transcript with ⟨e, -, he⟩ | ⟨f, -, -, he⟩ | ⟨f, -, -, he⟩
    · rw [he]
      exact Nat.le_trans hrelayed (Transcript.generation_le_append _ _)
    · rw [he]
      exact Nat.le_trans hrelayed (Transcript.generation_le_append _ _)
    · rw [he]
      exact hrelayed
  · rw [bootstrap_again hp]

theorem deliver_apart (r : Report) : Apart (deliver · r) := by
  refine ⟨fun _ _ => rfl, fun _ _ => rfl, fun _ => rfl, ?_⟩
  intro s
  cases hc : r.cell? with
  | none => rw [deliver_refused hc]
  | some c =>
    cases hr : s.adapter.isReady with
    | false =>
      rw [deliver_early hr hc]
      exact Transcript.generation_le_append _ _
    | true =>
      have hlate := congrArg (fun d => d.transcript.generation) (deliver_late hr hc)
      exact Nat.le_of_eq hlate.symm

theorem submit_withComposer (s : Session) (k : Composer) :
    (s.withComposer k).submit = (s.submit.1, s.submit.2.withComposer k) := by
  have ht : (s.withComposer k).transcript = s.transcript := rfl
  unfold submit
  rw [ht]
  cases s.transcript.active? with
  | none => rfl
  | some text =>
    cases s.transcript.activeIndex with
    | none => rfl
    | some i =>
      have hask : ({ s.withComposer k with last := some (.started text i) } : Session).ask text =
          ((({ s with last := some (.started text i) } : Session).ask text).1,
            (({ s with last := some (.started text i) } : Session).ask text).2.withComposer k) :=
        rfl
      dsimp only
      rw [hask]
      rcases ({ s with last := some (.started text i) } : Session).ask text with ⟨answer, s'⟩
      cases answer with
      | ok produced => rfl
      | error f =>
        dsimp only
        split <;> rfl

theorem submit_composer (s : Session) : s.submit.2.editor.composer = s.editor.composer := by
  have h := congrArg (fun p => p.2.editor.composer) (submit_withComposer s s.editor.composer)
  exact h

theorem submit_apart : Apart submit := by
  refine ⟨?_, ?_, submit_composer, ?_⟩
  · intro s k
    rw [submit_withComposer]
  · intro s k
    rw [submit_withComposer]
  · intro s
    rcases s.submit_cases with ⟨-, ht⟩ | ⟨r, -, -, -, -, -, -, ht⟩
    · rw [ht]
    · rw [ht]
      exact Transcript.generation_le_extend _ _

theorem run_composing_ok {α : Type} {call : Editor.Doing α} {a : α} {editor : Editor}
    (h : call.run d.editor = .ok a editor) :
    (composing call).run d = .ok a { d with editor := editor } := by
  have hrun : (composing call).run d = composing call d := rfl
  rw [hrun, composing, h]

theorem run_composing_error {α : Type} {call : Editor.Doing α} {x : EditError} {editor : Editor}
    (h : call.run d.editor = .error x editor) :
    (composing call).run d = .error x.fault { d with editor := editor } := by
  have hrun : (composing call).run d = composing call d := rfl
  rw [hrun, composing, h]

theorem settle_fault (s : Session) :
    faultOf (s.settle (.ok .submit)).1 = faultOf s.submit.1 := by
  unfold settle
  rcases s.submit with ⟨answer, s'⟩
  cases answer <;> rfl

/-- What the composer asks for is done to both sessions in the same way. -/
theorem Matches.settling (h : s.Matches d) {call : Editor.Doing Bool}
    {r : Except EditError Effect} (hr : s.editor.Ends (call.run d.editor) r) :
    Ends ((Session.settling call).run d) (faultOf (s.settle r).1) (s.settle r).2 := by
  cases r with
  | error x =>
    obtain ⟨editor, hrun, hm⟩ := hr
    rw [Session.settling, EStateM.run_bind, run_composing_error hrun]
    exact ⟨rfl, h.withEditor hm⟩
  | ok effect =>
    cases effect with
    | edited e' =>
      obtain ⟨editor, hrun, hm⟩ := hr
      rw [Session.settling, EStateM.run_bind, run_composing_ok hrun]
      exact ⟨rfl, h.withEditor hm⟩
    | submit =>
      obtain ⟨editor, hrun, hm⟩ := hr
      have hsubmit := (h.withEditor hm).directly submit_apart
      rw [Session.settling, EStateM.run_bind, run_composing_ok hrun]
      rw [settle_fault, settle_submit]
      exact hsubmit

theorem Matches.putText (h : s.Matches d) (text : String) :
    Ends ((composing (Editor.putText text)).run d) (faultOf (s.edit text).1) (s.edit text).2 := by
  have hp := h.editor.putText text
  unfold edit
  cases he : s.editor.setText text with
  | ok e' =>
    simp only [he] at hp
    obtain ⟨editor, hrun, hm⟩ := hp
    rw [run_composing_ok hrun]
    exact ⟨rfl, h.withEditor hm⟩
  | error x =>
    simp only [he] at hp
    rw [run_composing_error hp]
    exact ⟨rfl, h⟩

/-- What is done one assignment after the other ends as what is done at once, and leaves a session
that shows the same. -/
theorem Matches.performed (h : s.Matches d) (x : Event) :
    (d.performed x).1 = s.fault? x ∧ (s.after x).Matches (d.performed x).2 := by
  cases x with
  | bootstrap => exact h.directly bootstrap_apart
  | edit text => exact h.putText text
  | submit => exact h.directly submit_apart
  | submitText text =>
    have hput := h.putText text
    simp only [Session.performed, performing, EStateM.run_bind, fault?, after, submitText]
    rcases hs : s.edit text with ⟨answer, s'⟩
    cases hrun : (composing (Editor.putText text)).run d with
    | ok u d' =>
      rw [hs, hrun] at hput
      cases answer with
      | ok _ => exact hput.2.directly submit_apart
      | error f => cases hput.1
    | error f d' =>
      rw [hs, hrun] at hput
      cases answer with
      | ok _ => cases hput.1
      | error f' => exact hput
  | press label => exact h.settling (h.editor.pressing label)
  | insert token className =>
    have hi := h.editor.inserting token className
    simp only [Session.performed, performing, EStateM.run_bind, fault?, after, insert]
    cases he : s.editor.insertNamed token className with
    | ok p =>
      simp only [he] at hi
      rw [run_composing_ok hi]
      obtain ⟨cls, -, hinsert⟩ := Editor.insertNamed_made he
      obtain ⟨-, -, -, -, hk⟩ := Editor.insert_made hinsert
      have hdated : p.2.Dated := Nat.le_of_eq (congrArg Composer.generation hk)
      exact ⟨rfl, h.withEditor (.refl hdated)⟩
    | error x =>
      simp only [he] at hi
      obtain ⟨editor, hrun, hm⟩ := hi
      rw [run_composing_error hrun]
      exact ⟨rfl, h.withEditor hm⟩
  | act name => exact h.settling (h.editor.acting name)
  | toggle symbol =>
    have ht := h.editor.toggling symbol
    simp only [Session.performed, performing, fault?, after, toggle]
    cases he : s.editor.toggleNamed symbol with
    | ok e' =>
      simp only [he] at ht
      obtain ⟨editor, hrun, hm⟩ := ht
      rw [run_composing_ok hrun]
      exact ⟨rfl, h.withEditor hm⟩
    | error x =>
      simp only [he] at ht
      rw [run_composing_error ht]
      exact ⟨rfl, h⟩
  | report r => exact h.directly (deliver_apart r)

/-- Sessions in step stay so, whatever happens and whatever others put into the transcript. -/
theorem Matches.moved (h : s.Matches d) (m : Move) : (s.moved m).Matches (d.worked m) := by
  cases m with
  | event x => exact (h.performed x).2
  | append c =>
    refine ⟨?_, h.adapter, h.last⟩
    have ht : d.transcript.append c = s.transcript.append c := by rw [h.transcript]
    simp only [worked, ht]
    exact h.editor.withTranscript (Transcript.generation_le_append _ c)
  | extend batch =>
    refine ⟨?_, h.adapter, h.last⟩
    have ht : d.transcript.extend batch = s.transcript.extend batch := by rw [h.transcript]
    simp only [worked, ht]
    exact h.editor.withTranscript (Transcript.generation_le_extend _ batch)

theorem ofSource_matches (source : EngineSource) :
    (ofSource source).Matches (ofSource source) :=
  ⟨.refl (Nat.le_refl _), rfl, rfl⟩

theorem follow_matches (source : EngineSource) (moves : List Move) :
    ((ofSource source).follow moves).Matches ((ofSource source).perform moves) := by
  induction moves using List.reverseRecOn with
  | nil => exact ofSource_matches source
  | append_singleton moves m ih =>
    rw [follow_snoc, perform_snoc]
    exact ih.moved m

end DeskCalc.Session
