import DeskCalc.Prompt
import DeskCalc.Proofs.Display
import DeskCalc.Proofs.Session.Advance

namespace DeskCalc

/-- The engine has been interrupted. -/
def Turn.Interrupted (t : Turn) : Prop := ∃ f, t.fault = some f ∧ f.isOrdinary = false

namespace Prompt

/-- The words of a line that is a command, none if it does not fall into words. -/
def commandWords? (line : String) : Option (List String) :=
  match line.toList with
  | ':' :: rest => some ((Text.words (.ofList rest)).toOption.getD [])
  | _ => none

/-- A line is a command with words, or submits: itself, or the active text if it is empty. -/
theorem handle_cases (p : Prompt) (line : String) :
    (∃ text, p.handle line = p.command text ∧
      commandWords? line = some ((Text.words text).toOption.getD [])) ∨
    commandWords? line = none ∧ (p.handle line = p.submit ∨ p.handle line = p.submitText line) := by
  unfold handle
  split
  · rename_i rest hl
    exact .inl ⟨.ofList rest, rfl, by simp [commandWords?, hl]⟩
  · rename_i hl
    exact .inr ⟨by simp [commandWords?, hl], .inl rfl⟩
  · rename_i hcommand _
    refine .inr ⟨?_, .inr rfl⟩
    unfold commandWords?
    split
    · exact absurd ‹_› (hcommand _)
    · rfl

/-- Whether a command submits through a list of keys and then breaks the list off. -/
def breaksOff : List String → Bool
  | name :: labels =>
    name = "key" && !labels.all Keyboard.hasKey &&
      (labels.takeWhile Keyboard.hasKey).any Keyboard.submits
  | [] => false

/-- Whether a command comes to a flush, if there is something to show: it is one for the keyboard,
and goes through. -/
def flushes : List String → Bool
  | name :: labels =>
    (name = "key" && labels.all Keyboard.hasKey) || (actionCommand? name).isSome
  | [] => false

/-- Whether cells are missing after a command, if they were missing before it. -/
def lagAfter (behind : Bool) (words : List String) : Bool :=
  breaksOff words || behind && !flushes words

/-- Whether cells are missing after a line. One that is no command submits, and then flushes. -/
def behindAfter (behind : Bool) (line : String) : Bool :=
  ((commandWords? line).map (lagAfter behind)).getD false

/-- The part of a turn that flushes have shown. A turn that flushes shows nothing else. -/
def flushed (p : Prompt) (t : Turn) : String :=
  if t.prompt.printed = p.printed then "" else t.output

/-- The text of all flushes so far is `shown`, and `behind` says whether it leaves out a settled
cell. -/
structure Settled (p : Prompt) (behind : Bool) (shown : String) : Prop where
  coherent : p.session.Coherent
  ready : p.session.adapter.isReady = true
  text : shown = Display.cellsText 0 (p.session.transcript.cells.take p.printed)
  place : ∃ i, p.session.transcript.activeIndex = some i ∧ p.printed ≤ i ∧
    (p.printed < i ↔ behind = true)

/-- What a turn leaves. If it ends with a fault it has not flushed. -/
structure Leaves (p : Prompt) (t : Turn) (behind : Bool) (shown : String) : Prop where
  settled : t.prompt.Settled behind (shown ++ p.flushed t)
  failed : t.fault ≠ none → t.prompt.printed = p.printed

variable {p : Prompt} {behind moved : Bool} {shown : String}

/-- A call that submits leaves cells behind to be shown, and no other call does. -/
theorem Settled.advance (h : p.Settled behind shown) {s' : Session}
    (ha : p.session.Advances s' moved) : (p.withSession s').Settled (behind || moved) shown := by
  obtain ⟨i, hi, hpi, hb⟩ := h.place
  obtain ⟨i', j, hi', hj, hij, hm⟩ := ha.active
  obtain rfl : i = i' := Option.some.inj (hi.symm.trans hi')
  have hlen : i < p.session.transcript.cells.length := by
    rw [h.coherent.length_active hi]
    omega
  refine ⟨ha.coherent, ha.ready, ?_, j, hj, Nat.le_trans hpi hij, ?_⟩
  · rw [h.text, withSession, ha.grows.take hi hlen hpi]
  · rw [Bool.or_eq_true, ← hb, ← hm]
    change p.printed < j ↔ _
    omega

theorem Leaves.ofPrinted {q : Prompt} {t : Turn} (h : q.Leaves t behind shown)
    (hq : q.printed = p.printed) : p.Leaves t behind shown := by
  refine ⟨?_, ?_⟩
  · rw [flushed, ← hq]
    exact h.settled
  · rw [← hq]
    exact h.failed

/-- A turn that shows no cell of the transcript and does not touch it. -/
theorem Settled.keep (h : p.Settled behind shown) {t : Turn} (hs : t.prompt.session = p.session)
    (hp : t.prompt.printed = p.printed) : p.Leaves t behind shown := by
  refine ⟨?_, fun _ => hp⟩
  rw [flushed, if_pos hp, String.append_empty]
  refine ⟨?_, ?_, ?_, ?_⟩
  · rw [hs]
    exact h.coherent
  · rw [hs]
    exact h.ready
  · rw [hs, hp]
    exact h.text
  · rw [hs, hp]
    exact h.place

theorem Settled.flush_eq (h : p.Settled behind shown) {i : Nat}
    (hi : p.session.transcript.activeIndex = some i) :
    p.flush = ⟨Display.cellsText p.printed ((p.session.transcript.cells.take i).drop p.printed),
      { p with printed := i }, none⟩ := by
  obtain ⟨i', hi', hpi, -⟩ := h.place
  obtain rfl : i = i' := Option.some.inj (hi.symm.trans hi')
  have hlen := h.coherent.length_active hi
  have hset : p.settled = i := by rw [settled, hi, Option.getD_some]
  have hne : p.session.transcript.cells ≠ [] := by
    rw [← List.length_pos_iff]
    omega
  rw [flush, hset, Display.transcript_eq hpi (by omega) hne]
  simp [Turn.showing, Turn.andThen, Turn.silent, hset, Nat.max_eq_right hpi]

/-- A flush that shows nothing new shows nothing at all. -/
theorem Settled.flushed_flush (h : p.Settled behind shown) :
    p.flushed p.flush = p.flush.output := by
  obtain ⟨i, hi, -, -⟩ := h.place
  rw [flushed, h.flush_eq hi]
  split
  · rename_i he
    have hnone : (p.session.transcript.cells.take i).drop p.printed = [] := by
      rw [← he]
      simp
    rw [hnone]
    rfl
  · rfl

theorem Settled.leaves_flush (h : p.Settled behind shown) : p.Leaves p.flush false shown := by
  obtain ⟨i, hi, hpi, -⟩ := h.place
  have hlen := h.coherent.length_active hi
  refine ⟨?_, ?_⟩
  · rw [h.flushed_flush, h.flush_eq hi]
    refine ⟨h.coherent, h.ready, ?_, i, hi, Nat.le_refl i, by simp⟩
    rw [h.text]
    exact Display.cellsText_take_drop p.session.transcript.cells hpi (by omega)
  · rw [h.flush_eq hi]
    intro hf
    exact absurd rfl hf

theorem showing_prompt (p : Prompt) (text : Except Fault String) :
    (Turn.showing p text).prompt = p := by
  cases text <;> rfl

theorem Settled.leaves_showing (h : p.Settled behind shown) (text : Except Fault String) :
    p.Leaves (.showing p text) behind shown :=
  h.keep (by rw [showing_prompt]) (by rw [showing_prompt])

theorem Settled.leaves_say (h : p.Settled behind shown) (markup : String) :
    p.Leaves (p.say markup) behind shown :=
  h.leaves_showing _

/-- An edit that goes through leaves nothing missing, for it flushes where something is. -/
theorem Settled.leaves_afterEdit (h : p.Settled behind shown) :
    p.Leaves p.afterEdit false shown := by
  obtain ⟨i, hi, hpi, hb⟩ := h.place
  rw [afterEdit, hi, Option.getD_some]
  split
  · exact h.leaves_flush
  · rename_i hnot
    have hbehind : behind = false := by rwa [hb, Bool.not_eq_true] at hnot
    rw [hbehind] at h
    exact h.leaves_say _

theorem call_ok {α : Type} {f : Session → Except Fault α × Session} {a : α} {s' : Session}
    (h : f p.session = (.ok a, s')) (next : Prompt → Turn) :
    (p.call f).andThen next = next (p.withSession s') := by
  simp [call, h, Turn.silent, Turn.andThen]

theorem call_error {α : Type} {f : Session → Except Fault α × Session} {fault : Fault}
    {s' : Session} (h : f p.session = (.error fault, s')) (next : Prompt → Turn) :
    (p.call f).andThen next = .failed (p.withSession s') fault := by
  simp [call, h, Turn.failed, Turn.andThen]

/-- Whatever follows a call finds the session as the call leaves it, unless the engine
interrupts. -/
theorem Settled.leaves_call (h : p.Settled behind shown) {α : Type}
    {f : Session → Except Fault α × Session} (hf : p.session.Proceeds (f p.session) moved)
    {next : Prompt → Turn} {b : Bool}
    (hnext : ∀ q : Prompt, q.Settled (behind || moved) shown → q.Leaves (next q) b shown) :
    ((p.call f).andThen next).Interrupted ∨ p.Leaves ((p.call f).andThen next) b shown := by
  rcases hf with ⟨a, s', hs, ha⟩ | ⟨fault, s', hs, ho⟩
  · rw [call_ok hs]
    exact .inr ((hnext _ (h.advance ha)).ofPrinted rfl)
  · rw [call_error hs]
    exact .inl ⟨fault, rfl, ho⟩

/-- Keys are pressed up to the first label without a key, which alone is a mistake. -/
theorem Settled.pressAll (h : p.Settled behind shown) (labels : List String) :
    (p.pressAll labels).Interrupted ∨ ∃ (q : Prompt) (fault : Option Fault),
      p.pressAll labels = ⟨"", q, fault⟩ ∧
      (fault = none ↔ labels.all Keyboard.hasKey = true) ∧ q.printed = p.printed ∧
      q.Settled (behind || (labels.takeWhile Keyboard.hasKey).any Keyboard.submits) shown := by
  induction labels generalizing p behind with
  | nil => exact .inr ⟨p, none, rfl, by simp, rfl, by simpa using h⟩
  | cons label labels ih =>
    cases hk : Keyboard.hasKey label with
    | false =>
      rw [Prompt.pressAll, call_error (Session.press_unknown hk)]
      exact .inr ⟨p, _, rfl, by simp [hk], rfl, by simpa [hk] using h⟩
    | true =>
      rw [Prompt.pressAll]
      rcases h.coherent.proceeds_press h.ready hk with ⟨a, s', hs, ha⟩ | ⟨fault, s', hs, ho⟩
      · rw [call_ok hs]
        rcases ih (h.advance ha) with hi | ⟨q, fault, he, hall, hq, hsettled⟩
        · exact .inl hi
        · refine .inr ⟨q, fault, he, ?_, hq, ?_⟩
          · simpa [hk] using hall
          · simpa [hk, Bool.or_assoc] using hsettled
      · rw [call_error hs]
        exact .inl ⟨fault, rfl, ho⟩

/-- A list of keys comes to its flush unless a label without a key breaks it off; what has been
submitted before that is not shown. -/
theorem Settled.leaves_key (h : p.Settled behind shown) (labels : List String) :
    ((p.pressAll labels).andThen afterEdit).Interrupted ∨
      p.Leaves ((p.pressAll labels).andThen afterEdit) (!labels.all Keyboard.hasKey &&
        (behind || (labels.takeWhile Keyboard.hasKey).any Keyboard.submits)) shown := by
  rcases h.pressAll labels with ⟨f, hf, ho⟩ | ⟨q, fault, he, hall, hq, hs⟩
  · refine .inl ⟨f, ?_, ho⟩
    simp [Turn.andThen, hf]
  · rw [he]
    cases fault with
    | none =>
      have hnext : (Turn.mk "" q none).andThen afterEdit = q.afterEdit := by simp [Turn.andThen]
      rw [hnext, hall.mp rfl]
      exact .inr (hs.leaves_afterEdit.ofPrinted hq)
    | some f =>
      have hsome : labels.all Keyboard.hasKey = false := by
        rw [← Bool.not_eq_true, ← hall]
        simp
      rw [hsome]
      exact .inr ((hs.keep rfl rfl).ofPrinted hq)

theorem Settled.leaves_mod (h : p.Settled behind shown) (symbol : String) :
    p.Leaves ((p.call (·.toggle symbol)).andThen preview) behind shown := by
  have ha := (p.session.toggle_revised symbol).advances h.coherent h.ready
  cases ht : p.session.toggle symbol with
  | mk answer s' =>
    rw [ht] at ha
    have hs : (p.withSession s').Settled behind shown := by simpa using h.advance ha
    cases answer with
    | error f =>
      rw [call_error ht]
      exact (hs.keep rfl rfl).ofPrinted rfl
    | ok m =>
      rw [call_ok ht]
      exact (hs.leaves_say _).ofPrinted rfl

theorem lagAfter_key (labels : List String) :
    lagAfter behind ("key" :: labels) = (!labels.all Keyboard.hasKey &&
      (behind || (labels.takeWhile Keyboard.hasKey).any Keyboard.submits)) := by
  have ha : actionCommand? "key" = none := by decide
  rw [lagAfter, breaksOff, flushes, ha]
  cases behind <;> cases labels.all Keyboard.hasKey <;> simp

theorem lagAfter_action {name : String} {a : Action} (arguments : List String)
    (ha : actionCommand? name = some a) (hk : name ≠ "key") :
    lagAfter behind (name :: arguments) = false := by
  simp [lagAfter, breaksOff, flushes, ha, hk]

/-- A command that is none for the keyboard does not flush. -/
theorem lagAfter_other {name : String} (arguments : List String)
    (ha : actionCommand? name = none) (hk : name ≠ "key") :
    lagAfter behind (name :: arguments) = behind := by
  simp [lagAfter, breaksOff, flushes, ha, hk]

/-- By the name, in the order in which it is compared; only two of the branches flush. -/
theorem Settled.leaves_carryOut (h : p.Settled behind shown) (name : String)
    (arguments : List String) : (p.carryOut name arguments).Interrupted ∨
      p.Leaves (p.carryOut name arguments) (lagAfter behind (name :: arguments)) shown := by
  unfold carryOut
  split
  · rename_i hquit
    have hother : lagAfter behind (name :: arguments) = behind := by
      have : name = "quit" ∨ name = "q" ∨ name = "exit" := by simpa using hquit
      rcases this with rfl | rfl | rfl <;> exact lagAfter_other _ (by decide) (by decide)
    rw [hother]
    exact .inr (h.keep rfl rfl)
  split
  · rename_i hhelp
    rw [hhelp, lagAfter_other _ (by decide) (by decide)]
    exact .inr (h.keep rfl rfl)
  split
  · rename_i hkeys
    rw [hkeys, lagAfter_other _ (by decide) (by decide)]
    exact .inr (h.keep rfl rfl)
  split
  · rename_i hshow
    rw [hshow, lagAfter_other _ (by decide) (by decide)]
    exact .inr (h.leaves_showing _)
  split
  · rename_i hkey
    rw [hkey, lagAfter_key]
    exact h.leaves_key arguments
  rename_i hkey
  split
  · rename_i hmod
    rw [hmod, lagAfter_other _ (by decide) (by decide)]
    split
    · exact .inr (h.leaves_mod _)
    · exact .inr (h.leaves_say _)
  split
  · rename_i a ha
    rw [lagAfter_action _ ha hkey]
    exact h.leaves_call (h.coherent.proceeds_act h.ready a) fun q hq => hq.leaves_afterEdit
  · rename_i ha
    rw [lagAfter_other _ ha hkey]
    exact .inr (h.leaves_say _)

theorem Leaves.explained {t : Turn} (h : p.Leaves t behind shown) :
    p.Leaves (explained t) behind shown := by
  unfold Prompt.explained
  split
  · exact h
  · rename_i f hf
    have hp : t.prompt.printed = p.printed := h.failed (by simp [hf])
    split
    · -- The message comes after a turn that has flushed nothing.
      have hs := h.settled
      rw [flushed, if_pos hp, String.append_empty] at hs
      have hsaid (m : String) : (({ t with fault := none } : Turn).andThen (·.say m)).prompt =
          t.prompt := showing_prompt t.prompt _
      exact (hs.keep (by rw [hsaid]) (by rw [hsaid])).ofPrinted hp
    · exact h

theorem explained_interrupted {t : Turn} (h : t.Interrupted) : (explained t).Interrupted := by
  obtain ⟨f, hf, ho⟩ := h
  have hm : isMistake f = false := by
    have hk : f.kind = .interrupt := by simpa [Fault.isOrdinary] using ho
    simp [isMistake, hk]
  refine ⟨f, ?_, ho⟩
  simp [explained, hf, hm]

theorem Settled.leaves_command (h : p.Settled behind shown) (text : String) :
    (p.command text).Interrupted ∨
      p.Leaves (p.command text) (lagAfter behind ((Text.words text).toOption.getD [])) shown := by
  have hnil : lagAfter behind [] = behind := by simp [lagAfter, breaksOff, flushes]
  unfold command
  cases Text.words text with
  | error e =>
    rw [Except.toOption, Option.getD_none, hnil]
    exact .inr (h.leaves_say _)
  | ok words =>
    rw [Except.toOption, Option.getD_some]
    cases words with
    | nil =>
      rw [hnil]
      exact .inr (h.keep rfl rfl)
    | cons name arguments =>
      rcases h.leaves_carryOut name arguments with hi | hl
      · exact .inl (explained_interrupted hi)
      · exact .inr hl.explained

/-- What one line leaves, whatever it is, unless the engine is interrupted. -/
theorem Settled.leaves_handle (h : p.Settled behind shown) (line : String) :
    (p.handle line).Interrupted ∨ p.Leaves (p.handle line) (behindAfter behind line) shown := by
  rcases p.handle_cases line with ⟨text, hh, hw⟩ | ⟨hw, hh | hh⟩
  · rw [hh, behindAfter, hw]
    exact h.leaves_command text
  · rw [hh, behindAfter, hw]
    exact h.leaves_call (h.coherent.proceeds_submit h.ready) fun q hq => hq.leaves_flush
  · rw [hh, behindAfter, hw]
    exact h.leaves_call (h.coherent.proceeds_submitText h.ready line) fun q hq => hq.leaves_flush

end Prompt

end DeskCalc
