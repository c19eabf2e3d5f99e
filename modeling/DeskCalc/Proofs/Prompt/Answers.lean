import DeskCalc.Proofs.Prompt.Requests
import DeskCalc.Proofs.Session.Serving
import DeskCalc.Proofs.Text.Markup

namespace DeskCalc

open Text

namespace Prompt

/-- Words of the console that hold neither tags nor backslashes. -/
def isBare (words : String) : Bool := words.toList.all fun c => c ≠ '\\' && c ≠ '['

theorem bare_of_isBare {words : String} (h : isBare words = true) :
    ∀ c ∈ words.toList, c ≠ '\\' ∧ c ≠ '[' := by
  intro c hc
  have hboth := List.all_eq_true.mp h c hc
  simpa using hboth

/-- A text in red between words of the console can be shown, whatever it says: the closing tag is
read unless the text ends in a backslash before it, and what is left open does no harm. -/
theorem plainText_red {lead tail : String} (hlead : isBare lead = true) (htail : isBare tail = true)
    (text : String) : ∃ shown,
      plainText ("[red]" ++ lead ++ Markup.escape text ++ "[/red]" ++ tail) = .ok shown := by
  have hopen : "[red]".toList = Markup.bracketed "red".toList := by decide
  have hclose : "[/red]".toList = Markup.bracketed ('/' :: "red".toList) := by decide
  have hnone : Markup.tags 0 tail.toList = [] := by
    rw [← List.append_nil tail.toList, Markup.tags_words (bare_of_isBare htail), Markup.tags_nil]
  have hinside : Markup.isInside "red".toList = true := by decide
  obtain ⟨k, hk⟩ := Markup.tags_styled hinside (bare_of_isBare hlead) text tail.toList
  rw [hnone] at hk
  refine ⟨_, plainText_balanced ?_⟩
  simp only [String.toList_append, hopen, hclose, hk]
  split
  · decide
  · decide

/-- What stands behind the text in a preview: the modifier selected, if any. -/
def modifierMark : Option Modifier → String
  | some m => "  [magenta](" ++ m.symbol ++ "*)[/magenta]"
  | none => ""

/-- What follows the text ends no tag that the text may have begun. -/
theorem closesNothing_modifierMark (m : Option Modifier) :
    Markup.closesNothing (modifierMark m).toList = true := by
  rcases m with _ | m
  · decide
  · cases m <;> decide

theorem tags_modifierMark (m : Option Modifier) (k : Nat) :
    Markup.tags k (modifierMark m).toList =
      if m.isSome then ["magenta".toList, "/magenta".toList] else [] := by
  cases m with
  | none => exact Markup.tags_nil k
  | some m =>
    have hblank : (modifierMark (some m)).toList = ' ' :: (modifierMark (some m)).toList.tail := by
      cases m <;> decide
    have hnotag : ' ' = '[' → Markup.tag? (modifierMark (some m)).toList.tail = none := by
      intro hc
      exact absurd hc (by decide)
    rw [hblank, Markup.tags_plain (by decide) hnotag]
    cases m <;> decide +kernel

/-- The words before the cursor, the active text and the modifier selected. -/
theorem plainText_preview (label : String) (text : Option String) (m : Option Modifier) :
    ∃ shown, plainText ("[dim]" ++ Markup.escape label ++ "[/dim]" ++
      (text.map Markup.escape).getD "" ++ modifierMark m) = .ok shown := by
  have hopen : "[dim]".toList = Markup.bracketed "dim".toList := by decide
  have hclose : "[/dim]".toList = Markup.bracketed ('/' :: "dim".toList) := by decide
  have hactive : Markup.tags 0
      (((text.map Markup.escape).getD "").toList ++ (modifierMark m).toList) =
        if m.isSome then ["magenta".toList, "/magenta".toList] else [] := by
    cases text with
    | none => exact tags_modifierMark m 0
    | some text =>
      obtain ⟨k, hk⟩ := Markup.tags_escape text (closesNothing_modifierMark m)
      exact hk.trans (tags_modifierMark m k)
  have hinside : Markup.isInside "dim".toList = true := by decide
  have hbare : ∀ c ∈ ([] : List Char), c ≠ '\\' ∧ c ≠ '[' := by simp
  obtain ⟨k, hk⟩ := Markup.tags_styled hinside hbare label
    (((text.map Markup.escape).getD "").toList ++ (modifierMark m).toList)
  rw [hactive, List.append_nil, ← List.append_assoc] at hk
  refine ⟨_, plainText_balanced ?_⟩
  simp only [String.toList_append, hopen, hclose, hk]
  split
  · cases m.isSome <;> decide
  · cases m.isSome <;> decide

theorem plainText_unknown (name : String) : ∃ shown,
    plainText ("[red]Unknown command: :" ++ Markup.escape name ++ "[/red] (try :help)") =
      .ok shown := by
  have hlead : "[red]Unknown command: :" = "[red]" ++ "Unknown command: :" := by decide
  have htail : "[/red] (try :help)" = "[/red]" ++ " (try :help)" := by decide
  rw [hlead, htail, ← String.append_assoc]
  exact plainText_red (by decide) (by decide) name

theorem plainText_message (message : String) : ∃ shown,
    plainText ("[red]" ++ Markup.escape message ++ "[/red]") = .ok shown := by
  have hbare : isBare "" = true := rfl
  simpa using plainText_red hbare hbare message

theorem plainText_usage : ∃ shown, plainText "[red]Usage: :mod M[/red]" = .ok shown :=
  ⟨"Usage: :mod M", by decide +kernel⟩

structure Serves (p : Prompt) (running : Bool) : Prop where
  session : p.session.Serving
  running : p.running = running

/-- A turn after which the prompt serves, and which has at most a mistake in a command to report. -/
structure Attempts (t : Turn) (running : Bool) : Prop where
  serves : t.prompt.Serves running
  mistaken : ∀ f, t.fault = some f → isMistake f = true

/-- A turn after which the prompt serves and nothing is left to report. -/
structure Answers (t : Turn) (running : Bool) : Prop where
  serves : t.prompt.Serves running
  answered : t.fault = none

variable {p : Prompt} {t : Turn} {running : Bool}

theorem Answers.attempts (h : Answers t running) : Attempts t running := by
  refine ⟨h.serves, ?_⟩
  intro f hf
  cases h.answered.symm.trans hf

theorem Serves.silent (h : p.Serves running) : Answers (.silent p) running := ⟨h, rfl⟩

theorem Serves.withSession (h : p.Serves running) {s : Session} (hs : s.Serving) :
    (p.withSession s).Serves running :=
  ⟨hs, h.running⟩

theorem Serves.showing (h : p.Serves running) {shown : Except Fault String}
    (hs : ∃ text, shown = .ok text) : Answers (.showing p shown) running := by
  obtain ⟨text, rfl⟩ := hs
  exact ⟨h, rfl⟩

theorem Serves.say (h : p.Serves running) {markup : String}
    (hm : ∃ text, plainText markup = .ok text) : Answers (p.say markup) running := by
  obtain ⟨text, ht⟩ := hm
  refine h.showing ⟨Display.line text, ?_⟩
  rw [ht]
  rfl

theorem andThen_answered (h : t.fault = none) (next : Prompt → Turn) :
    (t.andThen next).prompt = (next t.prompt).prompt ∧
      (t.andThen next).fault = (next t.prompt).fault := by
  simp [Turn.andThen, h]

theorem Answers.andThen {next : Prompt → Turn} {after : Bool} (h : Answers t running)
    (hnext : ∀ q : Prompt, q.Serves running → Answers (next q) after) :
    Answers (t.andThen next) after := by
  obtain ⟨hprompt, hfault⟩ := andThen_answered h.answered next
  have hn := hnext t.prompt h.serves
  exact ⟨hprompt ▸ hn.serves, hfault ▸ hn.answered⟩

/-- The first mistake ends what is attempted; up to there all has been carried out. -/
theorem Attempts.andThen {next : Prompt → Turn} (h : Attempts t running)
    (hnext : ∀ q : Prompt, q.Serves running → Attempts (next q) running) :
    Attempts (t.andThen next) running := by
  cases hf : t.fault with
  | some f =>
    have hkept : t.andThen next = t := by simp [Turn.andThen, hf]
    rw [hkept]
    exact h
  | none =>
    obtain ⟨hprompt, hfault⟩ := andThen_answered hf next
    have hn := hnext t.prompt h.serves
    exact ⟨hprompt ▸ hn.serves, hfault ▸ hn.mistaken⟩

theorem Serves.flush (h : p.Serves running) : Answers p.flush running := by
  have hstop : ∀ n, some p.settled = some n → n ≤ p.session.transcript.cells.length := by
    intro n hn
    obtain ⟨i, -, hi, -⟩ := h.session.coherent.open_active h.session.isReady
    have hlen := h.session.coherent.length_active hi
    rw [← Option.some.inj hn, settled, hi, Option.getD_some]
    omega
  have hshown := Display.transcript_ok p.session.transcript p.printed (some p.settled) false hstop
  exact (h.showing hshown).andThen fun q hq => ⟨⟨hq.session, hq.running⟩, rfl⟩

/-- A preview is markup with two texts in it that are not of the console, both of them escaped. -/
theorem preview_eq (p : Prompt) : p.preview =
    p.say ("[dim]" ++ Markup.escape p.label ++ "[/dim]" ++
      (p.session.transcript.active?.map Markup.escape).getD "" ++
        modifierMark p.session.editor.composer.modifier) := by
  unfold Prompt.preview
  cases p.session.editor.composer.modifier <;> rfl

theorem Serves.preview (h : p.Serves running) : Answers p.preview running := by
  rw [preview_eq]
  exact h.say (plainText_preview _ _ _)

theorem Serves.afterEdit (h : p.Serves running) : Answers p.afterEdit running := by
  unfold Prompt.afterEdit
  split
  · exact h.flush
  · exact h.preview

theorem Serves.showAll (h : p.Serves running) : Answers p.showAll running := by
  have hstop : ∀ n, none = some n → n ≤ p.session.transcript.cells.length := by simp
  exact h.showing (Display.transcript_ok p.session.transcript 0 none p.showHints hstop)

/-- Keys are pressed one after the other, up to a label that no key has. -/
theorem Serves.pressAll (h : p.Serves running) (labels : List String) :
    Attempts (p.pressAll labels) running := by
  induction labels generalizing p with
  | nil => exact h.silent.attempts
  | cons label labels ih =>
    rw [Prompt.pressAll]
    cases hk : Keyboard.hasKey label with
    | false =>
      rw [call_error (Session.press_unknown hk)]
      refine ⟨h, ?_⟩
      intro f hf
      rw [← Option.some.inj hf]
      rfl
    | true =>
      obtain ⟨s', hs, hserving⟩ := h.session.press_ok hk
      rw [call_ok hs]
      exact ih (h.withSession hserving)

theorem Serves.mod (h : p.Serves running) (symbol : String) :
    Attempts ((p.call (·.toggle symbol)).andThen Prompt.preview) running := by
  have hs : (p.session.toggle symbol).2.Serving :=
    h.session.revised (p.session.toggle_revised symbol)
  cases hm : Modifier.ofSymbol? symbol with
  | none =>
    have ht : p.session.toggle symbol = (.error (EditError.unknownModifier symbol).fault,
        (p.session.toggle symbol).2) := by
      simp only [Session.toggle, Editor.toggleNamed, hm]
    rw [call_error ht]
    refine ⟨h.withSession hs, ?_⟩
    intro f hf
    rw [← Option.some.inj hf]
    rfl
  | some m =>
    have ht : ∃ chosen, p.session.toggle symbol = (.ok chosen, (p.session.toggle symbol).2) := by
      simp only [Session.toggle, Editor.toggleNamed, hm]
      exact ⟨_, rfl⟩
    obtain ⟨chosen, ht⟩ := ht
    rw [call_ok ht]
    exact (h.withSession hs).preview.attempts

def leaves (name : String) : Bool := ["quit", "q", "exit"].contains name

theorem Serves.carryOut (h : p.Serves running) (name : String) (arguments : List String) :
    Attempts (p.carryOut name arguments) (running && !leaves name) := by
  unfold Prompt.carryOut
  split
  · rename_i hleaves
    refine ⟨⟨h.session, ?_⟩, by simp [Turn.silent]⟩
    rw [leaves, hleaves]
    simp [Turn.silent]
  rename_i hstays
  have hkept : (running && !leaves name) = running := by
    rw [Bool.not_eq_true] at hstays
    rw [leaves, hstays]
    simp
  rw [hkept]
  split
  · exact ⟨h, by simp⟩
  split
  · exact ⟨h, by simp⟩
  split
  · exact h.showAll.attempts
  split
  · exact (h.pressAll arguments).andThen fun q hq => hq.afterEdit.attempts
  split
  · split
    · exact h.mod _
    · exact (h.say plainText_usage).attempts
  split
  · rename_i a _
    obtain ⟨s', hs, hserving⟩ := h.session.act_ok a
    rw [call_ok hs]
    exact (h.withSession hserving).afterEdit.attempts
  · exact (h.say (plainText_unknown name)).attempts

/-- A mistake in a command is explained, and the prompt goes on. -/
theorem Attempts.explained (h : Attempts t running) : Answers (explained t) running := by
  unfold Prompt.explained
  split
  · rename_i hf
    exact ⟨h.serves, hf⟩
  · rename_i f hf
    rw [if_pos (h.mistaken f hf)]
    have ht : Answers { t with fault := none } running := ⟨h.serves, rfl⟩
    exact ht.andThen fun q hq => hq.say (plainText_message _)

def wordsLeave : List String → Bool
  | name :: _ => leaves name
  | [] => false

/-- Whether a line is a command to leave. -/
def quits (line : String) : Bool := ((commandWords? line).map wordsLeave).getD false

/-- Words that cannot be told apart are a mistake as well, and explained. -/
theorem Serves.command (h : p.Serves running) (text : String) :
    Answers (p.command text) (running && !wordsLeave ((words text).toOption.getD [])) := by
  have hstays : (running && !wordsLeave []) = running := Bool.and_true running
  unfold Prompt.command
  cases words text with
  | error e =>
    rw [Except.toOption, Option.getD_none, hstays]
    exact h.say (plainText_message e.message)
  | ok found =>
    rw [Except.toOption, Option.getD_some]
    cases found with
    | nil =>
      rw [hstays]
      exact h.silent
    | cons name arguments => exact (h.carryOut name arguments).explained

/-- Every line is answered, and only a command to leave stops the prompt. -/
theorem Serves.handle (h : p.Serves running) (line : String) :
    Answers (p.handle line) (running && !quits line) := by
  rcases p.handle_cases line with ⟨text, hh, hw⟩ | ⟨hw, hh | hh⟩
  · rw [hh, quits, hw]
    exact h.command text
  · obtain ⟨r, s', hs, hserving⟩ := h.session.submit_ok
    rw [hh, quits, hw, submit, call_ok hs]
    simpa using (h.withSession hserving).flush
  · obtain ⟨r, s', hs, hserving⟩ := h.session.submitText_ok line
    rw [hh, quits, hw, submitText, call_ok hs]
    simpa using (h.withSession hserving).flush

end Prompt

end DeskCalc
