import DeskCalc.Proofs.CommandLine.Evaluation
import DeskCalc.Proofs.Prompt.Conversation

namespace DeskCalc

theorem Transcript.Open.take_append {t : Transcript} {text : String} (h : t.Open text) {i : Nat}
    (hi : t.cells.length = i + 1) : t.cells.take i ++ [.input text] = t.cells := by
  have hbefore : t.cells.take i = t.cells.dropLast := by
    rw [List.dropLast_eq_take, hi, Nat.add_sub_cancel]
  rw [hbefore]
  exact List.dropLast_append_getLast? _ h.last

theorem Display.transcript_all {t : Transcript} (hne : t.cells ≠ []) :
    transcript t 0 none false = .ok (cellsText 0 t.cells) := by
  have hcells : transcript t 0 none false = transcript t 0 (some t.cells.length) false := rfl
  have hshown := transcript_eq (Nat.zero_le _) (Nat.le_refl _) hne
  rw [List.take_length, List.drop_zero] at hshown
  exact hcells.trans hshown

namespace Prompt

open Session

/-- A line that is an expression: it says something, and is no command. -/
def isPlain (line : String) : Bool := line.toList.head?.any (· ≠ ':')

variable {p : Prompt} {behind : Bool} {shown line : String} {lines : List String}

theorem handle_plain (p : Prompt) (h : isPlain line = true) : p.handle line = p.submitText line := by
  unfold handle
  split
  · rename_i hl
    simp [isPlain, hl] at h
  · rename_i hl
    simp [isPlain, hl] at h
  · rfl

theorem quits_plain (h : isPlain line = true) : quits line = false := by
  unfold quits commandWords?
  split
  · rename_i hl
    simp [isPlain, hl] at h
  · rfl

theorem flush_session (p : Prompt) : p.flush.prompt.session = p.session := by
  unfold flush
  cases Display.transcript p.session.transcript p.printed (some p.settled) false <;> rfl

/-- A turn that has submitted a line: its session is the one that the submission leaves, and all
that it shows are the cells that this has settled. -/
structure Submits (p : Prompt) (line : String) (t : Turn) (shown : String) : Prop where
  session : ∃ r, p.session.submitText line = (.ok r, t.prompt.session)
  flushed : p.flushed t = t.output
  settled : t.prompt.Settled false (shown ++ t.output)

/-- A plain line is submitted, and what it settles is shown at once. -/
theorem Settled.submits (h : p.Settled behind shown) (hp : p.Serves true)
    (hl : isPlain line = true) : p.Submits line (p.handle line) shown := by
  rw [p.handle_plain hl, submitText]
  obtain ⟨r, s', hs, -⟩ := hp.session.submitText_ok line
  rcases h.coherent.proceeds_submitText h.ready line with ⟨r', s'', hs', ha⟩ | ⟨f, s'', hf, -⟩
  · obtain ⟨rfl, rfl⟩ : r = r' ∧ s' = s'' := by simpa using hs.symm.trans hs'
    have hsubmitted := h.advance ha
    have hflushed := hsubmitted.flushed_flush
    rw [call_ok hs]
    refine ⟨⟨r, ?_⟩, hflushed, ?_⟩
    · rw [hs, flush_session]
      rfl
    · rw [← hflushed]
      exact hsubmitted.leaves_flush.settled
  · cases hs.symm.trans hf

/-- A prompt that runs asks for a line, whatever it is going to hear. -/
theorem converse_running (h : p.running = true) (output : String) (lines : List (Option String)) :
    ∃ rs, (p.converse output lines).requests = ⟨output, p⟩ :: rs := by
  unfold converse
  split
  · rw [if_pos h]
    dsimp only
    split
    · exact ⟨_, rfl⟩
    · exact ⟨_, rfl⟩
  · rw [if_pos h]
    exact ⟨_, rfl⟩

/-- A conversation in which lines have been submitted: its session is the one that they leave, all
that has been shown between the requests are the cells they have settled, and none of these is
missing. -/
structure Conversation.Submits (c : Conversation) (p : Prompt) (lines : List String)
    (output shown : String) : Prop where
  answered : c.last.fault = none
  ended : c.last.output = Display.line ""
  asked : c.requests.length = lines.length + 1
  session : ∃ succeeded,
    CommandLine.submitAll p.session lines = (.ok succeeded, c.last.prompt.session)
  flushed : String.join (c.requests.map Request.output) =
    output ++ flushedText p.printed c.requests.tail
  settled : c.last.prompt.Settled false (shown ++ flushedText p.printed c.requests.tail)

/-- By induction on the lines, each of which leaves the prompt settled for the one after it. -/
theorem Settled.conversation (h : p.Settled false shown) (hp : p.Serves true) (output : String)
    (hl : ∀ line ∈ lines, isPlain line = true) :
    (p.converse output (lines.map some)).Submits p lines output shown := by
  induction lines generalizing p output shown with
  | nil =>
    rw [List.map_nil, converse_unheard hp.running output (.inl rfl)]
    refine ⟨rfl, rfl, rfl, ⟨true, rfl⟩, ?_, ?_⟩
    · simp [flushedText]
    · simpa [flushedText] using h
  | cons line lines ih =>
    obtain ⟨hline, hlines⟩ := List.forall_mem_cons.mp hl
    have ha := hp.handle line
    rw [quits_plain hline] at ha
    obtain ⟨⟨r, hs⟩, hflushed, hsettled⟩ := h.submits hp hline
    have hrest := ih hsettled ha.serves (p.handle line).output hlines
    obtain ⟨succeeded, hall⟩ := hrest.session
    obtain ⟨rs, hrs⟩ := converse_running ha.serves.running (p.handle line).output (lines.map some)
    have hsaid := hrest.flushed
    have hshown := hrest.settled
    rw [List.map_cons, converse_answered hp.running ha.answered]
    rw [hrs, List.tail_cons] at hsaid hshown
    refine ⟨hrest.answered, hrest.ended, ?_, ⟨r.isSuccess && succeeded, ?_⟩, ?_, ?_⟩
    · simp [hrest.asked]
    · rw [CommandLine.submitAll, hs]
      simp only [hall]
      rfl
    · rw [List.map_cons, String.join_cons, hrs, List.tail_cons, flushedText_cons, hflushed, hsaid]
    · rw [List.tail_cons, hrs, flushedText_cons, hflushed, ← String.append_assoc]
      exact hshown

/-- What is left to show of a settled transcript is the text that is offered. -/
theorem Settled.transcript_eq (h : p.Settled false shown) :
    ∃ i text, p.session.transcript.activeIndex = some i ∧
      p.session.transcript.cells.length = i + 1 ∧
      p.session.transcript.cells.getLast? = some (.input text) ∧
      Display.transcript p.session.transcript 0 none false =
        .ok (shown ++ Display.cell i true false (.input text)) := by
  obtain ⟨text, hopen⟩ := h.coherent.ready h.ready
  obtain ⟨i, hi, hpi, hb⟩ := h.place
  have hprinted : p.printed = i := by
    have hnot : ¬ p.printed < i := by simp [hb]
    omega
  have hlen := h.coherent.length_active hi
  have htake : (p.session.transcript.cells.take i).length = i := by
    rw [List.length_take]
    omega
  refine ⟨i, text, hi, hlen, hopen.last, ?_⟩
  calc
    _ = .ok (Display.cellsText 0 p.session.transcript.cells) :=
      Display.transcript_all (List.length_pos_iff.mp hopen.nonempty)
    _ = .ok (Display.cellsText 0 (p.session.transcript.cells.take i ++ [.input text])) := by
      rw [hopen.take_append hlen]
    _ = .ok (Display.cellsText 0 (p.session.transcript.cells.take i) ++
        Display.cell i false false (.input text)) := by
      rw [Display.cellsText_append, htake, Nat.zero_add, Display.cellsText, Display.cellsText,
        String.append_empty]
    _ = _ := by rw [h.text, hprinted, Display.cell_no_hints i true]

/-- A prompt that has started an engine serves, and behind its opening words it has shown what the
engine has reported so far. -/
theorem start_serves {source : EngineSource} {e : Engine} (h : source.start.outcome = .ok e)
    (ho : e.Ordinary) (showHints : Bool) :
    let start := (ofSession (.ofSource source) showHints).start
    start.2 = true ∧ (ofSource source).bootstrap = (.ok true, start.1.prompt.session) ∧
      start.1.prompt.Serves true ∧
      ∃ opening, start.1.output = openingText showHints ++ opening ∧
        start.1.prompt.Settled false opening := by
  intro start
  obtain ⟨s, hs, -⟩ := bootstrap_offers h
  have hordinary : ∀ e', source.start.outcome = .ok e' → e'.Ordinary := by
    intro e' he'
    rw [← Except.ok.inj (h.symm.trans he')]
    exact ho
  obtain ⟨opening, q, hfirst, hq, hsettled⟩ := start_flushes hs showHints
  have hstarted : start.2 = true := by
    have hb : (ofSession (.ofSource source) showHints).session.bootstrap = (.ok true, s) := hs
    simp only [start, Prompt.start, hb]
  refine ⟨hstarted, ?_, (start_answers hordinary hstarted).serves, opening, ?_, ?_⟩
  · rw [hs, hfirst, hq]
  · rw [hfirst]
  · rw [hfirst]
    exact hsettled

end Prompt

namespace CommandLine

open Session

/-- Expressions said to the prompt leave the transcript that they leave on the command line, where
what is shown of it is what the prompt has shown so far, and then the text that it offers. -/
theorem prompt_shows_evaluation (source : EngineSource) {e : Engine}
    (h : source.start.outcome = .ok e) (ho : e.Ordinary) {lines : List String}
    (hl : ∀ line ∈ lines, Prompt.isPlain line = true) :
    let start := (Prompt.ofSession (.ofSource source) false).start
    let c := start.1.prompt.converse start.1.output (lines.map some)
    let flushed := start.1.output ++ Prompt.flushedText start.1.prompt.printed c.requests.tail
    let t := c.last.prompt.session.transcript
    start.2 = true ∧ c.last.fault = none ∧ c.requests.length = lines.length + 1 ∧
      String.join (c.requests.map Prompt.Request.output) = flushed ∧
      c.last.output = Display.line "" ∧
      ∃ (succeeded : Bool) (i : Nat) (text : String),
        evaluate (ofSource source) lines = (.ok succeeded, c.last.prompt.session) ∧
        t.activeIndex = some i ∧ t.cells.length = i + 1 ∧
        t.cells.getLast? = some (.input text) ∧
        eval (ofSource source) lines false = ⟨if succeeded then 0 else 1,
          flushed ++ Display.cell i true false (.input text), none⟩ := by
  intro start c flushed t
  obtain ⟨hstarted, hbootstrap, hserves, opening, hopening, hsettled⟩ :=
    Prompt.start_serves h ho false
  have hc : c.Submits start.1.prompt lines start.1.output opening :=
    hsettled.conversation hserves start.1.output hl
  obtain ⟨succeeded, hall⟩ := hc.session
  have hevaluate : evaluate (ofSource source) lines = (.ok succeeded, c.last.prompt.session) := by
    rw [evaluate, hbootstrap]
    exact hall
  -- Without hints nothing is shown at the start but the cells of the transcript.
  have hflushed : opening ++ Prompt.flushedText start.1.prompt.printed c.requests.tail =
      flushed := by
    have hfirst : start.1.output = opening := by
      rw [hopening]
      exact String.empty_append
    rw [← hfirst]
  obtain ⟨i, text, hi, hlen, hlast, hshown⟩ := hc.settled.transcript_eq
  refine ⟨hstarted, hc.answered, hc.asked, hc.flushed, hc.ended, succeeded, i, text, hevaluate, hi,
    hlen, hlast, ?_⟩
  have htext : shown c.last.prompt.session.transcript false =
      .ok (flushed ++ Display.cell i true false (.input text)) := by
    rw [← hflushed]
    exact hshown
  exact eval_shown hevaluate htext

/-- Two expressions that fail around one that shows a number, the last of them offered again. -/
theorem stack_prompt_shows_evaluation :
    let lines := ["+", "2 p", "1 0 /"]
    let start := (Prompt.ofSession (.ofSource (.given .stack)) false).start
    let c := start.1.prompt.converse start.1.output (lines.map some)
    Engine.stack.Ordinary ∧ (∀ line ∈ lines, Prompt.isPlain line = true) ∧
      evaluate (ofSource (.given .stack)) lines = (.ok false, c.last.prompt.session) ∧
      eval (ofSource (.given .stack)) lines false =
        ⟨1, String.join (c.requests.map Prompt.Request.output) ++ "In [6]:   1 0 /\n", none⟩ := by
  intro lines start c
  have hplain : ∀ line ∈ lines, Prompt.isPlain line = true := by decide
  obtain ⟨-, -, -, hjoin, -, succeeded, i, text, hevaluate, hi, -, hlast, heval⟩ :=
    prompt_shows_evaluation (.given .stack) rfl Engine.stack_ordinary hplain
  have hsucceeded : (evaluate (ofSource (.given .stack)) lines).1 = .ok false := by decide +kernel
  have hplace : c.last.prompt.session.transcript.activeIndex = some 6 ∧
      c.last.prompt.session.transcript.cells.getLast? = some (.input "1 0 /") := by
    decide +kernel
  obtain rfl : succeeded = false := by
    rw [hevaluate] at hsucceeded
    exact Except.ok.inj hsucceeded
  obtain rfl : i = 6 := Option.some.inj (hi.symm.trans hplace.1)
  obtain rfl : text = "1 0 /" := Cell.input.inj (Option.some.inj (hlast.symm.trans hplace.2))
  have hcell : Display.cell 6 true false (.input "1 0 /") = "In [6]:   1 0 /\n" := by
    decide +kernel
  refine ⟨Engine.stack_ordinary, hplain, hevaluate, ?_⟩
  rw [heval, ← hjoin, ← hcell]
  rfl

end CommandLine

end DeskCalc
