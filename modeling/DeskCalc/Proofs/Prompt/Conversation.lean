import DeskCalc.Proofs.Prompt.Answers

namespace DeskCalc.Prompt

/-- What happens to a prompt: a line is said, or the engine reports something in between. -/
inductive Happening
  | line (text : String)
  | report (r : Report)

def after (p : Prompt) : Happening → Prompt
  | .line text => (p.handle text).prompt
  | .report r => p.withSession (p.session.deliver r).2

def follow (p : Prompt) (happenings : List Happening) : Prompt := happenings.foldl after p

variable {p : Prompt}

theorem serving_after (h : p.session.Serving) (x : Happening) : (p.after x).session.Serving := by
  cases x with
  | line text =>
    have hs : p.Serves p.running := ⟨h, rfl⟩
    exact (hs.handle text).serves.session
  | report r => exact h.after (.report r)

/-- Neither lines nor late reports keep a session from serving. -/
theorem serving_follow (h : p.session.Serving) (happenings : List Happening) :
    (p.follow happenings).session.Serving := by
  induction happenings generalizing p with
  | nil => exact h
  | cons x happenings ih => exact ih (serving_after h x)

/-- One of the lines is a command to leave, and the first such line is the last one asked for. -/
def Conversation.Left (c : Conversation) (lines : List (Option String)) : Prop :=
  ∃ (said : List String) (line : String) (rest : List (Option String)),
    lines = said.map some ++ some line :: rest ∧ (∀ l ∈ said, quits l = false) ∧
    quits line = true ∧ c.requests.length = said.length + 1 ∧ c.last.prompt.running = false

/-- No line before a break is a command to leave, and one more was asked for than there are. -/
def Conversation.RanOut (c : Conversation) (lines : List (Option String)) : Prop :=
  ∃ (said : List String) (rest : List (Option String)),
    lines = said.map some ++ rest ∧ (∀ l ∈ said, quits l = false) ∧
    (rest = [] ∨ ∃ unheard, rest = none :: unheard) ∧
    c.requests.length = said.length + 1 ∧ c.last.prompt.running = true

theorem converse_stopped (h : p.running = false) (output : String)
    (lines : List (Option String)) : p.converse output lines = ⟨[], ⟨output, p, none⟩⟩ := by
  unfold converse
  split
  · rw [if_neg (by simp [h])]
  · rw [if_neg (by simp [h])]

/-- A line that is answered goes before the conversation that follows it. -/
theorem converse_answered (h : p.running = true) {line : String}
    (hl : (p.handle line).fault = none) (output : String) (rest : List (Option String)) :
    p.converse output (some line :: rest) =
      ⟨⟨output, p⟩ :: ((p.handle line).prompt.converse (p.handle line).output rest).requests,
        ((p.handle line).prompt.converse (p.handle line).output rest).last⟩ := by
  rw [converse, if_pos h]
  simp only [hl]

/-- A break ends a conversation as the end of its lines does. -/
theorem converse_unheard (h : p.running = true) (output : String) {lines : List (Option String)}
    (hl : lines = [] ∨ ∃ unheard, lines = none :: unheard) :
    p.converse output lines = ⟨[⟨output, p⟩], ⟨Display.line "", p, none⟩⟩ := by
  rcases hl with rfl | ⟨unheard, rfl⟩
  · rw [converse, if_pos h]
    simp
  · rw [converse, if_pos h]
    simp

theorem Serves.converse_ranOut (h : p.Serves true) (output : String)
    {lines : List (Option String)} (hl : lines = [] ∨ ∃ unheard, lines = none :: unheard) :
    (p.converse output lines).last.fault = none ∧ (p.converse output lines).RanOut lines := by
  rw [converse_unheard h.running output hl]
  exact ⟨rfl, [], lines, rfl, by simp, hl, rfl, h.running⟩

/-- A conversation with a prompt that serves ends in one of two ways, and without a fault. -/
theorem Serves.converse_ends (h : p.Serves true) (output : String)
    (lines : List (Option String)) :
    (p.converse output lines).last.fault = none ∧
      ((p.converse output lines).Left lines ∨ (p.converse output lines).RanOut lines) := by
  induction lines generalizing p output with
  | nil => exact (h.converse_ranOut output (.inl rfl)).imp_right .inr
  | cons line rest ih =>
    cases line with
    | none => exact (h.converse_ranOut output (.inr ⟨rest, rfl⟩)).imp_right .inr
    | some line =>
      have ha := h.handle line
      rw [converse_answered h.running ha.answered]
      cases hq : quits line with
      | true =>
        have hstopped : (p.handle line).prompt.running = false := by
          rw [ha.serves.running, hq]
          rfl
        rw [converse_stopped hstopped]
        exact ⟨rfl, .inl ⟨[], line, rest, rfl, by simp, hq, rfl, hstopped⟩⟩
      | false =>
        rw [hq] at ha
        obtain ⟨hfault, hend⟩ := ih ha.serves (p.handle line).output
        refine ⟨hfault, ?_⟩
        -- The line is one more before the end, which it does not change.
        rcases hend with ⟨said, leaving, more, rfl, hsaid, hleaving, hcount, hrunning⟩ |
          ⟨said, more, rfl, hsaid, hmore, hcount, hrunning⟩
        · refine .inl ⟨line :: said, leaving, more, rfl, ?_, hleaving, ?_, hrunning⟩
          · exact List.forall_mem_cons.mpr ⟨hq, hsaid⟩
          · simp [hcount]
        · refine .inr ⟨line :: said, more, rfl, ?_, hmore, ?_, hrunning⟩
          · exact List.forall_mem_cons.mpr ⟨hq, hsaid⟩
          · simp [hcount]

theorem start_answers {source : EngineSource} {showHints : Bool}
    (ho : ∀ e, source.start.outcome = .ok e → e.Ordinary)
    (h : (ofSession (.ofSource source) showHints).start.2 = true) :
    Answers (ofSession (.ofSource source) showHints).start.1 true := by
  obtain ⟨s, hs⟩ := bootstrap_of_start h
  have hserving : s.Serving := Session.bootstrap_serving ho hs
  have hserves : ((ofSession (.ofSource source) showHints).withSession s).Serves true :=
    ⟨hserving, rfl⟩
  have hflush := hserves.flush
  have heq := start_eq hs (show _ = Turn.mk _ _ none by rw [← hflush.answered])
  rw [heq]
  exact ⟨hflush.serves, rfl⟩

/-- Once a prompt is started with an engine that raises nothing but ordinary faults, no line ends
with a fault, whatever has happened before it; a command comes to no other fault than a mistake that
is explained, and a conversation ends where it is left or where its lines run out. -/
theorem every_line_answered (source : EngineSource) (showHints : Bool)
    (ho : ∀ e, source.start.outcome = .ok e → e.Ordinary) :
    let start := (ofSession (.ofSource source) showHints).start
    start.2 = true →
    start.1.fault = none ∧
    (∀ happenings,
      let p := start.1.prompt.follow happenings
      (∀ line, (p.handle line).fault = none ∧
        (p.handle line).prompt.running = (p.running && !quits line)) ∧
      ∀ name arguments f, (p.carryOut name arguments).fault = some f → isMistake f = true) ∧
    ∀ lines,
      let c := start.1.prompt.converse start.1.output lines
      c.last.fault = none ∧ (c.Left lines ∨ c.RanOut lines) := by
  intro start hstart
  have ha : Answers start.1 true := start_answers ho hstart
  refine ⟨ha.answered, ?_, ?_⟩
  · intro happenings p
    have hp : p.Serves p.running := ⟨serving_follow ha.serves.session happenings, rfl⟩
    refine ⟨?_, ?_⟩
    · intro line
      have hl := hp.handle line
      exact ⟨hl.answered, hl.serves.running⟩
    · intro name arguments
      exact (hp.carryOut name arguments).mistaken
  · intro lines
    exact ha.serves.converse_ends start.1.output lines

/-- A key that does not exist, an expression that fails, a command that does not fall into words and
one that leaves, the last line to be asked for. -/
theorem stack_lines_answered :
    let lines := [some ":key 1 nope", some "1 0 /", some ":mod \"", some ":q now", some "1"]
    let start := (ofSession (.ofSource (.given .stack)) true).start
    let c := start.1.prompt.converse start.1.output lines
    (∀ e, (EngineSource.given .stack).start.outcome = .ok e → e.Ordinary) ∧
      start.2 = true ∧ c.requests.length = 4 ∧ c.last.fault = none ∧ c.Left lines := by
  intro lines start c
  have ho : ∀ e, (EngineSource.given .stack).start.outcome = .ok e → e.Ordinary := by
    intro e he
    rw [← Except.ok.inj he]
    exact Engine.stack_ordinary
  have hstart : start.2 = true := by decide +kernel
  have hcount : c.requests.length = 4 := by decide +kernel
  obtain ⟨-, -, hlines⟩ := every_line_answered (.given .stack) true ho hstart
  obtain ⟨hfault, hend⟩ := hlines lines
  have hleft : c.last.prompt.running = false := by decide +kernel
  refine ⟨ho, hstart, hcount, hfault, ?_⟩
  rcases hend with hl | ⟨said, rest, -, -, -, -, hrunning⟩
  · exact hl
  · cases hleft.symm.trans hrunning

end DeskCalc.Prompt
