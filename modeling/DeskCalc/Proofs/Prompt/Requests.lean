import DeskCalc.Engine.Stack
import DeskCalc.Proofs.Prompt.Settled

namespace DeskCalc.Prompt

open Session

/-- The text of the flushes between requests, where `printed` cells had been shown before the first
of them. -/
def flushedText (printed : Nat) : List Request → String
  | [] => ""
  | r :: rs =>
    (if r.prompt.printed = printed then "" else r.output) ++ flushedText r.prompt.printed rs

/-- A request after a turn shows what the turn has flushed. -/
theorem flushedText_cons (p : Prompt) (t : Turn) (rs : List Request) :
    flushedText p.printed (⟨t.output, t.prompt⟩ :: rs) =
      p.flushed t ++ flushedText t.prompt.printed rs :=
  rfl

/-- Whether cells are missing after some lines that begin with none missing. -/
def isBehind (lines : List String) : Bool := lines.foldl behindAfter false

variable {p : Prompt} {behind : Bool} {shown : String}

theorem converse_requests (p : Prompt) (output : String) (lines : List (Option String)) :
    (p.converse output lines).requests = [] ∨
      ∃ rs, (p.converse output lines).requests = ⟨output, p⟩ :: rs := by
  unfold converse
  split
  · split
    · dsimp only
      split
      · exact .inr ⟨_, rfl⟩
      · exact .inr ⟨_, rfl⟩
    · exact .inl rfl
  · split
    · exact .inr ⟨_, rfl⟩
    · exact .inl rfl

/-- Later requests are those of the conversation after the first line, which has not failed. -/
theorem converse_later {output : String} {lines : List (Option String)} {q r : Request}
    {rs : List Request} (h : (p.converse output lines).requests = q :: r :: rs) :
    ∃ line rest, lines = some line :: rest ∧ (p.handle line).fault = none ∧
      ((p.handle line).prompt.converse (p.handle line).output rest).requests = r :: rs := by
  unfold converse at h
  split at h
  · rename_i line rest
    split at h
    · dsimp only at h
      split at h
      · simp at h
      · rename_i hf
        exact ⟨line, rest, rfl, hf, (List.cons.inj h).2⟩
    · simp at h
  · split at h <;> simp at h

/-- By induction on the requests: each line takes the invariant to the request after it. -/
theorem Settled.request (h : p.Settled behind shown) {output : String}
    {lines : List (Option String)} {k : Nat} {r : Request}
    (hr : (p.converse output lines).requests[k]? = some r) :
    r.prompt.Settled (((lines.take k).filterMap id).foldl behindAfter behind)
      (shown ++ flushedText p.printed ((p.converse output lines).requests.tail.take k)) := by
  induction k generalizing p behind shown output lines with
  | zero =>
    rcases p.converse_requests output lines with he | ⟨rs, he⟩
    · simp [he] at hr
    · obtain rfl : ⟨output, p⟩ = r := by simpa [he] using hr
      simpa [flushedText] using h
  | succ k ih =>
    cases he : (p.converse output lines).requests with
    | nil => simp [he] at hr
    | cons q rs =>
      cases rs with
      | nil => simp [he] at hr
      | cons r' rs =>
        obtain ⟨line, rest, rfl, hf, hrest⟩ := converse_later he
        have hr' : r' = ⟨(p.handle line).output, (p.handle line).prompt⟩ := by
          rcases (p.handle line).prompt.converse_requests (p.handle line).output rest with
            hn | ⟨rs', hc⟩
          · cases hrest.symm.trans hn
          · exact (List.cons.inj (hrest.symm.trans hc)).1
        rcases h.leaves_handle line with ⟨f, hi, -⟩ | hl
        · cases hf.symm.trans hi
        · have hlast : (r' :: rs)[k]? = some r := by simpa [he] using hr
          have hs := ih hl.settled (hrest ▸ hlast)
          rw [hrest] at hs
          have htext : flushedText p.printed ((q :: r' :: rs).tail.take (k + 1)) =
              p.flushed (p.handle line) ++
                flushedText (p.handle line).prompt.printed ((r' :: rs).tail.take k) := by
            rw [List.tail_cons, List.take_succ_cons, hr', flushedText_cons, List.tail_cons]
          rw [htext, ← String.append_assoc, List.take_succ_cons]
          exact hs

/-- What is shown before the first flush. -/
def openingText (showHints : Bool) : String :=
  if showHints then Display.line "unitdc console. Type :help for keyboard commands." else ""

theorem plainText_greeting :
    Text.plainText greeting = .ok "unitdc console. Type :help for keyboard commands." := by
  decide +kernel

theorem say_greeting (p : Prompt) : p.say greeting = ⟨openingText true, p, none⟩ := by
  rw [say, plainText_greeting]
  rfl

/-- The first flush shows all cells that are there before the active one. -/
theorem first_flush {s : Session} (h : s.Coherent) (hr : s.adapter.isReady = true)
    (showHints : Bool) : ∃ (opening : String) (q : Prompt),
      (ofSession s showHints).flush = ⟨opening, q, none⟩ ∧ q.session = s ∧
        q.Settled false opening := by
  obtain ⟨i, -, hi, -⟩ := h.open_active hr
  have h0 : (ofSession s showHints).Settled (0 < i) "" :=
    ⟨h, hr, rfl, i, hi, Nat.zero_le i, by simp [ofSession]⟩
  refine ⟨_, _, h0.flush_eq hi, rfl, h, hr, ?_, i, hi, Nat.le_refl i, by simp⟩
  rfl

theorem bootstrap_of_start (h : p.start.2 = true) : ∃ s, p.session.bootstrap = (.ok true, s) := by
  unfold start at h
  cases hs : p.session.bootstrap with
  | mk answer s =>
    rw [hs] at h
    cases answer with
    | error f => cases h
    | ok started =>
      cases started with
      | false => cases h
      | true => exact ⟨s, rfl⟩

theorem start_eq {q : Prompt} {s : Session} {opening : String}
    (hs : p.session.bootstrap = (.ok true, s))
    (hflush : (p.withSession s).flush = ⟨opening, q, none⟩) :
    p.start.1 = ⟨openingText p.showHints ++ opening, q, none⟩ := by
  have hsaid : (if p.showHints then (p.withSession s).say greeting else .silent (p.withSession s)) =
      ⟨openingText p.showHints, p.withSession s, none⟩ := by
    cases p.showHints with
    | true => exact say_greeting _
    | false => rfl
  have hstart : p.start.1 = (if p.showHints then (p.withSession s).say greeting
      else .silent (p.withSession s)).andThen flush := by
    rw [start, hs]
    rfl
  rw [hstart, hsaid]
  simp only [Turn.andThen, hflush]

/-- A start that succeeds shows what there is before the active cell, and leaves nothing missing. -/
theorem start_flushes {source : EngineSource} {s : Session}
    (hs : (ofSource source).bootstrap = (.ok true, s)) (showHints : Bool) :
    ∃ (opening : String) (q : Prompt), (ofSession (.ofSource source) showHints).start.1 =
      ⟨openingText showHints ++ opening, q, none⟩ ∧ q.session = s ∧ q.Settled false opening := by
  have hcoherent := (ofSource_coherent source).bootstrap
  rw [hs] at hcoherent
  obtain ⟨opening, q, hflush, hq⟩ := first_flush hcoherent (bootstrap_ready hs) showHints
  exact ⟨opening, q, start_eq hs hflush, hq⟩

/-- Behind the opening words, a start has shown what is settled and nothing else. -/
theorem start_settled {source : EngineSource} {showHints : Bool}
    (h : (ofSession (.ofSource source) showHints).start.2 = true) :
    ∃ (opening : String) (q : Prompt), (ofSession (.ofSource source) showHints).start.1 =
      ⟨openingText showHints ++ opening, q, none⟩ ∧ q.Settled false opening := by
  obtain ⟨s, hs⟩ := bootstrap_of_start h
  obtain ⟨opening, q, hfirst, -, hq⟩ := start_flushes hs showHints
  exact ⟨opening, q, hfirst, hq⟩

/-- Each time a line is asked for, the flushes so far have shown the cells before `printed`, once
and in order, and no other. These are all cells before the active one exactly if no list of keys has
been broken off behind a submission, or a line has flushed since. -/
theorem requests_show_settled_iff (source : EngineSource) (showHints : Bool)
    (lines : List (Option String)) :
    let start := (ofSession (.ofSource source) showHints).start
    let requests := (start.1.prompt.converse start.1.output lines).requests
    start.2 = true →
    start.1.fault = none ∧ ∃ opening, start.1.output = openingText showHints ++ opening ∧
      ∀ (k : Nat) (r : Request), requests[k]? = some r →
        let t := r.prompt.session.transcript
        Display.transcript t 0 (some r.prompt.printed) false =
          .ok (opening ++ flushedText start.1.prompt.printed (requests.tail.take k)) ∧
        ∃ i, t.activeIndex = some i ∧ r.prompt.printed ≤ i ∧
          (r.prompt.printed = i ↔ isBehind ((lines.take k).filterMap id) = false) := by
  intro start requests hstart
  obtain ⟨opening, q, hfirst, hq⟩ := start_settled hstart
  have hprompt : start.1.prompt = q := congrArg Turn.prompt hfirst
  refine ⟨congrArg Turn.fault hfirst, opening, congrArg Turn.output hfirst, ?_⟩
  intro k r hr t
  have hs := (hprompt ▸ hq).request hr
  obtain ⟨i, hi, hpi, hb⟩ := hs.place
  have hlen : t.cells.length = i + 1 := hs.coherent.length_active hi
  have hne : t.cells ≠ [] := by
    rw [← List.length_pos_iff]
    omega
  refine ⟨?_, i, hi, hpi, ?_⟩
  · have hle : r.prompt.printed ≤ t.cells.length := by omega
    rw [hs.text]
    exact Display.transcript_eq (Nat.zero_le _) hle hne
  · rw [isBehind, ← Bool.not_eq_true, ← hb]
    omega

/-- A list of keys that is broken off, and a line after it that flushes what it has left out. -/
theorem stack_requests_show_settled :
    let start := (ofSession (.ofSource (.given .stack)) true).start
    let requests := (start.1.prompt.converse start.1.output
      [some ":key 1 p ✓ nope", some ":space"]).requests
    start.2 = true ∧ ∃ (r : Request) (opening : String), requests[2]? = some r ∧
      r.prompt.session.transcript.activeIndex = some r.prompt.printed ∧
      Display.transcript r.prompt.session.transcript 0 (some r.prompt.printed) false =
        .ok (opening ++ flushedText start.1.prompt.printed (requests.tail.take 2)) := by
  intro start requests
  have hstart : start.2 = true := by decide +kernel
  have hsome : requests[2]?.isSome = true := by decide +kernel
  have hbehind : isBehind [":key 1 p ✓ nope", ":space"] = false := by decide +kernel
  obtain ⟨r, hr⟩ := Option.isSome_iff_exists.mp hsome
  obtain ⟨-, opening, -, h⟩ := requests_show_settled_iff (.given .stack) true
    [some ":key 1 p ✓ nope", some ":space"] hstart
  obtain ⟨htext, i, hi, -, hiff⟩ := h 2 r hr
  rw [← hiff.mpr hbehind] at hi
  exact ⟨hstart, r, opening, hr, hi, htext⟩

/-- After a list of keys that is broken off behind a submission, the cells that it has settled are
missing: two cells are before the active one, and none has been shown. -/
theorem broken_off_keys_leave_unshown :
    let start := (ofSession (.ofSource (.given .stack)) false).start
    start.2 = true ∧ ∃ r : Request,
      (start.1.prompt.converse start.1.output [some ":key 1 p ✓ nope"]).requests[1]? = some r ∧
      r.output = "No such key: 'nope'\n" ∧
      r.prompt.session.transcript.activeIndex = some 2 ∧ r.prompt.printed = 0 := by
  intro start
  have hstart : start.2 = true := by decide +kernel
  have hr : (start.1.prompt.converse start.1.output [some ":key 1 p ✓ nope"]).requests[1]?.map
      (fun r => (r.output, r.prompt.session.transcript.activeIndex, r.prompt.printed)) =
      some ("No such key: 'nope'\n", some 2, 0) := by decide +kernel
  obtain ⟨r, hr, hall⟩ := Option.map_eq_some_iff.mp hr
  obtain ⟨houtput, hactive, hprinted⟩ : _ ∧ _ ∧ _ := by simpa using hall
  exact ⟨hstart, r, hr, houtput, hactive, hprinted⟩

end DeskCalc.Prompt
