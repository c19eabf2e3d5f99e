import DeskCalc.Machine
import DeskCalc.Proofs.Token.Grammar
import Mathlib.Data.List.DropRight

namespace DeskCalc

open Text Lexer

/-- The place behind a piece of text, found by counting its line breaks and the characters since the
last of them. -/
def Position.after (before : List Char) : Position :=
  ⟨1 + before.count '\n', 1 + (before.rtakeWhile (· ≠ '\n')).length⟩

theorem Position.after_nil : Position.after [] = .start := rfl

theorem Position.after_snoc (before : List Char) (c : Char) :
    Position.after (before ++ [c]) = (Position.after before).next c := by
  by_cases hc : c = '\n'
  · simp [Position.after, next, hc, Nat.add_assoc]
  · simp [Position.after, next, hc, Nat.add_assoc]

/-- A place is found by counting the lines and characters before it. -/
theorem Position.past_after (before cs : List Char) :
    (Position.after before).past cs = Position.after (before ++ cs) := by
  induction cs generalizing before with
  | nil => rw [List.append_nil, past, List.foldl_nil]
  | cons c cs ih =>
    have h := ih (before ++ [c])
    rw [Position.after_snoc, List.append_assoc] at h
    exact h

/-- A gap holds blanks and comments, and a comment goes on to the end of its line. -/
inductive IsGap : List Char → List Char → Prop
  | nil {rest} : IsGap [] rest
  | blank {c gap rest} : isBlank c = true → IsGap gap rest → IsGap (c :: gap) rest
  | comment {body gap rest} : (∀ d ∈ body, d ≠ '\n') → (∀ d ∈ (gap ++ rest).head?, d = '\n') →
      IsGap gap rest → IsGap ('#' :: (body ++ gap)) rest

structure Segment where
  token : Token
  gap : List Char

namespace Segment

def chars (s : Segment) : List Char := s.token.lexeme.spelling ++ s.gap

def cover (segments : List Segment) : List Char := segments.flatMap chars

/-- A segment as it stands in a text, with what comes before and behind it. -/
structure StandsAt (s : Segment) (before rest : List Char) : Prop where
  place : s.token.position = .after before
  wellFormed : s.token.lexeme.WellFormed
  maximal : s.token.lexeme.EndsBefore (s.gap ++ rest)
  gap : IsGap s.gap rest

def Placed (before rest : List Char) : List Segment → Prop
  | [] => True
  | s :: segments => s.StandsAt before (cover segments ++ rest) ∧
      Placed (before ++ s.chars) rest segments

/-- Each segment stands where those before it end. -/
theorem Placed.standsAt {before rest : List Char} {segments : List Segment}
    (h : Placed before rest segments) {front : List Segment} {s : Segment} {back : List Segment}
    (hs : segments = front ++ s :: back) :
    s.StandsAt (before ++ cover front) (cover back ++ rest) := by
  induction front generalizing before segments with
  | nil =>
    subst hs
    simpa [cover] using h.1
  | cons t front ih =>
    subst hs
    have ht := ih h.2 rfl
    simpa [cover, List.append_assoc] using ht

end Segment

/-- What a text goes on with where its reading fails: a character that begins nothing, or a
parenthesis that is not closed behind the characters of a unit. -/
inductive Fails (before : List Char) : List Char → LexError → Prop
  | stray {c rest} : begins c = false → Fails before (c :: rest) ⟨some c, .after before⟩
  | unclosed {body rest} : (∀ d ∈ body, inUnit d = true) → Stops inUnit rest →
      rest.head? ≠ some ')' →
      Fails before ('(' :: (body ++ rest)) ⟨rest.head?, .after (before ++ '(' :: body)⟩

/-- A reading that does not fail leaves nothing. -/
def Ends (before rest : List Char) : Option LexError → Prop
  | none => rest = []
  | some e => Fails before rest e

/-- A text is a gap, some segments, and what the reading leaves. -/
structure Tiled (before text : List Char) (l : Lexed) (lead : List Char) (segments : List Segment)
    (rest : List Char) : Prop where
  text_eq : text = lead ++ (Segment.cover segments ++ rest)
  tokens : l.tokens = segments.map Segment.token
  gap : IsGap lead (Segment.cover segments ++ rest)
  placed : Segment.Placed (before ++ lead) rest segments
  ends : Ends (before ++ (lead ++ Segment.cover segments)) rest l.error

namespace Tiled

variable {before cs lead rest : List Char} {l : Lexed} {segments : List Segment}

theorem prepend {piece : List Char} (h : Tiled (before ++ piece) cs l lead segments rest)
    (hg : IsGap (piece ++ lead) (Segment.cover segments ++ rest)) :
    Tiled before (piece ++ cs) l (piece ++ lead) segments rest := by
  refine ⟨?_, h.tokens, hg, ?_, ?_⟩
  · rw [h.text_eq, List.append_assoc]
  · rw [← List.append_assoc]
    exact h.placed
  · have he := h.ends
    rwa [List.append_assoc, ← List.append_assoc piece] at he

theorem cons {t : Token} (h : Tiled (before ++ t.lexeme.spelling) cs l lead segments rest)
    (hp : t.position = .after before) (hw : t.lexeme.WellFormed)
    (he : t.lexeme.EndsBefore cs) :
    Tiled before (t.lexeme.spelling ++ cs) (l.cons t) [] (⟨t, lead⟩ :: segments) rest := by
  refine ⟨?_, ?_, .nil, ⟨⟨?_, hw, ?_, h.gap⟩, ?_⟩, ?_⟩
  · simp [h.text_eq, Segment.cover, Segment.chars]
  · simp [Lexed.cons, h.tokens]
  · rw [List.append_nil]
    exact hp
  · rw [← h.text_eq]
    exact he
  · have hn := h.placed
    rwa [List.append_assoc, ← Segment.chars.eq_def ⟨t, lead⟩, ← List.append_nil before] at hn
  · have hn := h.ends
    simpa [Segment.cover, Segment.chars, Lexed.cons] using hn

end Tiled

/-- By induction on the reading. Blanks and comments join the gap in front of what follows; a token
takes it as its own. -/
theorem Lexer.Reads.tiled {p : Position} {cs : List Char} {l : Lexed} (h : Reads p cs l)
    (before : List Char) (hp : p = .after before) :
    ∃ lead segments rest, Tiled before cs l lead segments rest := by
  induction h generalizing before with
  | done => exact ⟨[], [], [], rfl, rfl, .nil, trivial, rfl⟩
  | @blank p c cs l hc _ ih =>
    obtain ⟨lead, segments, rest, ht⟩ := ih (before ++ [c]) (by rw [hp, Position.after_snoc])
    exact ⟨[c] ++ lead, segments, rest, ht.prepend (.blank hc ht.gap)⟩
  | @comment p body cs l hb hs _ ih =>
    obtain ⟨lead, segments, rest, ht⟩ :=
      ih (before ++ '#' :: body) (by rw [hp, Position.past_after])
    have hbody : ∀ d ∈ body, d ≠ '\n' := fun d hd => by simpa [inComment] using hb d hd
    have hline : ∀ d ∈ (lead ++ (Segment.cover segments ++ rest)).head?, d = '\n' := by
      intro d hd
      rw [← ht.text_eq] at hd
      simpa [inComment] using hs d hd
    exact ⟨'#' :: body ++ lead, segments, rest, ht.prepend (.comment hbody hline ht.gap)⟩
  | @token p cs l t hw he _ ih =>
    obtain ⟨lead, segments, rest, ht⟩ := ih (before ++ t.spelling) (by rw [hp, Position.past_after])
    exact ⟨[], _, rest, Tiled.cons (t := ⟨t, p⟩) ht hp hw he⟩
  | @unclosed p body cs hb hs hr =>
    refine ⟨[], [], _, rfl, rfl, .nil, trivial, ?_⟩
    have hf : Fails before ('(' :: (body ++ cs)) _ := .unclosed hb hs hr
    rw [hp, Position.past_after]
    simpa [Ends, Segment.cover] using hf
  | @stray p c cs hc =>
    refine ⟨[], [], _, rfl, rfl, .nil, trivial, ?_⟩
    have hf : Fails before (c :: cs) _ := .stray hc
    rw [hp]
    simpa [Ends, Segment.cover] using hf

def failureText (e : LexError) : String :=
  "Invalid character: " ++ (e.found.elim "end of input" Char.toString) ++ " at " ++
    toString e.position.line ++ ":" ++ toString e.position.column

theorem invalidCharacter_fault (e : LexError) :
    (MachineError.invalidCharacter e).fault = ⟨.engine, some (failureText e)⟩ := by
  obtain ⟨found, position⟩ := e
  cases found <;> rfl

/-- Every text is a gap, tokens with their gaps in the order in which they are read, and nothing
more, or else what the reading fails at; places are true, and runs as long as they can be. -/
theorem lex_spans (text : String) :
    ∃ (lead : List Char) (segments : List Segment) (rest : List Char),
      text.toList = lead ++ (Segment.cover segments ++ rest) ∧
      (lex text).tokens = segments.map Segment.token ∧
      IsGap lead (Segment.cover segments ++ rest) ∧
      (∀ front s back, segments = front ++ s :: back →
        s.StandsAt (lead ++ Segment.cover front) (Segment.cover back ++ rest)) ∧
      match (lex text).error with
      | none => rest = []
      | some e => Fails (lead ++ Segment.cover segments) rest e ∧
          (MachineError.invalidCharacter e).fault = ⟨.engine, some (failureText e)⟩ := by
  obtain ⟨lead, segments, rest, ht⟩ :=
    (reads_scan .start text.toList).tiled [] Position.after_nil.symm
  refine ⟨lead, segments, rest, ht.text_eq, ht.tokens, ht.gap, ?_, ?_⟩
  · intro front s back hs
    exact ht.placed.standsAt hs
  · have he : Ends (lead ++ Segment.cover segments) rest (lex text).error := ht.ends
    cases hx : (lex text).error with
    | none => simpa only [hx, Ends] using he
    | some e =>
      rw [hx] at he
      exact ⟨he, invalidCharacter_fault e⟩

end DeskCalc
