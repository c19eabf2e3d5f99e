namespace DeskCalc.Text.Markup

def startsTag (c : Char) : Bool := 'a' ≤ c && c ≤ 'z' || c = '#' || c = '/' || c = '@'

def inTag (c : Char) : Bool := c ≠ '[' && c ≠ ']'

/-- The inside of a tag, and what follows it, for the text after an opening bracket. -/
def tag? : List Char → Option (List Char × List Char)
  | [] => none
  | c :: cs =>
    match startsTag c, cs.dropWhile inTag with
    | true, ']' :: rest => some (c :: cs.takeWhile inTag, rest)
    | _, _ => none

theorem tag?_length {cs inside rest : List Char} (h : tag? cs = some (inside, rest)) :
    rest.length < cs.length := by
  cases cs with
  | nil => simp [tag?] at h
  | cons c cs =>
    have shorter := (List.dropWhile_suffix inTag (l := cs)).length_le
    simp only [tag?] at h
    split at h
    · next found => simp_all; omega
    · simp at h

/-- A piece of markup: plain characters, or a tag and the number of backslashes before it, which may
make it plain text. -/
inductive Piece
  | plain (c : Char)
  | tag (backslashes : Nat) (inside : List Char)
  deriving DecidableEq

/-- The pieces of a text, where `backslashes` have been read before it. -/
def pieces (backslashes : Nat) : List Char → List Piece
  | [] => List.replicate backslashes (.plain '\\')
  | c :: cs =>
    if c = '\\' then pieces (backslashes + 1) cs
    else
      match _h : if c = '[' then tag? cs else none with
      | some (inside, rest) => .tag backslashes inside :: pieces 0 rest
      | none => List.replicate backslashes (.plain '\\') ++ .plain c :: pieces 0 cs
termination_by cs => cs.length
decreasing_by
  · simp
  · have : tag? cs = some (inside, rest) := by split at _h <;> simp_all
    have := tag?_length this
    simp only [List.length_cons]
    omega
  · simp

def bracketed (inside : List Char) : List Char := '[' :: inside ++ [']']

/-- A piece with what keeps it from being read as a tag: its backslashes twice and one more. -/
def Piece.guarded : Piece → List Char
  | plain c => [c]
  | tag backslashes inside => List.replicate (2 * backslashes + 1) '\\' ++ bracketed inside

/-- Whether a text ends in one backslash and no more. -/
def endsInOneBackslash (cs : List Char) : Bool :=
  match cs.reverse with
  | '\\' :: '\\' :: _ => false
  | '\\' :: _ => true
  | _ => false

/-- Markup that shows a text. A single backslash at its end is doubled, lest it guard what follows. -/
def escape (text : String) : String :=
  let cs := (pieces 0 text.toList).flatMap Piece.guarded
  .ofList (if endsInOneBackslash cs then cs ++ ['\\'] else cs)

/-- What is read of markup: a character to show, or a tag that stands at `position`. -/
inductive Mark
  | char (c : Char)
  | tag (inside : List Char) (position : Nat)
  deriving DecidableEq

/-- What pieces say that stand at `position`. A plain backslash before a plain bracket is not shown;
of two before a tag one is, and an odd one makes the tag plain. -/
def marks (position : Nat) : List Piece → List Mark
  | [] => []
  | .plain c :: rest =>
    match c, rest with
    | '\\', .plain '[' :: rest => .char '[' :: marks (position + 2) rest
    | c, rest => .char c :: marks (position + 1) rest
  | .tag backslashes inside :: rest =>
    let after := position + backslashes + inside.length + 2
    (List.replicate (backslashes / 2) '\\').map .char ++
      if backslashes % 2 = 1 then (bracketed inside).map .char ++ marks after rest
      else .tag inside (position + backslashes) :: marks after rest

/-- Codes that move a device rather than show a character: bell, backspace, feeds and return. -/
def isDeviceCode (c : Char) : Bool := [0x07, 0x08, 0x0b, 0x0c, 0x0d].contains c.toNat

def Mark.shown? : Mark → Option Char
  | char c => if isDeviceCode c then none else some c
  | tag _ _ => none

end DeskCalc.Text.Markup
