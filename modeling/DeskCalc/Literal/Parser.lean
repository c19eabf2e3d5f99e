import DeskCalc.Literal.Grammar
import DeskCalc.Literal.Token
import DeskCalc.Number.Reading

namespace DeskCalc.Literal

/-- A mistake and how many tokens had been asked for. A settled one keeps its words within a larger
text. -/
structure Mistake where
  message : String
  reached : Nat
  isObstacle : Bool
  isSettled : Bool

/-- What a mistake comes to in the end. -/
structure Verdict where
  message : String
  isSettled : Bool
  deriving DecidableEq

namespace Parser

/-- The tokens, and the reading of a run of texts in quotes. -/
structure Context where
  tokens : Tokens
  texts : List String → Except Verdict Node

/-- Where the reading stands, the tokens asked for, whether mistakes are sought, and the results kept
for each place: what a rule gave there and where that ended, latest first. -/
structure State where
  place : Nat
  reached : Nat
  isStrict : Bool
  kept : Array (List (Rule × Option Node × Nat))

/-- The parts read, or nothing where the item does not fit. -/
abbrev Result := Except Mistake (Option (List Node) × State)

namespace State

/-- Before the first of some tokens, of which `reached` have been asked for. -/
def start (t : Tokens) (reached : Nat) (isStrict : Bool) : State :=
  ⟨0, reached, isStrict, .replicate (t.tokens.size + 1) []⟩

def movedTo (s : State) (place : Nat) : State := { s with place := place }

def keep (s : State) (place : Nat) (r : Rule) (result : Option Node × Nat) : State :=
  { s with kept := s.kept.modify place ((r, result) :: ·) }

def kept? (s : State) (r : Rule) : Option (Option Node × Nat) := (s.kept.getD s.place []).lookup r

end State

/-- The token at the place, which has then been asked for. -/
def peek (c : Context) (s : State) : Except Mistake (Option Token × State) :=
  match c.tokens.tokens[s.place]? with
  | some t => .ok (some t, { s with reached := max s.reached (s.place + 1) })
  | none =>
    match c.tokens.obstacle with
    | some o => .error ⟨o.message, s.reached, true, o.isDecisive⟩
    | none => .ok (none, s)

def take (c : Context) (s : State) (fits : Token → Bool) (make : Token → Except String Node) :
    Result := do
  match ← peek c s with
  | (some t, s) =>
    if fits t then
      match make t with
      | .ok n => .ok (some [n], s.movedTo (s.place + 1))
      | .error message => .error ⟨message, s.reached, false, false⟩
    else .ok (none, s)
  | (none, s) => .ok (none, s)

def hugeNumber : String :=
  " - Consider hexadecimal for huge integer literals to avoid decimal conversion limits."

def hexValue (c : Char) : Nat :=
  if '0' ≤ c ∧ c ≤ '9' then c.toNat - '0'.toNat else c.toLower.toNat - 'a'.toNat + 10

def inBase (base : Nat) (digits : List Char) : Node :=
  .whole (digits.foldl (fun n c => base * n + hexValue c) 0)

/-- The value of a number as written. -/
def numberNode (t : Token) : Except String Node :=
  let digits := t.spelling.toList.filter (· ≠ '_')
  match digits with
  | '0' :: 'x' :: rest | '0' :: 'X' :: rest => .ok (inBase 16 rest)
  | '0' :: 'o' :: rest | '0' :: 'O' :: rest => .ok (inBase 8 rest)
  | '0' :: 'b' :: rest | '0' :: 'B' :: rest => .ok (inBase 2 rest)
  | _ =>
    if digits.any fun c => c = 'j' || c = 'J' then .ok .imaginary
    else if digits.all Text.isDigit then
      match Reading.integer (.ofList digits) with
      | .ok n => .ok (.whole n.toNat)
      | .error e => .error (e.message ++ hugeNumber)
    else .ok .real

/-- The run of texts at the place. -/
def textRun (c : Context) : (fuel : Nat) → State → Except Mistake (List String × State)
  | 0, s => .ok ([], s)
  | fuel + 1, s => do
    match ← peek c s with
    | (some t, s) =>
      if t.kind = .text then
        let (later, s) ← textRun c fuel (s.movedTo (s.place + 1))
        return (t.spelling :: later, s)
      else return ([], s)
    | (none, s) => return ([], s)

def readTexts (c : Context) (s : State) : Result := do
  let (spellings, s) ← textRun c (c.tokens.tokens.size + 1) s
  match c.texts spellings with
  | .ok n => .ok (some [n], s)
  | .error v => .error ⟨v.message, s.reached, false, v.isSettled⟩

/-- The depth of the token before the place. -/
def depthBefore (c : Context) (s : State) : Nat :=
  if s.place = 0 then 0 else ((c.tokens.tokens[s.place - 1]?).map (·.depth)).getD 0

mutual

def readItem (c : Context) : (fuel : Nat) → Item → State → Result
  | 0, _, s => .ok (none, s)
  | fuel + 1, i, s =>
    match i with
    | .word w => take c s (·.isWord w) fun t => .ok (.word t.spelling)
    | .name => take c s (·.isName) fun t => .ok (.name t.spelling)
    | .softKeyword => take c s (·.isSoftKeyword) fun t => .ok (.name t.spelling)
    | .number => take c s (·.kind = .number) numberNode
    | .text => take c s (·.kind = .text) fun t => .ok (.word t.spelling)
    | .newline => take c s (·.kind = .newline) fun _ => .ok .nothing
    | .finish => take c s (·.kind = .finish) fun _ => .ok .nothing
    | .rule r => readRule c fuel r s
    | .choice productions => readChoice c fuel productions s
    | .maybe i => do
      match ← readItem c fuel i s with
      | (some parts, s) => return (some parts, s)
      | (none, after) => return (some [.nothing], after.movedTo s.place)
    | .many i => do
      let (parts, s) ← readMany c fuel i s
      return (some [.list parts], s)
    | .several i => do
      let (parts, after) ← readMany c fuel i s
      return (if parts.isEmpty then none else some [.list parts], after)
    | .separated i w => do
      match ← readItem c fuel i s with
      | (some first, s) =>
        let (later, s) ← readMany c fuel (Grammar.inTurn [.word w, i] 1) s
        return (some [.list (first ++ later)], s)
      | (none, s) => return (none, s)
    | .ahead i => do
      let (parts, after) ← readItem c fuel i s
      return (parts.map fun _ => [], after.movedTo s.place)
    | .notAhead i => do
      let (parts, after) ← readItem c fuel i s
      return (if parts.isSome then none else some [], after.movedTo s.place)
    | .cut => .ok (some [], s)
    | .strict => .ok (if s.isStrict then some [] else none, s)
    | .lenient i => do
      let (parts, after) ← readItem c fuel i { s with isStrict := false }
      return (parts, { after with isStrict := s.isStrict })
    | .inBrackets => .ok (if depthBefore c s = 0 then none else some [.word ""], s)

def readMany (c : Context) : (fuel : Nat) → Item → State → Except Mistake (List Node × State)
  | 0, _, s => .ok ([], s)
  | fuel + 1, i, s => do
    match ← readItem c fuel i s with
    | (none, after) => return ([], after.movedTo s.place)
    | (some parts, after) =>
      let (later, after) ← readMany c fuel i after
      return (parts ++ later, after)

/-- Reads items in turn; says also whether a cut was reached. -/
def readAll (c : Context) : (fuel : Nat) → List Item → State →
    Except Mistake (Option (List Node) × Bool × State)
  | 0, _, s => .ok (none, false, s)
  | _ + 1, [], s => .ok (some [], false, s)
  | fuel + 1, i :: is, s => do
    match ← readItem c fuel i s with
    | (none, s) => return (none, false, s)
    | (some parts, s) =>
      let (later, isCut, s) ← readAll c fuel is s
      let isCut := isCut || match i with
        | .cut => true
        | _ => false
      return (later.map (parts ++ ·), isCut, s)

/-- Reads by the first production that fits. -/
def readChoice (c : Context) : (fuel : Nat) → List Production → State → Result
  | 0, _, s => .ok (none, s)
  | _ + 1, [], s => .ok (none, s)
  | fuel + 1, ⟨items, action⟩ :: rest, s => do
    match ← readAll c fuel items s with
    | (some parts, _, after) =>
      match action parts with
      | .make n => return (some [n], after)
      | .refuse => return (none, after.movedTo s.place)
      | .mistake message => throw ⟨message, after.reached, false, false⟩
    | (none, isCut, after) =>
      if isCut then return (none, after.movedTo s.place)
      else readChoice c fuel rest (after.movedTo s.place)

/-- Reads by a rule, or takes the result kept for it. -/
def readRule (c : Context) : (fuel : Nat) → Rule → State → Result
  | 0, _, s => .ok (none, s)
  | fuel + 1, r, s =>
    match if Grammar.isKept r then s.kept? r else none with
    | some (node, place) => .ok (node.map ([·]), s.movedTo place)
    | none =>
      if Grammar.isLeftRecursive r then grow c fuel r none s.place s.place s
      else do
        let (parts, after) ←
          if r = .texts then readTexts c s else readChoice c fuel (Grammar.productions r) s
        return (parts, if Grammar.isKept r then
            after.keep s.place r (parts.bind (·.head?), after.place)
          else after)

/-- Reads by a rule that begins with itself, each time with the longest result so far in its place,
until no longer one is found. -/
def grow (c : Context) : (fuel : Nat) → Rule → (best : Option Node) → (start stop : Nat) → State →
    Result
  | 0, _, _, _, _, s => .ok (none, s)
  | fuel + 1, r, best, start, stop, s => do
    match ← readChoice c fuel (Grammar.productions r) ((s.keep start r (best, stop)).movedTo start) with
    | (some parts, after) =>
      if after.place ≤ stop then return (best.map ([·]), after.movedTo stop)
      else grow c fuel r parts.head? start after.place after
    | (none, after) => return (best.map ([·]), after.movedTo stop)

end

/-- The words for a mistake, unless an obstacle further on goes before it: a decisive one does, and so
does an open bracket of an earlier line. -/
def overruled (t : Tokens) (m : Mistake) : Verdict :=
  let line := (t.tokens[m.reached - 1]?.map (·.line)).getD 0
  match t.obstacle with
  | some ⟨message, true, _⟩ => ⟨message, true⟩
  | some ⟨_, false, some (bracket, opened)⟩ =>
    if opened < line then ⟨Obstacle.unclosed bracket, false⟩ else ⟨m.message, m.isSettled⟩
  | _ => ⟨m.message, m.isSettled⟩

/-- The words for a mistake that has words of its own. Once the end of the text is met, there is
nothing further on. -/
def verdict (t : Tokens) (m : Mistake) : Verdict :=
  if m.isObstacle || (t.tokens[m.reached - 1]?).any (·.meetsEnd) then ⟨m.message, m.isSettled⟩
  else overruled t m

/-- How deep the rules can go for so many tokens. -/
def depthLimit (t : Tokens) : Nat := 1000 * (t.tokens.size + 2)

/-- Reads a whole text by a rule. It is read once without seeking mistakes; if it does not fit, it
is read again, and the first mistake met is named. An obstacle in the tokens goes before
mistakes. -/
def read (c : Context) (r : Rule) : Except Verdict Node :=
  let fuel := depthLimit c.tokens
  match readRule c fuel r (.start c.tokens 0 false) with
  | .error m => .error (verdict c.tokens m)
  | .ok (some parts, _) => .ok (parts.headD .nothing)
  | .ok (none, first) =>
    match readRule c fuel r (.start c.tokens first.reached true) with
    | .error m => .error (verdict c.tokens m)
    | .ok (_, second) =>
      match ((c.tokens.tokens[first.reached - 1]?).map (·.kind)) with
      | some Token.Kind.indent => .error ⟨"unexpected indent", false⟩
      | some Token.Kind.dedent => .error ⟨"unexpected unindent", false⟩
      | _ => .error (overruled c.tokens ⟨"invalid syntax", second.reached, false, false⟩)

end Parser

end DeskCalc.Literal
