import DeskCalc.Literal.Figures
import DeskCalc.Literal.Token
import DeskCalc.Text.Case
import DeskCalc.Text.Letter
import DeskCalc.Text.Quoted

namespace DeskCalc.Literal

open Text

/-- Where the reading stands: what is left, the line, the open brackets with their lines, innermost
first, and the indentations, deepest first, each in two measures of a tab. -/
structure Cursor where
  rest : List Char
  line : Nat
  opened : List (Char × Nat)
  indents : List (Nat × Nat)

namespace Cursor

def start (text : List Char) (line : Nat) : Cursor := ⟨text, line, [], [(0, 0)]⟩

def token (k : Cursor) (kind : Token.Kind) (spelling : List Char) : Token :=
  ⟨kind, .ofList spelling, k.opened.length, k.line, false⟩

/-- An obstacle that leaves mistakes before it as they are. -/
def obstacle (k : Cursor) (message : String) : Obstacle := ⟨message, false, k.opened.head?⟩

/-- The end of the text where it should go on. -/
def unexpectedEnd (k : Cursor) : Obstacle :=
  match k.opened with
  | (bracket, _) :: _ => k.obstacle (Obstacle.unclosed bracket)
  | [] => k.obstacle "unexpected EOF while parsing"

/-- Past the end of a line that a backslash before it hides. -/
def joined (k : Cursor) : List Char → Except Obstacle Cursor
  | '\n' :: rest =>
    if rest = [] then .error k.unexpectedEnd else .ok { k with rest := rest, line := k.line + 1 }
  | _ => .error (k.obstacle "unexpected character after line continuation character")

end Cursor

def isSpace (c : Char) : Bool := c = ' ' || c = '\t' || c = '\x0c'

/-- The first character of a word that no name may have there. -/
def foreignChar? : List Char → Option Char
  | [] => none
  | c :: cs => if startsName c then cs.find? (!continuesName ·) else some c

/-- A code point as messages write it, of at least four digits. -/
def codePoint (c : Char) : String :=
  let width := if c.toNat < 0x10000 then 4 else if c.toNat < 0x100000 then 5 else 6
  "U+" ++ .ofList ((hexDigits width c.toNat).map Char.toUpper)

def unprintable (c : Char) : String := "invalid non-printable character " ++ codePoint c

def foreign (c : Char) : String :=
  if isPrintable c then "invalid character '" ++ c.toString ++ "' (" ++ codePoint c ++ ")"
  else unprintable c

def textMarks : List String := ["b", "u", "r", "f", "br", "rb", "fr", "rf"]

/-- Whether a word stands before a quote to say what kind of text follows. -/
def isTextMark (word : List Char) : Bool := textMarks.contains (.ofList (lowerCase word))

def isQuote (c : Char) : Bool := c = '"' || c = '\''

/-- The signs of three and two characters, longer ones first. -/
def longSigns : List (List Char) :=
  [['*', '*', '='], ['/', '/', '='], ['<', '<', '='], ['>', '>', '='], ['.', '.', '.'],
    ['!', '='], ['%', '='], ['&', '='], ['*', '*'], ['*', '='], ['+', '='], ['-', '='], ['-', '>'],
    ['/', '/'], ['/', '='], [':', '='], ['<', '<'], ['<', '='], ['<', '>'], ['=', '='], ['>', '='],
    ['>', '>'], ['@', '='], ['^', '='], ['|', '=']]

def closing : Char → Option Char
  | '(' => some ')'
  | '[' => some ']'
  | '{' => some '}'
  | _ => none

def isClosing (c : Char) : Bool := c = ')' || c = ']' || c = '}'

/-- The brackets that may be open at once. -/
def bracketLimit : Nat := 200

/-- The open brackets after a sign of one character. -/
def afterSign (k : Cursor) (c : Char) : Except Obstacle (List (Char × Nat)) :=
  if (closing c).isSome then
    if bracketLimit ≤ k.opened.length then .error (.decisive "too many nested parentheses")
    else .ok ((c, k.line) :: k.opened)
  else if isClosing c then
    match k.opened with
    | [] => .error (.decisive ("unmatched '" ++ c.toString ++ "'"))
    | (bracket, line) :: opened =>
      if closing bracket = some c then .ok opened
      else
        .error (.decisive ("closing parenthesis '" ++ c.toString ++
          "' does not match opening parenthesis '" ++ bracket.toString ++ "'" ++
          if line = k.line then "" else " on line " ++ toString line))
  else if c.toNat < 32 ∨ c.toNat = 127 then .error (.decisive (unprintable c))
  else .ok k.opened

/-- What follows a text up to its last quote, and the line it ends in, or the line in which it should
have ended. A backslash takes the next character with it. -/
def closeText (quote : Char) (isLong : Bool) :
    (escaped : Bool) → (line : Nat) → List Char → Except Nat (List Char × Nat)
  | _, line, [] => .error line
  | true, line, c :: rest =>
    closeText quote isLong false (if c = '\n' ∧ rest ≠ [] then line + 1 else line) rest
  | false, line, c :: rest =>
    if c = '\\' then closeText quote isLong true line rest
    else if c = quote ∧ !isLong then .ok (rest, line)
    else if c = quote ∧ [quote, quote] <+: rest then .ok (rest.drop 2, line)
    else if c = '\n' ∧ (!isLong ∨ rest = []) then .error line
    else closeText quote isLong false (if c = '\n' then line + 1 else line) rest

/-- What follows a text in quotes, from its first quote on, and the line it ends in. -/
def quotedText (line : Nat) (quote : Char) (rest : List Char) : Except Obstacle (List Char × Nat) :=
  let close (isLong : Bool) (rest : List Char) : Except Obstacle (List Char × Nat) :=
    (closeText quote isLong false line rest).mapError fun last =>
      .decisive ("unterminated " ++ (if isLong then "triple-quoted " else "") ++
        "string literal (detected at line " ++ toString last ++ ")")
  match rest with
  | c₁ :: c₂ :: after =>
    if c₁ = quote then
      if c₂ = quote then close true after else .ok (c₂ :: after, line)
    else close false rest
  | [c] => if c = quote then .ok ([], line) else close false rest
  | [] => close false rest

/-- A quote ends a text, unless it is the second of two: there a third could follow. -/
def endsItself (t : Token) : Bool :=
  t.kind = .text && (t.spelling.toList.dropWhile (!isQuote ·)).length ≠ 2

/-- The token at the front of what is left, which begins with no blank. -/
def nextToken (k : Cursor) (c : Char) (rest : List Char) : Except Obstacle (Token × Cursor) :=
  let text := c :: rest
  /- A token up to `after`, with the cursor behind it. -/
  let upTo (kind : Token.Kind) (after : List Char) (line : Nat) : Token × Cursor :=
    (k.token kind (text.take (text.length - after.length)), { k with rest := after, line := line })
  let asText (quote : Char) (body : List Char) : Except Obstacle (Token × Cursor) :=
    (quotedText k.line quote body).map fun (after, line) => upTo .text after line
  if Figures.inWord c ∧ !Figures.isFigure c then
    let word := text.takeWhile Figures.inWord
    let after := text.dropWhile Figures.inWord
    match after with
    | quote :: body =>
      if isQuote quote ∧ isTextMark word then asText quote body
      else
        match foreignChar? word with
        | some c => .error (.decisive (foreign c))
        | none => .ok (upTo .name after k.line)
    | [] =>
      match foreignChar? word with
      | some c => .error (.decisive (foreign c))
      | none => .ok (upTo .name after k.line)
  else if Figures.isFigure c ∨ c = '.' ∧ rest.head?.any Figures.isFigure then
    match Figures.number text with
    | .error message => .error (.decisive message)
    | .ok after => .ok (upTo .number after k.line)
  else if isQuote c then asText c rest
  else
    match longSigns.find? (· <+: text) with
    | some sign => .ok (upTo .sign (text.drop sign.length) k.line)
    | none =>
      (afterSign k c).map fun opened =>
        let k := { k with opened := opened, rest := rest }
        (k.token .sign [c], k)

/-- The columns of blanks at the front of a line, in two measures of a tab. A backslash at the end of
the line joins the next one and fixes the columns. -/
def measure (k : Cursor) (fixed : Option (Nat × Nat)) (columns : Nat × Nat) :
    (fuel : Nat) → Except Obstacle ((Nat × Nat) × Cursor)
  | 0 => .ok (fixed.getD columns, k)
  | fuel + 1 =>
    match k.rest with
    | ' ' :: rest => measure { k with rest := rest } fixed (columns.1 + 1, columns.2 + 1) fuel
    | '\t' :: rest =>
      measure { k with rest := rest } fixed ((columns.1 / 8 + 1) * 8, columns.2 + 1) fuel
    | '\x0c' :: rest => measure { k with rest := rest } fixed (0, 0) fuel
    | '\\' :: rest =>
      match k.joined rest with
      | .error e => .error e
      | .ok k =>
        let kept := if (fixed.getD (0, 0)).1 = 0 then columns else fixed.getD (0, 0)
        measure k (if kept.1 = 0 then none else some kept) columns fuel
    | _ => .ok (fixed.getD columns, k)

/-- The tokens of a line's indentation, and the indentations after it. -/
def indentation (k : Cursor) (columns : Nat × Nat) :
    Except Obstacle (List Token × List (Nat × Nat)) :=
  let uneven := k.obstacle "inconsistent use of tabs and spaces in indentation"
  match k.indents with
  | [] => .ok ([], [columns])
  | deepest :: outer =>
    if columns.1 = deepest.1 then
      if columns.2 = deepest.2 then .ok ([], k.indents) else .error uneven
    else if deepest.1 < columns.1 then
      if columns.2 ≤ deepest.2 then .error uneven
      else .ok ([k.token .indent []], columns :: k.indents)
    else
      let left := (deepest :: outer).dropWhile fun i => columns.1 < i.1
      match left with
      | i :: _ =>
        if i.1 ≠ columns.1 then
          .error (k.obstacle "unindent does not match any outer indentation level")
        else if i.2 ≠ columns.2 then .error uneven
        else .ok (List.replicate (k.indents.length - left.length) (k.token .dedent []), left)
      | [] => .error (k.obstacle "unindent does not match any outer indentation level")

/-- The tokens from a cursor on; `atStart` says whether a line begins there. Blanks separate tokens;
within brackets the ends of lines are blanks too, and outside them the indentation of a line
counts. -/
def scan : (fuel : Nat) → (atStart : Bool) → Cursor → List Token × Option Obstacle
  | 0, _, k => ([k.token .finish []], none)
  | fuel + 1, true, k =>
    match measure k none (0, 0) (k.rest.length + 1) with
    | .error e => ([], some e)
    | .ok (columns, k) =>
      match k.rest.dropWhile (· ≠ '\n'), k.rest.head? with
      | '\n' :: rest, some '#' => scan fuel true { k with rest := rest, line := k.line + 1 }
      | _, some '\n' => scan fuel true { k with rest := k.rest.drop 1, line := k.line + 1 }
      | _, some '#' => scan fuel false k
      | _, _ =>
        if k.opened ≠ [] then scan fuel false k
        else
          match indentation k columns with
          | .error e => ([], some e)
          | .ok (tokens, indents) =>
            let (later, obstacle) := scan fuel false { k with indents := indents }
            (tokens ++ later, obstacle)
  | fuel + 1, false, k =>
    match k.rest.dropWhile isSpace with
    | [] =>
      if k.opened = [] then ([k.token .finish []], none) else ([], some k.unexpectedEnd)
    | '#' :: rest => scan fuel false { k with rest := rest.dropWhile (· ≠ '\n') }
    | '\n' :: rest =>
      let next := { k with rest := rest, line := k.line + 1 }
      if k.opened ≠ [] then scan fuel true next
      else
        let (later, obstacle) := scan fuel true next
        (k.token .newline [] :: later, obstacle)
    | '\\' :: rest =>
      match k.joined rest with
      | .error e => ([], some e)
      | .ok k => scan fuel false k
    | c :: rest =>
      match nextToken k c rest with
      | .error e => ([], some e)
      | .ok (token, k) =>
        let (later, obstacle) := scan fuel false k
        ({ token with meetsEnd := k.rest = [] && !endsItself token } :: later, obstacle)

/-- The ends of lines all written alike. -/
def unified : List Char → List Char
  | '\r' :: '\n' :: rest => '\n' :: unified rest
  | '\r' :: rest => '\n' :: unified rest
  | c :: rest => c :: unified rest
  | [] => []

/-- The tokens of a text whose first line has a certain number. -/
def tokensOf (text : List Char) (line : Nat) : Tokens :=
  let text := unified text
  let (tokens, obstacle) := scan (2 * text.length + 2) true (.start text line)
  ⟨tokens.toArray, obstacle⟩

end DeskCalc.Literal
