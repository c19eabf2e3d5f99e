import DeskCalc.Literal.Lexer
import DeskCalc.Literal.Parser

namespace DeskCalc.Literal.Quotation

open Text

/-- The places that a text takes when all beyond ASCII is written in ten characters. A backslash
before such a character is written in six. -/
def writtenLength : List Char → Nat
  | [] => 0
  | '\\' :: c :: rest =>
    if 128 ≤ c.toNat then 6 + 10 + writtenLength rest else 2 + writtenLength rest
  | c :: rest => (if c = '\\' then 6 else if 128 ≤ c.toNat then 10 else 1) + writtenLength rest

def badEscape (start stop : Nat) (reason : String) : String :=
  "(unicode error) 'unicodeescape' codec can't decode " ++
    (if stop = start + 1 then "byte 0x5c in position " ++ toString start
      else "bytes in position " ++ toString start ++ "-" ++ toString (stop - 1)) ++ ": " ++ reason

/-- An escape by code point, of a number of digits, after its letter. -/
def codeEscape (place width : Nat) (reason : String) (rest : List Char) :
    Except String (List Char) :=
  let digits := (rest.take width).takeWhile Figures.isHexDigit
  let value := digits.foldl (fun n c => 16 * n + Parser.hexValue c) 0
  if digits.length < width then .error (badEscape place (place + 2 + digits.length) reason)
  else if 0x10ffff < value then .error (badEscape place (place + 2 + width) "illegal Unicode character")
  else .ok (rest.drop width)

/-- An escape by the name of a character. No names are known. -/
def nameEscape (place : Nat) (rest : List Char) : String :=
  let malformed := "malformed \\N character escape"
  match rest with
  | '{' :: rest =>
    let name := rest.takeWhile (· ≠ '}')
    if rest.length ≤ name.length then badEscape place (place + 3 + writtenLength name) malformed
    else if name = [] then badEscape place (place + 3) malformed
    else badEscape place (place + 3 + writtenLength (name ++ ['}'])) "unknown Unicode character name"
  | _ => badEscape place (place + 2) malformed

/-- What is wrong with the escapes of a text that begins at `place`. -/
def wrongEscape? : (fuel : Nat) → (place : Nat) → List Char → Option String
  | 0, _, _ => none
  | _ + 1, _, [] => none
  | fuel + 1, place, '\\' :: c :: rest =>
    let after (width : Nat) (reason : String) : Option String :=
      match codeEscape place width reason rest with
      | .error message => some message
      | .ok rest => wrongEscape? fuel (place + 2 + width) rest
    if 128 ≤ c.toNat then wrongEscape? fuel (place + 6) (c :: rest)
    else if c = 'x' then after 2 "truncated \\xXX escape"
    else if c = 'u' then after 4 "truncated \\uXXXX escape"
    else if c = 'U' then after 8 "truncated \\UXXXXXXXX escape"
    else if c = 'N' then some (nameEscape place rest)
    else wrongEscape? fuel (place + 2) rest
  | fuel + 1, place, c :: rest => wrongEscape? fuel (place + writtenLength [c]) rest

/-- Checks the escapes of a text. -/
def decoded (text : List Char) : Except String Unit :=
  match wrongEscape? (text.length + 1) 0 text with
  | some message => .error message
  | none => .ok ()

/-- What is wrong with the escapes of a text of bytes. -/
def wrongByte? : (place : Nat) → List Char → Option String
  | _, [] => none
  | place, '\\' :: 'x' :: rest =>
    if ((rest.take 2).takeWhile Figures.isHexDigit).length = 2 then wrongByte? (place + 2) rest
    else some ("(value error) invalid \\x escape at position " ++ toString place)
  | place, '\\' :: _ :: rest => wrongByte? (place + 2) rest
  | place, _ :: rest => wrongByte? (place + 1) rest

def within (message : String) : String := "f-string: " ++ message

/-- Where in an escape the reading of a text stands. -/
inductive Mode
  | plain
  | escaped
  /-- After the letter that announces a name. -/
  | announced
  | named
  deriving DecidableEq

/-- The text up to a brace, what follows, and whether the brace was a double one, of which one counts
as text. In the format of an expression braces are not doubled. `done` is read, last character
first. -/
def literalPart (raw isFormat : Bool) (mode : Mode) (done : List Char) :
    List Char → Except String (List Char × List Char × Bool)
  | [] => .ok (done.reverse, [], false)
  | c :: rest =>
    let go (mode : Mode) := literalPart raw isFormat mode (c :: done) rest
    match mode with
    | .announced => go (if c = '{' then .named else .plain)
    | .named => go (if c = '}' then .plain else .named)
    | .escaped =>
      if c = 'N' then go .announced
      else if c = '{' ∨ c = '}' then brace c rest
      else go .plain
    | .plain =>
      if c = '\\' ∧ !raw ∧ rest ≠ [] then go .escaped
      else if c = '{' ∨ c = '}' then brace c rest
      else go .plain
where
  brace (c : Char) (rest : List Char) : Except String (List Char × List Char × Bool) :=
    if isFormat then .ok (done.reverse, c :: rest, false)
    else if rest.head? = some c then .ok ((c :: done).reverse, rest.drop 1, true)
    else if c = '}' then .error (within "single '\x7d' is not allowed")
    else .ok (done.reverse, c :: rest, false)

/-- The pairs of characters that are one sign and end no expression. -/
def pairs : List (Char × Char) := [('!', '='), ('=', '='), ('<', '='), ('>', '=')]

/-- An expression up to the sign that ends it, and what follows. `skip` characters are taken as they
are; `quote` is the quote of the text that the reading is in, and whether it is a long one; `opened`
are the open brackets, innermost first. -/
def expressionPart (skip : Nat) (quote : Option (Char × Bool)) (opened : List Char) :
    List Char → Except String (List Char × List Char)
  | [] =>
    match quote, opened with
    | some _, _ => .error (within "unterminated string")
    | none, bracket :: _ => .error (within ("unmatched '" ++ bracket.toString ++ "'"))
    | none, [] => .ok ([], [])
  | c :: rest =>
    let go (skip : Nat) (quote : Option (Char × Bool)) (opened : List Char) :=
      (expressionPart skip quote opened rest).map fun (e, after) => (c :: e, after)
    match skip, quote with
    | skip + 1, _ => go skip quote opened
    | 0, some (q, isLong) =>
      if c = '\\' then .error backslash
      else if c ≠ q then go 0 quote opened
      else if !isLong then go 0 none opened
      else if [q, q] <+: rest then go 2 none opened
      else go 0 quote opened
    | 0, none =>
      if c = '\\' then .error backslash
      else if isQuote c then
        if [c, c] <+: rest then go 2 (some (c, true)) opened else go 0 (some (c, false)) opened
      else if (closing c).isSome then
        if bracketLimit ≤ opened.length then .error (within "too many nested parenthesis")
        else go 0 none (c :: opened)
      else if c = '#' then .error "f-string expression part cannot include '#'"
      else if opened = [] ∧ rest.head?.any (fun d => pairs.contains (c, d)) then go 1 none opened
      else if opened = [] ∧ ['!', ':', '}', '='].contains c then .ok ([], c :: rest)
      else if isClosing c then
        match opened with
        | [] => .error (within ("unmatched '" ++ c.toString ++ "'"))
        | bracket :: opened =>
          if closing bracket = some c then go 0 none opened
          else
            .error (within ("closing parenthesis '" ++ c.toString ++
              "' does not match opening parenthesis '" ++ bracket.toString ++ "'"))
      else go 0 none opened
where
  backslash : String := "f-string expression part cannot include a backslash"

def expected : String := within "expecting '\x7d'"

def conversion : List Char → Except String (List Char)
  | '!' :: rest =>
    match rest with
    | [] => .error expected
    | c :: rest =>
      if c = 's' ∨ c = 'r' ∨ c = 'a' then .ok rest
      else .error (within "invalid conversion character: expected 's', 'r', or 'a'")
  | rest => .ok rest

def isInnerSpace (c : Char) : Bool := c = ' ' || c = '\t' || c = '\n' || c = '\x0c'

/-- The equals sign after an expression that shows its text, and blanks. -/
def shownText : List Char → Except String (List Char)
  | '=' :: rest =>
    match rest.dropWhile fun c => isInnerSpace c || c = '\r' || c = '\x0b' with
    | [] => .error expected
    | rest => .ok rest
  | rest => .ok rest

def unsettled {α : Type} (r : Except String α) : Except Verdict α := r.mapError fun m => ⟨m, false⟩

/-- Checks an expression, which must not be empty. -/
def checkExpression (embedded : List Char → Except Verdict Unit) (e after : List Char) :
    Except Verdict Unit :=
  if e.all isInnerSpace then
    .error ⟨within (match after.head?.filter fun c => c ≠ '}' with
      | some c => "expression required before '" ++ c.toString ++ "'"
      | none => "empty expression not allowed"), false⟩
  else embedded e

/-- Checks a text with expressions in braces, from `level` formats down, and gives what follows it:
nothing, or in a format the brace that ends it. -/
def formatted (embedded : List Char → Except Verdict Unit) (raw : Bool) :
    (fuel : Nat) → (level : Nat) → List Char → Except Verdict (List Char)
  | 0, _, text => .ok text
  | fuel + 1, level, text => do
    let (literal, rest, isDouble) ← unsettled (literalPart raw (level ≠ 0) .plain [] text)
    if !raw then unsettled (decoded literal)
    if isDouble then formatted embedded raw fuel level rest
    else
      match rest with
      | '{' :: rest =>
        if 2 ≤ level then throw ⟨within "expressions nested too deeply", false⟩
        let (e, after) ← unsettled (expressionPart 0 none [] rest)
        if after = [] then throw ⟨expected, false⟩
        checkExpression embedded e after
        let after ← unsettled (shownText after)
        let after ← unsettled (conversion after)
        let after ← match after with
          | ':' :: format =>
            if format = [] then throw ⟨expected, false⟩
            else formatted embedded raw fuel (level + 1) format
          | after => pure after
        match after with
        | '}' :: rest => formatted embedded raw fuel level rest
        | _ => throw ⟨expected, false⟩
      | rest => if level ≠ 0 ∧ rest = [] then throw ⟨expected, false⟩ else return rest

/-- The marks of a text as written, in lower case, and what stands between its quotes. -/
def parts (spelling : String) : List Char × List Char :=
  let marks := spelling.toList.takeWhile (!isQuote ·)
  let body := ((spelling.toList.drop (marks.length + 1)).dropLast)
  let isLong := 4 ≤ body.length && body.take 2 = List.replicate 2
    ((spelling.toList.drop marks.length).headD '"')
  (lowerCase marks, if isLong then (body.drop 2).dropLast.dropLast else body)

/-- What a text in quotes is, once it is checked. Only what is wrong with it matters, not what it
says. -/
def node (embedded : List Char → Except Verdict Unit) (spelling : String) :
    Except Verdict Node := do
  let (marks, body) := parts spelling
  let raw := marks.contains 'r' || !body.contains '\\'
  if marks.contains 'b' then
    if body.any (128 ≤ ·.toNat) then throw ⟨"bytes can only contain ASCII literal characters", false⟩
    if !raw then
      if let some message := wrongByte? 0 body then throw ⟨message, false⟩
    return .bytes
  else if marks.contains 'f' then
    let _ ← formatted embedded (marks.contains 'r') (2 * body.length + 2) 0 body
    return .formatted
  else
    if !raw then unsettled (decoded body)
    return .text

/-- What a run of texts is; bytes go with bytes only. -/
def joined (embedded : List Char → Except Verdict Unit) (first : Option Node) :
    List String → Except Verdict Node
  | [] => .ok (first.getD .text)
  | spelling :: rest => do
    let isBytes : Node → Bool
      | .bytes => true
      | _ => false
    let isFormatted : Node → Bool
      | .formatted => true
      | _ => false
    let n ← checked embedded spelling (first.map isBytes)
    let whole := match first with
      | some m => if isFormatted m then m else n
      | none => n
    joined embedded (some whole) rest
where
  /-- The bytes or plain text are checked first, then whether they may be joined, and then the
  expressions in them. -/
  checked (embedded : List Char → Except Verdict Unit) (spelling : String)
      (bytesBefore : Option Bool) : Except Verdict Node := do
    let isBytes := (parts spelling).1.contains 'b'
    let mixed : Verdict := ⟨"cannot mix bytes and nonbytes literals", false⟩
    if bytesBefore.any (· ≠ isBytes) then
      let _ ← if (parts spelling).1.contains 'f' then pure .formatted else node embedded spelling
      throw mixed
    else node embedded spelling

/-- Reads a run of texts, in which expressions may hold texts again, to a depth. -/
def texts : (depth : Nat) → List String → Except Verdict Node
  | 0, _ => .ok .text
  | depth + 1, spellings =>
    let embedded (e : List Char) : Except Verdict Unit :=
      let tokens := tokensOf ('(' :: e ++ [')', '\n']) 1
      match Parser.read ⟨tokens, texts depth⟩ .embedded with
      | .ok _ => .ok ()
      | .error v => .error (if v.isSettled then v else ⟨within v.message, true⟩)
    joined embedded none spellings

end DeskCalc.Literal.Quotation
