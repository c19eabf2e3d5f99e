namespace DeskCalc.Literal.Figures

def isFigure (c : Char) : Bool := '0' ≤ c && c ≤ '9'

/-- Characters that a word may hold; all beyond ASCII count until the word is read. -/
def inWord (c : Char) : Bool :=
  'a' ≤ c && c ≤ 'z' || 'A' ≤ c && c ≤ 'Z' || isFigure c || c = '_' || 128 ≤ c.toNat

def malformed (kind : String) : String := "invalid " ++ kind ++ " literal"

/-- The keywords that may follow a number at once. -/
def followers : List (List Char) :=
  [['a', 'n', 'd'], ['e', 'l', 's', 'e'], ['f', 'o', 'r'], ['o', 'r'], ['n', 'o', 't']]

/-- The keywords that may do so even with more of a word behind them. -/
def shortFollowers : List (List Char) := [['i', 'f'], ['i', 'n'], ['i', 's']]

/-- No word other than a keyword may follow a number at once. -/
def ended (kind : String) (rest : List Char) : Except String (List Char) :=
  if !(rest.head?.any inWord) || followers.contains (rest.takeWhile inWord) ||
      shortFollowers.any (· <+: rest) then .ok rest
  else .error (malformed kind)

/-- More digits, in groups between low lines. The text begins with a digit. -/
def moreDigits (text : List Char) : Except String (List Char) :=
  match _h : text.dropWhile isFigure with
  | '_' :: rest =>
    if rest.head?.any isFigure then moreDigits rest else .error (malformed "decimal")
  | rest => .ok rest
termination_by text.length
decreasing_by
  have := (List.dropWhile_suffix isFigure (l := text)).length_le
  simp only [_h, List.length_cons] at this
  omega

/-- The mark of an imaginary number, or none, at the end. -/
def imaginaryMark : List Char → Except String (List Char)
  | 'j' :: rest => ended "imaginary" rest
  | 'J' :: rest => ended "imaginary" rest
  | rest => ended "decimal" rest

/-- The digits of an exponent after its letter, whose sign is read. -/
def signedExponent (rest : List Char) : Except String (List Char) :=
  if rest.head?.any isFigure then (moreDigits rest).bind imaginaryMark
  else .error (malformed "decimal")

/-- An exponent, if there is one. A letter that begins none may begin a keyword. -/
def exponent (text : List Char) : Except String (List Char) :=
  match text with
  | letter :: rest =>
    if letter = 'e' ∨ letter = 'E' then
      match rest with
      | '+' :: rest => signedExponent rest
      | '-' :: rest => signedExponent rest
      | rest => if rest.head?.any isFigure then signedExponent rest else ended "decimal" text
    else imaginaryMark text
  | [] => .ok []

def fraction (rest : List Char) : Except String (List Char) :=
  if rest.head?.any isFigure then (moreDigits rest).bind exponent else exponent rest

def afterWhole : List Char → Except String (List Char)
  | '.' :: rest => fraction rest
  | rest => exponent rest

/-- The digits of a whole number in another base, in groups that low lines may begin. -/
def based (kind : String) (isDigit : Char → Bool) : (fuel : Nat) → List Char →
    Except String (List Char)
  | 0, rest => .ok rest
  | fuel + 1, text =>
    let digits := match text with
      | '_' :: rest => rest
      | rest => rest
    let wrong (c : Char) : String :=
      "invalid digit '" ++ c.toString ++ "' in " ++ kind ++ " literal"
    match digits with
    | [] => .error (malformed kind)
    | c :: _ =>
      if isDigit c then
        match digits.dropWhile isDigit with
        | '_' :: rest => based kind isDigit fuel ('_' :: rest)
        | rest =>
          match rest.head?.filter isFigure with
          | some c => .error (wrong c)
          | none => ended kind rest
      else .error (if isFigure c then wrong c else malformed kind)

def isHexDigit (c : Char) : Bool := isFigure c || 'a' ≤ c && c ≤ 'f' || 'A' ≤ c && c ≤ 'F'

/-- More zeros at the front of a number, and low lines between them. -/
def moreZeros : List Char → Except String (List Char)
  | '0' :: rest => moreZeros rest
  | '_' :: c :: rest =>
    if !isFigure c then .error (malformed "decimal")
    else if c = '0' then moreZeros rest
    else .ok (c :: rest)
  | ['_'] => .error (malformed "decimal")
  | rest => .ok rest

def leadingZeros : String :=
  "leading zeros in decimal integer literals are not permitted; use an 0o prefix for octal integers"

/-- What may follow the digits of a number other than a whole one. -/
def isFractional (c : Char) : Bool := c = '.' || c = 'e' || c = 'E' || c = 'j' || c = 'J'

/-- The rest of a number that begins with a zero and has no mark of a base. -/
def afterZero (rest : List Char) : Except String (List Char) := do
  let rest ← moreZeros rest
  if rest.head?.any isFigure then
    let rest ← moreDigits rest
    if rest.head?.any isFractional then afterWhole rest else .error leadingZeros
  else afterWhole rest

/-- Reads a number at the front of a text and gives what follows it, or the words for what is wrong;
so does each function here for a part of one. The text begins with a digit, or with a point and a
digit. -/
def number (text : List Char) : Except String (List Char) :=
  match text with
  | '.' :: rest => fraction rest
  | '0' :: mark :: rest =>
    let bits (c : Char) : Bool := '0' ≤ c && c ≤ '1'
    let octal (c : Char) : Bool := '0' ≤ c && c ≤ '7'
    if mark = 'x' ∨ mark = 'X' then based "hexadecimal" isHexDigit text.length rest
    else if mark = 'o' ∨ mark = 'O' then based "octal" octal text.length rest
    else if mark = 'b' ∨ mark = 'B' then based "binary" bits text.length rest
    else afterZero (mark :: rest)
  | '0' :: rest => afterZero rest
  | text => (moreDigits text).bind afterWhole

end DeskCalc.Literal.Figures
