namespace DeskCalc.Literal

/-- What a token of a written value is. Beside what is written there are the ends of lines, the
changes of indentation, and the end of the text. -/
inductive Token.Kind
  | name
  | number
  | text
  | sign
  | newline
  | indent
  | dedent
  | finish
  deriving DecidableEq

/-- A token as written. `depth` counts the brackets open after it, and `line` is where it begins;
`meetsEnd` says whether the end of the text had to be met to know that the token ends. -/
structure Token where
  kind : Token.Kind
  spelling : String
  depth : Nat
  line : Nat
  meetsEnd : Bool
  deriving DecidableEq

/-- Why no token can be read. A decisive reason goes before mistakes in the order of the tokens that
were read; the innermost open bracket and its line are kept for the others. -/
structure Obstacle where
  message : String
  isDecisive : Bool
  opened : Option (Char × Nat)
  deriving DecidableEq

namespace Obstacle

def decisive (message : String) : Obstacle := ⟨message, true, none⟩

def unclosed (bracket : Char) : String := "'" ++ bracket.toString ++ "' was never closed"

end Obstacle

/-- The tokens of a text, up to its end or an obstacle. -/
structure Tokens where
  tokens : Array Token
  obstacle : Option Obstacle

/-- The words that are no names. -/
def keywords : List String :=
  ["False", "None", "True", "and", "as", "assert", "async", "await", "break", "class", "continue",
    "def", "del", "elif", "else", "except", "finally", "for", "from", "global", "if", "import", "in",
    "is", "lambda", "nonlocal", "not", "or", "pass", "raise", "return", "try", "while", "with",
    "yield"]

/-- The names that are words of their own in some places. -/
def softKeywords : List String := ["_", "case", "match"]

namespace Token

def isName (t : Token) : Bool := t.kind = .name && !keywords.contains t.spelling

def isSoftKeyword (t : Token) : Bool :=
  t.kind = .name && softKeywords.any fun word => t.spelling.toList <+: word.toList

/-- Whether a token is a certain sign or keyword. -/
def isWord (word : String) (t : Token) : Bool :=
  (t.kind = .name || t.kind = .sign) && t.spelling = word

end Token

end DeskCalc.Literal
