import DeskCalc.Text.Character
import DeskCalc.Token

namespace DeskCalc

open Text

/-- The character that no token can begin or go on with, none at the end of the text. -/
structure LexError where
  found : Option Char
  position : Position
  deriving DecidableEq

/-- The tokens up to the end of the text or up to the error. -/
structure Lexed where
  tokens : List Token
  error : Option LexError
  deriving DecidableEq

def Lexed.cons (t : Token) (l : Lexed) : Lexed := ⟨t :: l.tokens, l.error⟩

namespace Lexer

def isLetter (c : Char) : Bool := 'a' ≤ c && c ≤ 'z' || 'A' ≤ c && c ≤ 'Z'

def isFigure (c : Char) : Bool := '0' ≤ c && c ≤ '9'

def startsNumber (c : Char) : Bool := isFigure c || c = '_'

def inNumber (c : Char) : Bool :=
  isFigure c || c = '.' || c = 'e' || c = 'E' || c = '_' || c = '-'

def inName (c : Char) : Bool := isLetter c || isFigure c || c = '_'

def inUnit (c : Char) : Bool := inName c || c = '/' || c = '*'

def inComment (c : Char) : Bool := c ≠ '\n'

/-- The lexeme that a store or load sign makes of the name after it. -/
def variableLexeme (sign : Char) (name : List Char) : Lexeme :=
  if sign = '>' then .store (.ofList name) else .load (.ofList name)

theorem length_dropWhile_lt (p : Char → Bool) (c : Char) (cs : List Char) :
    (cs.dropWhile p).length < (c :: cs).length :=
  Nat.lt_succ_of_le (List.dropWhile_suffix p).length_le

/-- Reads the text `cs` that stands at `p`. -/
def scan (p : Position) : List Char → Lexed
  | [] => ⟨[], none⟩
  | c :: cs =>
    if isBlank c then scan (p.next c) cs
    else if c = '#' then scan (p.past (c :: cs.takeWhile inComment)) (cs.dropWhile inComment)
    else if startsNumber c then
      let body := c :: cs.takeWhile inNumber
      (scan (p.past body) (cs.dropWhile inNumber)).cons ⟨.number (.ofList body), p⟩
    else if c = '(' then
      let body := cs.takeWhile inUnit
      match _h : cs.dropWhile inUnit with
      | ')' :: rest =>
        (scan (p.past (c :: body ++ [')'])) rest).cons ⟨.unit (.ofList body), p⟩
      | rest => ⟨[], some ⟨rest.head?, p.past (c :: body)⟩⟩
    else if c = '>' ∨ c = '<' then
      let name := cs.takeWhile inName
      (scan (p.past (c :: name)) (cs.dropWhile inName)).cons ⟨variableLexeme c name, p⟩
    else
      match Operator.ofChar? c with
      | some op => (scan (p.next c) cs).cons ⟨.operator op, p⟩
      | none => ⟨[], some ⟨some c, p⟩⟩
termination_by cs => cs.length
decreasing_by
  · simp
  · exact length_dropWhile_lt ..
  · exact length_dropWhile_lt ..
  · have := length_dropWhile_lt inUnit c cs
    simp only [_h, List.length_cons] at this ⊢
    omega
  · exact length_dropWhile_lt ..
  · simp

end Lexer

/-- Reads a text as tokens. Numbers and names are as long as they can be; blanks and comments stand
between tokens; the first character that fits nowhere ends the reading, with its place. -/
def lex (text : String) : Lexed := Lexer.scan .start text.toList

/-- The spellings of some lexemes with one space between any two. -/
def Lexeme.spelled (lexemes : List Lexeme) : List Char :=
  [' '].intercalate (lexemes.map Lexeme.spelling)

end DeskCalc
