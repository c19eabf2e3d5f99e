namespace DeskCalc.Text

/-- A document of named and listed values; a number is given by its text. -/
inductive Document
  | null
  | number (digits : String)
  | text (s : String)
  | list (items : List Document)
  | record (entries : List (String × Document))

namespace Document

/-- A code unit of sixteen bits as an escape. -/
def unitEscape (n : Nat) : List Char :=
  '\\' :: 'u' :: [3, 2, 1, 0].map fun i => (n / Nat.pow 16 i % 16).digitChar

/-- The text of a document is plain ASCII: all other characters are escaped, those beyond the basic
plane as a pair. -/
def escaped (c : Char) : List Char :=
  let code := c.toNat
  if c = '"' ∨ c = '\\' then ['\\', c]
  else if c = '\n' then ['\\', 'n']
  else if c = '\r' then ['\\', 'r']
  else if c = '\t' then ['\\', 't']
  else if code = 8 then ['\\', 'b']
  else if code = 12 then ['\\', 'f']
  else if 32 ≤ code ∧ code < 127 then [c]
  else if code < 0x10000 then unitEscape code
  else
    unitEscape (0xd800 + (code - 0x10000) / 0x400) ++ unitEscape (0xdc00 + (code - 0x10000) % 0x400)

def stringText (s : String) : String := .ofList ('"' :: s.toList.flatMap escaped ++ ['"'])

def newline (depth : Nat) : String := "\n" ++ .ofList (List.replicate (2 * depth) ' ')

/-- Items between brackets, each on a line of its own, two columns further in. -/
def block (opening closing : String) (depth : Nat) : List String → String
  | [] => opening ++ closing
  | items =>
    opening ++ newline (depth + 1) ++ ("," ++ newline (depth + 1)).intercalate items ++
      newline depth ++ closing

mutual

/-- The text of a document that stands `depth` levels in. -/
def indented (depth : Nat) : Document → String
  | null => "null"
  | number digits => digits
  | text s => stringText s
  | list items => block "[" "]" depth (indentedItems (depth + 1) items)
  | record entries => block "\x7b" "\x7d" depth (indentedEntries (depth + 1) entries)

def indentedItems (depth : Nat) : List Document → List String
  | [] => []
  | d :: ds => indented depth d :: indentedItems depth ds

def indentedEntries (depth : Nat) : List (String × Document) → List String
  | [] => []
  | (name, d) :: rest => (stringText name ++ ": " ++ indented depth d) :: indentedEntries depth rest

end

end Document

end DeskCalc.Text
