import DeskCalc.Cell
import DeskCalc.Fault
import DeskCalc.Number.Reading
import DeskCalc.Number.Shortest
import DeskCalc.Text.Quoted

namespace DeskCalc

open Text

/-- A dynamic value, as an engine may report it. A dictionary lists each key once, in order of
insertion. -/
inductive Payload
  | null
  | bool (b : Bool)
  | int (n : Int)
  | float (x : Double)
  | text (s : String)
  | list (items : List Payload)
  | dict (entries : List (Payload × Payload))
  | result (r : Result)

namespace Payload

def typeName : Payload → String
  | null => "NoneType"
  | bool _ => "bool"
  | int _ => "int"
  | float _ => "float"
  | text _ => "str"
  | list _ => "list"
  | dict _ => "dict"
  | result _ => "Result"

def factorText (f : Factor) : String :=
  "UnitExponent(symbol=" ++ quoted f.symbol ++ ", exponent=" ++ toString f.exponent ++ ")"

/-- A sequence in parentheses; a single item keeps a comma behind it. -/
def tupleText : List String → String
  | [x] => "(" ++ x ++ ",)"
  | xs => "(" ++ ", ".intercalate xs ++ ")"

def resultText (r : Result) : String :=
  "Result(display=" ++ quoted r.display ++ ", value=" ++ r.value.text ++ ", unit=" ++
    tupleText (r.unit.map factorText) ++ ")"

mutual

/-- A value as it is shown inside another, with texts in quotes. -/
def inner : Payload → String
  | null => "None"
  | bool b => if b then "True" else "False"
  | int n => toString n
  | float x => x.text
  | text s => quoted s
  | list items => "[" ++ ", ".intercalate (innerItems items) ++ "]"
  | dict entries => "\x7b" ++ ", ".intercalate (innerEntries entries) ++ "\x7d"
  | result r => resultText r

def innerItems : List Payload → List String
  | [] => []
  | x :: xs => inner x :: innerItems xs

def innerEntries : List (Payload × Payload) → List String
  | [] => []
  | (key, value) :: rest => (inner key ++ ": " ++ inner value) :: innerEntries rest

end

/-- The text that stands for a value; a text stands for itself. -/
def toText : Payload → String
  | text s => s
  | p => inner p

/-- Why a payload is not what was expected. -/
inductive Error
  | unknownKind (kind : String)
  | unsupported (typeName : String)
  | notIterable (typeName : String)
  | noEntries (typeName : String)
  | badInteger (e : Reading.IntegerError)
  | notAnInteger (typeName : String)
  | nanToInteger
  | infinityToInteger
  | malformedDouble (text : String)
  | notADouble (typeName : String)
  | doubleOverflow
  deriving DecidableEq

/-- The whole number that a value stands for; a double loses its fraction. -/
def toInt : Payload → Except Error Int
  | bool b => .ok b.toInt
  | int n => .ok n
  | float x =>
    match x with
    | .nan => .error .nanToInteger
    | .infinite _ => .error .infinityToInteger
    | x => .ok (x.truncate?.getD 0)
  | text s => (Reading.integer s).mapError .badInteger
  | p => .error (.notAnInteger p.typeName)

def intToDouble (n : Int) : Except Error Double :=
  match Double.ofRat? n with
  | some x => .ok x
  | none => .error .doubleOverflow

def toDouble : Payload → Except Error Double
  | bool b => intToDouble b.toInt
  | int n => intToDouble n
  | float x => .ok x
  | text s =>
    match Reading.double? s with
    | some x => .ok x
    | none => .error (.malformedDouble s)
  | p => .error (.notADouble p.typeName)

/-- The sequence that a value stands for: a text its characters, a dictionary its keys. -/
def elements : Payload → Except Error (List Payload)
  | list items => .ok items
  | text s => .ok (s.toList.map fun c => text c.toString)
  | dict entries => .ok (entries.map (·.1))
  | p => .error (.notIterable p.typeName)

def isText (s : String) : Payload → Bool
  | text t => t = s
  | _ => false

/-- The value under a text key in a dictionary's entries. -/
def find? (key : String) (entries : List (Payload × Payload)) : Option Payload :=
  (entries.find? fun entry => entry.1.isText key).map (·.2)

/-- Equality as keys between values that are no containers: all kinds of numbers compare by value,
and a double that is no number equals nothing. -/
def sameNumber : Payload → Payload → Bool
  | float (.infinite a), float (.infinite b) => a = b
  | p, q =>
    match number p, number q with
    | some x, some y => x = y
    | _, _ => false
where
  number : Payload → Option Rat
    | bool b => some b.toInt
    | int n => some n
    | float x => x.toRat?
    | _ => none

def sameKey : Payload → Payload → Bool
  | null, null => true
  | text s, text t => s = t
  | result r, result s =>
    r.display = s.display && sameNumber (float r.value) (float s.value) && r.unit = s.unit
  | p, q => sameNumber p q

/-- The entries with one more; a key that is there keeps its place and takes the new value. -/
def insert (key value : Payload) : List (Payload × Payload) → List (Payload × Payload)
  | [] => [(key, value)]
  | entry :: rest =>
    if entry.1.sameKey key then (entry.1, value) :: rest else entry :: insert key value rest

def ofEntries (entries : List (Payload × Payload)) : Payload :=
  dict (entries.foldl (fun done entry => insert entry.1 entry.2 done) [])

end Payload

namespace Payload.Error

/-- The words for a payload that is not what was expected. -/
def fault : Error → Fault
  | unknownKind kind => ⟨.value, some (quoted kind ++ " is not a valid EventKind")⟩
  | unsupported typeName => ⟨.type, some ("Unsupported quantity payload: " ++ typeName)⟩
  | notIterable typeName => ⟨.type, some ("'" ++ typeName ++ "' object is not iterable")⟩
  | noEntries typeName => ⟨.member, some ("'" ++ typeName ++ "' object has no attribute 'get'")⟩
  | badInteger e => .value e.message
  | notAnInteger typeName =>
    ⟨.type, some ("int() argument must be a string, a bytes-like object or a real number, not '" ++
      typeName ++ "'")⟩
  | nanToInteger => ⟨.value, some "cannot convert float NaN to integer"⟩
  | infinityToInteger => ⟨.overflow, some "cannot convert float infinity to integer"⟩
  | malformedDouble s => ⟨.value, some ("could not convert string to float: " ++ quoted s)⟩
  | notADouble typeName =>
    ⟨.type, some ("float() argument must be a string or a real number, not '" ++ typeName ++ "'")⟩
  | doubleOverflow => ⟨.overflow, some "int too large to convert to float"⟩

end Payload.Error

end DeskCalc
