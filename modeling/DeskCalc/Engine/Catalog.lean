import DeskCalc.Engine
import DeskCalc.Text.Split

namespace DeskCalc

open Text

/-- What a name in a module stands for. -/
inductive Member
  /-- An engine, used as it is. -/
  | engine (e : Engine)
  /-- Something to call: it makes an engine or something else, or ends with a fault. -/
  | factory (made : Except Fault (Option Engine))
  | other
  /-- A name that is there and stands for nothing. -/
  | nothing

/-- A module; only a package can have modules below it. -/
structure Module where
  name : String
  isPackage : Bool
  members : List (String × Member)

/-- The modules that can be imported. An engine is found in them by its path `module:name`. -/
abbrev Catalog := List Module

inductive ImportError
  | notFound (name : String)
  | notPackage (name parent : String)
  deriving DecidableEq

def ImportError.message : ImportError → String
  | notFound name => "No module named " ++ quoted name
  | notPackage name parent =>
    "No module named " ++ quoted name ++ "; " ++ quoted parent ++ " is not a package"

inductive LoadError
  | invalidPath (path : String)
  | cannotImport (name : String) (e : ImportError)
  | missing (name member : String)
  | factoryFailed (path : String) (f : Fault)
  | notAnEngine (path : String)
  | relative (name : String)
  | interrupted (f : Fault)
  deriving DecidableEq

def LoadError.fault : LoadError → Fault
  | invalidPath path =>
    ⟨.bootstrap, some ("Invalid engine path " ++ quoted path ++ ", expected 'module:attr'")⟩
  | cannotImport name e =>
    ⟨.bootstrap, some ("Cannot import engine module " ++ quoted name ++ ": " ++ e.message)⟩
  | missing name member =>
    ⟨.bootstrap, some ("Engine module " ++ quoted name ++ " has no attribute " ++
      quoted member)⟩
  | factoryFailed path f =>
    ⟨.bootstrap, some ("Engine factory " ++ path ++ " failed: " ++ f.description)⟩
  | notAnEngine path => ⟨.bootstrap, some (path ++ " is not a calculation engine")⟩
  | relative name =>
    ⟨.type, some ("the 'package' argument is required to perform a relative import for " ++
      quoted name)⟩
  | interrupted f => f

namespace Catalog

/-- The module whose dotted name has these parts, the last one first. A module that is not listed
is sought in its package, which is imported before it. -/
def importing (c : Catalog) : List String → Except ImportError Module
  | [] => .error (.notFound "")
  | last :: parents =>
    let name := ".".intercalate (last :: parents).reverse
    match c.find? (·.name = name) with
    | some m => .ok m
    | none =>
      match parents with
      | [] => .error (.notFound name)
      | parents =>
        match importing c parents with
        | .error e => .error e
        | .ok parent =>
          .error (if parent.isPackage then .notFound name else .notPackage name parent.name)

def engineOf (path name member : String) : Option Member → Except LoadError Engine
  | none | some .nothing => .error (.missing name member)
  | some (.engine e) => .ok e
  | some .other => .error (.notAnEngine path)
  | some (.factory (.ok (some e))) => .ok e
  | some (.factory (.ok none)) => .error (.notAnEngine path)
  | some (.factory (.error f)) =>
    .error (if f.isOrdinary then .factoryFailed path f else .interrupted f)

/-- A path's module and name, on the two sides of its first colon. -/
def splitPath (path : String) : Option (String × String) :=
  (cut? ':' path).filter fun (name, member) => name ≠ "" && member ≠ ""

def load (c : Catalog) (path : String) : Except LoadError Engine :=
  match splitPath path with
  | none => .error (.invalidPath path)
  | some (name, member) =>
    if name.toList.head? = some '.' then .error (.relative name)
    else
      match c.importing (pieces '.' name).reverse with
      | .error e => .error (.cannotImport name e)
      | .ok m => engineOf path name member (m.members.lookup member)

end Catalog

end DeskCalc
