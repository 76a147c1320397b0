import CecBus.FileFault
import CecBus.FileName
import CecBus.Profile.KeyPath
import CecBus.Text.Blank

/-! Profiles: documents whose entries are found by key path and read as text, number or truth value. -/

namespace CecBus

/-- The kinds of entries that can be asked for. -/
inductive EntryKind where
  | text
  | number
  | flag
  | portNumber
  deriving DecidableEq, Repr

/-- The wording of a kind. -/
def EntryKind.word : EntryKind → String
  | .text => "string"
  | .number => "unsigned integer"
  | .flag => "boolean"
  | .portNumber => "port id"

/-- Why a profile or one of its entries cannot be read. -/
inductive ProfileError where
  | file (path : String) (fault : FileFault)
  | document (fault : Yaml.Fault)
  | missing (key : String)
  | kind (key : String) (expected : EntryKind)
  deriving DecidableEq, Repr

/-- The wording of an error. -/
def ProfileError.message : ProfileError → String
  | .file path fault => "failed to read profile " ++ FileName.quote path ++ ": " ++ fault.message
  | .document fault => "failed to parse profile: " ++ fault.message
  | .missing key => "missing profile key: " ++ key
  | .kind key expected => "profile key " ++ key ++ " is not a " ++ expected.word

/-- What lies behind an error. -/
def ProfileError.causes : ProfileError → List String
  | .file _ fault => [fault.message]
  | .document fault => [fault.message]
  | _ => []

/-- Takes a missing entry for none and keeps every other error. -/
def ProfileError.optional {α : Type} : Except ProfileError α → Except ProfileError (Option α)
  | .ok a => .ok (some a)
  | .error (.missing _) => .ok none
  | .error e => .error e

/-- A document that is read by key path. -/
structure Profile where
  root : Yaml.Value
  deriving Repr

namespace Profile

/-- The profile in a text given as bytes. -/
def ofBytes (bytes : ByteArray) : Except ProfileError Profile :=
  match Yaml.Value.ofBytes bytes with
  | .ok root => .ok ⟨root⟩
  | .error fault => .error (.document fault)

def lookup (p : Profile) (key : String) : Option Yaml.Value := KeyPath.follow p.root (KeyPath.names key)

def contains (p : Profile) (key : String) : Bool := (p.lookup key).isSome

/-- The number of entries of a collection; other values have none. -/
def entryCount : Yaml.Value → Nat
  | .sequence items => items.length
  | .mapping entries => entries.length
  | _ => 0

def count (p : Profile) (key : String) : Nat := ((p.lookup key).map entryCount).getD 0

/-- Whether the document holds nothing. -/
def isEmpty (p : Profile) : Bool :=
  match p.root with
  | .null => true
  | _ => false

/-- The text of a scalar. -/
def textOf : Yaml.Value → Option String
  | .string text => some text
  | .integer n => some (toString n)
  | .real x => some (Yaml.Value.numberLayout.write x)
  | .bool b => some (if b then "true" else "false")
  | _ => none

/-- The number of a scalar that is one, or of a text that spells one. -/
def numberOf (value : Yaml.Value) : Option Nat :=
  let number := match value with
    | .integer n => if n < 0 then none else some n.toNat
    | .string text => Numeral.marked? (Text.trim text.toList)
    | _ => none
  number.filter (· < UInt32.size)

/-- The truth value of a scalar that is one, or of a text that spells one in any case. -/
def flagOf : Yaml.Value → Option Bool
  | .bool b => some b
  | .string text =>
    if text.toLower = "true" then some true else if text.toLower = "false" then some false else none
  | _ => none

/-- Reads an entry of a kind. -/
def read {α : Type} (p : Profile) (kind : EntryKind) (of : Yaml.Value → Option α) (key : String) :
    Except ProfileError α :=
  match p.lookup key with
  | none => .error (.missing key)
  | some value =>
    match of value with
    | some a => .ok a
    | none => .error (.kind key kind)

def text (p : Profile) (key : String) : Except ProfileError String := p.read .text textOf key

def number (p : Profile) (key : String) : Except ProfileError Nat := p.read .number numberOf key

def flag (p : Profile) (key : String) : Except ProfileError Bool := p.read .flag flagOf key

end Profile

end CecBus
