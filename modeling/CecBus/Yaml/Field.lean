import CecBus.Yaml.Value

/-! Nodes read straight into fields of known types. What the field wants decides how a scalar is read, so a
text takes a scalar as it is written, whatever the scalar would stand for on its own. -/

namespace CecBus.Yaml

/-- A way to read the nodes of a document. -/
abbrev Field (α : Type) := Document → Node → Reading α

/-- The node of a document; an empty document has an empty one. -/
def Document.node (d : Document) : Node := d.root.getD (.scalar none .plain "")

/-- A node, or what it refers to. -/
def Document.resolve (d : Document) : Node → Reading Node
  | .reference id =>
    match d.targets.lookup id with
    | some node => .ok node
    | none => .error .unknownAlias
  | node => .ok node

/-- Whether a scalar is written out and empty. -/
def isVoid (style : Style) (text : String) : Bool := style = .plain && text.isEmpty

namespace Field

variable {α : Type}

/-- The text of a scalar of any style. -/
def text : Field String := fun d node => do
  match ← d.resolve node with
  | .scalar _ _ text => pure text
  | _ => throw .wrongKind

/-- Reads a scalar by its spelling. It has to be plain, or a literal one under the tag of its kind. -/
def spelled (kind : String) (read : String → Option α) : Field α := fun d node => do
  match ← d.resolve node with
  | .scalar tag style text =>
    if style = .plain || (style = .literal && tag = some (Value.standardTag kind)) then
      match read text with
      | some value => pure value
      | none => throw .wrongKind
    else throw .wrongKind
  | _ => throw .wrongKind

/-- A whole number of at most 64 bits without a minus sign. -/
def word? (text : String) : Option UInt64 :=
  let (negative, rest) := splitSign text.toList
  if negative then none else ((magnitude? rest).filter (· < UInt64.size)).map UInt64.ofNat

def word : Field UInt64 := spelled "int" word?

def flag : Field Bool := spelled "bool" truthValue?

/-- Whether a scalar says that there is nothing. Only a plain one can, and under the tag for nothing it has to. -/
def saysNothing (tag : Option (List UInt8)) (style : Style) (text : String) : Reading Bool :=
  if style ≠ .plain then .ok false
  else if tag = some (Value.standardTag "null") then
    if isNullWord text then .ok true else .error .badScalar
  else .ok (tag.isNone && (text.isEmpty || isNullWord text))

/-- A field that may hold nothing. -/
def optional (field : Field α) : Field (Option α) := fun d node => do
  match ← d.resolve node with
  | .scalar tag style text =>
    if ← saysNothing tag style text then pure none else return some (← field d node)
  | _ => return some (← field d node)

/-- The items of a sequence. -/
def items (field : Field α) : Field (List α) := fun d node => do
  match ← d.resolve node with
  | .sequence _ nodes => nodes.mapM (field d)
  | .scalar _ style text => if isVoid style text then pure [] else throw .wrongKind
  | _ => throw .wrongKind

/-- Adds an entry of a mapping if its name is one of the names. No name may come twice. -/
def addNamed (names : List String) (d : Document) (found : List (String × Node)) (entry : Node × Node) :
    Reading (List (String × Node)) := do
  let name ← text d entry.1
  if !names.contains name then pure found
  else if (found.lookup name).isSome then throw .duplicateKey
  else pure ((name, entry.2) :: found)

/-- The entries with some names. A mapping may leave entries out and have others; a sequence holds all of them
in order. -/
def record (names : List String) : Field (List (String × Node)) := fun d node => do
  match ← d.resolve node with
  | .mapping _ entries => entries.foldlM (addNamed names d) []
  | .sequence _ nodes =>
    if nodes.length = names.length then pure (names.zip nodes) else throw .wrongKind
  | .scalar _ style text => if isVoid style text then pure [] else throw .wrongKind
  | .reference _ => throw .unknownAlias

/-- An entry that may be left out or hold nothing. -/
def member? (d : Document) (entries : List (String × Node)) (name : String) (field : Field α) :
    Reading (Option α) :=
  match entries.lookup name with
  | some node => optional field d node
  | none => .ok none

end Field

end CecBus.Yaml
