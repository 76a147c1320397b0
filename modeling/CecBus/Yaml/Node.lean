import CecBus.Yaml.Cursor
import CecBus.Yaml.Token

/-! The nodes of a document, built from its tokens. Aliases stay references here: a name refers to the node
it was given to last, and that may be any node of the document. -/

namespace CecBus.Yaml

/-- A node as it is written. -/
inductive Node where
  | reference (id : Nat)
  | scalar (tag : Option (List UInt8)) (style : Style) (text : String)
  | sequence (tag : Option (List UInt8)) (items : List Node)
  | mapping (tag : Option (List UInt8)) (entries : List (Node × Node))
  deriving Repr

/-- What is known while the nodes of a document are built. A node that has a name is known by the number of
events before it: a scalar and an alias count one event, and a collection counts one at either end. -/
structure Builder where
  tokens : List Token
  handles : List (List Char × List UInt8) := []
  names : List (String × Nat) := []
  events : Nat := 0
  starts : List (Nat × Nat) := []
  named : List (Nat × Node) := []

/-- A step of the building. -/
abbrev Building := StateT Builder Reading

namespace Builder

def peek : Building (Option Token) := do return (← get).tokens.head?

def skip : Building Unit := modify fun b => { b with tokens := b.tokens.tail }

def count : Building Unit := modify fun b => { b with events := b.events + 1 }

def isNext (tokens : List Token) : Building Bool := do return (← peek).any tokens.contains

/-- Skips the next token if it is the given one. -/
def skipIf (token : Token) : Building Bool := do
  let found ← isNext [token]
  if found then skip
  pure found

/-- A node that is left out. -/
def emptyNode : Building Node := do
  count
  pure (.scalar none .plain "")

/-- A node, unless one of some tokens follows. -/
def nodeUnless (node : Building Node) (ends : List Token) : Building Node := do
  if ← isNext ends then emptyNode else node

/-- The target of a handle. -/
def target (handle : List Char) : Building (List UInt8) := do
  match (← get).handles.lookup handle with
  | some target => pure target
  | none => throw .malformed

/-- Names the node that starts here. Another name counts from the number of names there are. -/
def nameNode (name : String) : Building Nat := do
  let b ← get
  let id := b.names.length
  set { b with names := (name, id) :: b.names.filter (·.1 ≠ name), starts := (id, b.events) :: b.starts }
  pure b.events

/-- The node an alias refers to. -/
def nodeNamed (name : String) : Building Node := do
  match (← get).names.lookup name with
  | some id => count; pure (.reference id)
  | none => throw .unknownAlias

/-- Reads an anchor if there is one. -/
def anchor? : Building (Option String) := do
  match ← peek with
  | some (.anchor name) => skip; pure (some name)
  | _ => pure none

/-- Reads a tag if there is one. -/
def tag? : Building (Option (List UInt8)) := do
  match ← peek with
  | some (.tag handle suffix) =>
    skip
    if handle.isEmpty then pure (some suffix) else pure (some ((← target handle) ++ suffix))
  | _ => pure none

/-- Entries of a block sequence up to its end. -/
def blockItems (node : Building Node) : Nat → Building (List Node)
  | 0 => throw .malformed
  | fuel + 1 => do
    if ← skipIf .blockEntry then
      let item ← nodeUnless node [.blockEntry, .blockEnd]
      return item :: (← blockItems node fuel)
    else if ← skipIf .blockEnd then return []
    else throw .malformed

/-- Entries of a block sequence that is not indented. It ends without a token of its own. -/
def bareItems (node : Building Node) : Nat → Building (List Node)
  | 0 => throw .malformed
  | fuel + 1 => do
    if ← skipIf .blockEntry then
      let item ← nodeUnless node [.blockEntry, .key, .value, .blockEnd]
      return item :: (← bareItems node fuel)
    else return []

/-- Entries of a block mapping up to its end. -/
def blockEntries (node : Building Node) : Nat → Building (List (Node × Node))
  | 0 => throw .malformed
  | fuel + 1 => do
    if ← skipIf .key then
      let key ← nodeUnless node [.key, .value, .blockEnd]
      let value ← if ← skipIf .value then nodeUnless node [.key, .value, .blockEnd] else emptyNode
      return (key, value) :: (← blockEntries node fuel)
    else if ← skipIf .blockEnd then return []
    else throw .malformed

def separate (isFirst : Bool) : Building Unit := do
  if !isFirst then
    if !(← skipIf .flowEntry) then throw .malformed

def flowValue (node : Building Node) (close : Token) : Building Node := do
  if ← skipIf .value then nodeUnless node [.flowEntry, close] else emptyNode

/-- A mapping of one entry inside a flow sequence. Where its key is left out the next token goes with it. -/
def singlePair (node : Building Node) : Building Node := do
  count
  let key ←
    if ← isNext [.value, .flowEntry, .flowSequenceEnd] then do
      skip
      emptyNode
    else node
  let value ← flowValue node .flowSequenceEnd
  count
  pure (.mapping none [(key, value)])

/-- Entries of a flow sequence up to its end. -/
def flowItems (node : Building Node) : Nat → Bool → Building (List Node)
  | 0, _ => throw .malformed
  | fuel + 1, isFirst => do
    if ← skipIf .flowSequenceEnd then return []
    separate isFirst
    if ← skipIf .flowSequenceEnd then return []
    let item ← if ← skipIf .key then singlePair node else node
    return item :: (← flowItems node fuel false)

/-- Entries of a flow mapping up to its end. -/
def flowEntries (node : Building Node) : Nat → Bool → Building (List (Node × Node))
  | 0, _ => throw .malformed
  | fuel + 1, isFirst => do
    if ← skipIf .flowMappingEnd then return []
    separate isFirst
    if ← skipIf .flowMappingEnd then return []
    let entry ←
      if ← skipIf .key then do
        let key ← nodeUnless node [.value, .flowEntry, .flowMappingEnd]
        pure (key, ← flowValue node .flowMappingEnd)
      else do
        let key ← node
        pure (key, ← emptyNode)
    return entry :: (← flowEntries node fuel false)

/-- A collection between its two events. -/
def collection {α : Type} (entries : Building α) : Building α := do
  skip
  count
  let found ← entries
  count
  pure found

/-- The tag of a scalar. A lone exclamation mark only says that there is no other tag. -/
def scalarTag (tag : Option (List UInt8)) : Option (List UInt8) :=
  if tag = some [33] then none else tag

/-- What a node holds, behind its anchor and its tag. `node` reads a node inside, in block context or not
and with or without bare sequences. -/
def content (node : Bool → Bool → Building Node) (inBlock bare : Bool) (tag : Option (List UInt8))
    (hasProperty : Bool) : Building Node := do
  let fuel := (← get).tokens.length + 1
  match ← peek with
  | some (.scalar style text) =>
    skip
    count
    pure (.scalar (scalarTag tag) style text)
  | some .flowSequenceStart => return .sequence tag (← collection (flowItems (node false false) fuel true))
  | some .flowMappingStart => return .mapping tag (← collection (flowEntries (node false false) fuel true))
  | some .blockSequenceStart =>
    if inBlock then return .sequence tag (← collection (blockItems (node true false) fuel)) else leftOut
  | some .blockMappingStart =>
    if inBlock then return .mapping tag (← collection (blockEntries (node true true) fuel)) else leftOut
  | some .blockEntry =>
    if bare then do
      count
      let items ← bareItems (node true false) fuel
      count
      pure (.sequence tag items)
    else leftOut
  | _ => leftOut
where
  /-- Only an anchor or a tag can stand for a node. -/
  leftOut : Building Node := do
    if hasProperty then
      count
      pure (.scalar tag .plain "")
    else throw .malformed

/-- Reads a node. -/
def node : Nat → Bool → Bool → Building Node
  | 0, _, _ => throw .malformed
  | fuel + 1, inBlock, bare => do
    match ← peek with
    | some (.alias name) =>
      skip
      nodeNamed name
    | _ =>
      let before ← anchor?
      let tag ← tag?
      match ← (if before.isSome then pure before else anchor?) with
      | none => content (node fuel) inBlock bare tag tag.isSome
      | some name =>
        let start ← nameNode name
        let found ← content (node fuel) inBlock bare tag true
        modify fun b => { b with named := (start, found) :: b.named }
        pure found

/-- What the two handles stand for that every document knows. -/
def knownHandles : List (List Char × List UInt8) :=
  [(['!'], "!".toUTF8.toList), (['!', '!'], "tag:yaml.org,2002:".toUTF8.toList)]

/-- Reads the directives of a document. -/
def directives : Nat → Bool → List (List Char × List UInt8) → Building Unit
  | 0, _, _ => throw .malformed
  | fuel + 1, hasVersion, handles => do
    match ← peek with
    | some (.versionDirective major minor) =>
      if hasVersion || major ≠ 1 || (minor ≠ 1 && minor ≠ 2) then throw .malformed
      skip
      directives fuel true handles
    | some (.tagDirective handle target) =>
      if (handles.lookup handle).isSome then throw .malformed
      skip
      directives fuel hasVersion ((handle, target) :: handles)
    | _ => modify fun b => { b with handles := handles ++ knownHandles }

/-- Whether a document may be empty before this token. -/
def isOutside : Option Token → Bool
  | none | some (.versionDirective ..) | some (.tagDirective ..) | some .documentStart
  | some .documentEnd => true
  | _ => false

/-- Reads the node of a document that has a start marker, perhaps behind directives. -/
def markedDocument (fuel : Nat) : Building Node := do
  directives fuel false []
  if !(← skipIf .documentStart) then throw .malformed
  if isOutside (← peek) then emptyNode else node fuel true false

/-- Reads the node of a document with or without a start marker. -/
def document (fuel : Nat) : Building Node := do
  match ← peek with
  | some (.versionDirective ..) | some (.tagDirective ..) | some .documentStart => markedDocument fuel
  | _ =>
    modify fun b => { b with handles := knownHandles }
    node fuel true false

def targets (b : Builder) : List (Nat × Node) :=
  b.starts.filterMap fun (id, start) => (b.named.lookup start).map (id, ·)

end Builder

/-- A document: its node, if there is any, what aliases refer to, and how often they may be followed. -/
structure Document where
  root : Option Node
  targets : List (Nat × Node) := []
  jumps : Nat := 0

/-- The greatest number of aliases that are followed for each event of a document. -/
def Document.jumpsPerEvent : Nat := 100

/-- The document of all tokens of a text; there must be no second one. -/
def Document.ofTokens (tokens : List Token) : Reading Document :=
  if tokens.isEmpty then .ok ⟨none, [], 0⟩
  else do
    let (root, b) ← (Builder.document (tokens.length + 1)).run { tokens }
    match b.tokens.dropWhile (· = .documentEnd) with
    | [] => pure ⟨some root, b.targets, jumpsPerEvent * b.events⟩
    | .documentStart :: _ => throw .severalDocuments
    | _ => throw .malformed

end CecBus.Yaml
