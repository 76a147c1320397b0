import CecBus.DeviceTree

/-! Trees of devices read from a profile. A device at a path has its children at `children/0`,
`children/1` and so on, as many as it declares; nothing is added to a tree unless all of them can be read. -/

namespace CecBus

/-- The depth of nested collections in a value. Each of them takes a name of a key path. -/
def Yaml.Value.depth : Yaml.Value → Nat
  | .sequence items => depthOfItems items + 1
  | .mapping entries => depthOfEntries entries + 1
  | .tagged _ value => value.depth
  | _ => 0
where
  /-- The greatest depth of some items. -/
  depthOfItems : List Yaml.Value → Nat
    | [] => 0
    | item :: rest => max item.depth (depthOfItems rest)
  /-- The greatest depth of the values of some entries. -/
  depthOfEntries : List (Yaml.Value × Yaml.Value) → Nat
    | [] => 0
    | (_, value) :: rest => max value.depth (depthOfEntries rest)

namespace DeviceTree

def childSection (s : Section) (index : Nat) : Section := s.entry ("children/" ++ toString index)

/-- The declared number of children must be the number of those that are listed. -/
def checkChildCount (s : Section) (device : Device) (declared : Nat) : Except TreeError Unit :=
  let found := s.count "children"
  if found = declared then .ok () else .error (.childCount device.name declared found)

/-- Reads one device without its children. -/
def loadDevice (s : Section) : Attempt TreeError (Device × Nat) := do
  let (device, declared) ← Device.ofSection s
  checkChildCount s device declared
  pure (device, declared)

/-- Reads some children of a device from an index on, one after the other; `below` reads what is below each of
them. -/
def loadChildren (below : DeviceId → Section → Nat → DeviceTree → Attempt TreeError DeviceTree)
    (parent : DeviceId) (s : Section) : Nat → Nat → DeviceTree → Attempt TreeError DeviceTree
  | 0, _, t => pure t
  | left + 1, index, t => do
    let (device, declared) ← loadDevice (childSection s index)
    let (id, t) ← t.insert parent device
    let t ← below id (childSection s index) declared t
    loadChildren below parent s left (index + 1) t

/-- Reads everything below a device, at most as deep as given. -/
def loadBelow : Nat → DeviceId → Section → Nat → DeviceTree → Attempt TreeError DeviceTree
  | 0, _, _, _, t => pure t
  | depth + 1, parent, s, declared, t => loadChildren (loadBelow depth) parent s declared 0 t

/-- Reads the tree that starts at a section. No device lies deeper than the document is nested. -/
def ofSection (s : Section) : Attempt TreeError DeviceTree := do
  let (device, declared) ← loadDevice s
  let t := single device
  let t ← loadBelow s.profile.root.depth t.root s declared t
  report .debug
    ("Loaded device tree from " ++ s.path ++ " with " ++ toString t.count ++ " device(s)")
  pure t

/-- The first device of another tree whose name is in this one. -/
def clash? (t staged : DeviceTree) : Option Device :=
  ((staged.members staged.root).filterMap staged.device?).find? fun device => (t.find? device.name).isSome

/-- Adds copies of some devices below a parent, one after the other; `graft` adds each with everything below it.
What was added before a failure stays. -/
def graftAll (graft : DeviceId → DeviceId → DeviceTree → Except TreeError DeviceId × DeviceTree)
    (parent : DeviceId) : List DeviceId → DeviceTree → Except TreeError Unit × DeviceTree
  | [], t => (.ok (), t)
  | original :: rest, t =>
    match graft original parent t with
    | (.error e, t) => (.error e, t)
    | (.ok _, t) => graftAll graft parent rest t

/-- Adds a copy of a device of another tree below a parent, and of everything below that device, at most as deep
as given. With the tree comes the id of the topmost copy. -/
def graft (staged : DeviceTree) : Nat → DeviceId → DeviceId → DeviceTree → Except TreeError DeviceId × DeviceTree
  | 0, _, _, t => (.error .staleId, t)
  | depth + 1, original, parent, t =>
    match staged.device? original with
    | none => (.error .staleId, t)
    | some device =>
      match t.insert parent device with
      | .error e => (.error e, t)
      | .ok (id, t) =>
        match graftAll (graft staged depth) id (staged.children original) t with
        | (.error e, t) => (.error e, t)
        | (.ok (), t) => (.ok id, t)

/-- Reads the tree that starts at a section and adds it below a parent. The tree is staged first, so that nothing
is added unless all of it can be. -/
def insertSection (t : DeviceTree) (parent : DeviceId) (s : Section) :
    Logged (Except TreeError DeviceId × DeviceTree) := do
  match ← (ofSection s).run with
  | .error e => pure (.error e, t)
  | .ok staged =>
    match t.clash? staged with
    | some device => pure (.error (.duplicateName device.name), t)
    | none =>
      if !t.isLive parent then pure (.error .staleId, t)
      else pure (graft staged staged.slots.length staged.root parent t)

end DeviceTree

end CecBus
