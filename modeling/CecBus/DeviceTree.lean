import CecBus.Device

/-! The devices on the bus as a tree. Each device sits in a numbered slot, beside the id of the device above it and
the ids of the devices below it, in order. An id is the slot together with the slot's generation, which changes
whenever the slot is vacated, so an id that was kept names nothing after its device is gone. The slot vacated last
is used again first. -/

namespace CecBus

/-- The id of a device. An index is a number without bound; it is as good as one of 32 bits as long as a tree has at
most `2 ^ 32` slots. -/
structure DeviceId where
  index : Nat
  generation : UInt32
  deriving DecidableEq, Repr

/-- A device in its place in the tree. Only the root has no parent. -/
structure DeviceNode where
  device : Device
  parent : Option DeviceId
  children : List DeviceId := []
  deriving DecidableEq, Repr

/-- A slot: its generation, and the device that occupies it. -/
structure DeviceSlot where
  generation : UInt32 := 0
  node : Option DeviceNode := none
  deriving DecidableEq, Repr

/-- A tree of devices: the slots, those of them that are vacant, the next one to be used first, and the root. -/
structure DeviceTree where
  slots : List DeviceSlot := []
  vacant : List Nat := []
  root : DeviceId := ⟨0, 0⟩
  deriving DecidableEq, Repr

namespace DeviceTree

/-! ### Slots -/

/-- What an id stands for, unless the slot has moved on to another generation. -/
def node? (t : DeviceTree) (id : DeviceId) : Option DeviceNode :=
  (t.slots[id.index]?).bind fun slot => if slot.generation = id.generation then slot.node else none

/-- Changes what an id stands for. -/
def modify (t : DeviceTree) (id : DeviceId) (f : DeviceNode → DeviceNode) : DeviceTree :=
  { t with
    slots := t.slots.modify id.index fun slot =>
      if slot.generation = id.generation then { slot with node := slot.node.map f } else slot }

/-- The id that the next device gets. -/
def nextId (t : DeviceTree) : DeviceId :=
  match t.vacant with
  | index :: _ => ⟨index, (t.slots[index]?.map DeviceSlot.generation).getD 0⟩
  | [] => ⟨t.slots.length, 0⟩

/-- Puts a device into the next slot. -/
def occupy (t : DeviceTree) (node : DeviceNode) : DeviceTree :=
  match t.vacant with
  | index :: rest =>
    { t with
      slots := t.slots.modify index fun slot => { slot with node := some node }
      vacant := rest }
  | [] => { t with slots := t.slots ++ [{ node := some node }] }

/-- Vacates a slot. -/
def vacate (t : DeviceTree) (index : Nat) : DeviceTree :=
  { t with
    slots := t.slots.modify index fun slot => { generation := slot.generation + 1 }
    vacant := index :: t.vacant }

/-- Vacates the slots of some ids one after the other; with the tree come the devices that were there. An id that
stands for nothing is passed over. -/
def vacateAll (t : DeviceTree) : List DeviceId → List Device × DeviceTree
  | [] => ([], t)
  | id :: rest =>
    match t.node? id with
    | none => t.vacateAll rest
    | some node =>
      let (devices, t) := (t.vacate id.index).vacateAll rest
      (node.device :: devices, t)

def count (t : DeviceTree) : Nat := t.slots.length - t.vacant.length

/-! ### Looking around -/

def isLive (t : DeviceTree) (id : DeviceId) : Bool := (t.node? id).isSome

def device? (t : DeviceTree) (id : DeviceId) : Option Device := (t.node? id).map DeviceNode.device

/-- The id of the parent. The root has none, and neither has an id that stands for nothing. -/
def parent? (t : DeviceTree) (id : DeviceId) : Option DeviceId := (t.node? id).bind DeviceNode.parent

def children (t : DeviceTree) (id : DeviceId) : List DeviceId := ((t.node? id).map DeviceNode.children).getD []

def update (t : DeviceTree) (id : DeviceId) (f : Device → Device) : DeviceTree :=
  t.modify id fun node => { node with device := f node.device }

/-- Takes ids from a stack and puts the children of each in its place, for a number of steps. -/
def visit (t : DeviceTree) : Nat → List (DeviceId × Nat) → List (DeviceId × Nat)
  | 0, _ => []
  | _ + 1, [] => []
  | steps + 1, (id, depth) :: stack =>
    match t.node? id with
    | none => t.visit steps stack
    | some node => (id, depth) :: t.visit steps (node.children.map (·, depth + 1) ++ stack)

/-- The subtree of an id in preorder, each device with its depth below that id. Every step takes one slot. -/
def walk (t : DeviceTree) (start : DeviceId) : List (DeviceId × Nat) := t.visit t.slots.length [(start, 0)]

def members (t : DeviceTree) (start : DeviceId) : List DeviceId := (t.walk start).map Prod.fst

/-- The id of the first device in preorder with a name. -/
def find? (t : DeviceTree) (name : String) : Option DeviceId :=
  (t.members t.root).find? fun id => (t.device? id).any (·.name = name)

def deviceNamed? (t : DeviceTree) (name : String) : Option Device := (t.find? name).bind t.device?

/-- Climbs from an id towards the root until it meets an ancestor. -/
def climbsTo (t : DeviceTree) (ancestor : DeviceId) : Nat → DeviceId → Bool
  | 0, id => id = ancestor
  | steps + 1, id => id = ancestor || (t.parent? id).any (t.climbsTo ancestor steps)

/-- Whether an id lies in the subtree of another, itself included. No path is longer than the number of
slots. -/
def isWithin (t : DeviceTree) (id ancestor : DeviceId) : Bool := t.climbsTo ancestor t.slots.length id

/-! ### Adding and removing devices -/

def single (device : Device) : DeviceTree :=
  let t : DeviceTree := {}
  { t.occupy { device, parent := none } with root := t.nextId }

/-- Puts a device below a parent, behind its other children. -/
def attach (t : DeviceTree) (parent : DeviceId) (device : Device) : DeviceTree :=
  (t.occupy { device, parent := some parent }).modify parent fun node =>
    { node with children := node.children ++ [t.nextId] }

/-- Adds a device below a parent; with the tree comes its id. Its name must be new. -/
def insert (t : DeviceTree) (parent : DeviceId) (device : Device) :
    Except TreeError (DeviceId × DeviceTree) :=
  if !t.isLive parent then .error .staleId
  else if (t.find? device.name).isSome then .error (.duplicateName device.name)
  else .ok (t.nextId, t.attach parent device)

def detach (t : DeviceTree) (parent id : DeviceId) : DeviceTree :=
  t.modify parent fun node => { node with children := node.children.filter (· ≠ id) }

/-- Takes a subtree out and vacates its slots in preorder; with the tree come the removed devices. -/
def prune (t : DeviceTree) (parent id : DeviceId) : List Device × DeviceTree :=
  let t := t.detach parent id
  t.vacateAll (t.members id)

/-- Removes the device with an id and everything below it. With the tree come the removed devices in
preorder. -/
def removeSubtree (t : DeviceTree) (id : DeviceId) : Attempt TreeError (List Device × DeviceTree) := do
  if id = t.root then throw .rootRemoval
  match t.parent? id with
  | none => throw .staleId
  | some parent =>
    let (removed, t) := t.prune parent id
    report .debug ("Removed " ++ toString removed.length ++ " device(s) from the tree")
    pure (removed, t)

/-- Removes the device with a name and everything below it. -/
def remove (t : DeviceTree) (name : String) : Attempt TreeError (List Device × DeviceTree) :=
  match t.find? name with
  | none => throw (.notFound name)
  | some id => t.removeSubtree id

end DeviceTree

end CecBus
