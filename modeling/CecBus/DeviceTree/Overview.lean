import CecBus.DeviceTree
import CecBus.DeviceTree.Forest

/-! What is shown of a tree: a map as lines of text, and a description of every device in its place. -/

namespace CecBus

/-- What is shown of one device. -/
structure Description where
  name : String
  kind : String
  power : String
  vendor : String
  physical : String
  logical : Option LogicalAddress
  isActiveSource : Bool
  deriving DecidableEq, Repr

/-- The description of a device. -/
def Device.describe (d : Device) : Description :=
  { name := d.name
    kind := d.kind.text
    power := d.power.text
    vendor := d.vendor.text
    physical := d.physical.text
    logical := d.logical
    isActiveSource := d.isActiveSource }

namespace DeviceTree

/-- The devices with some ids and everything below them, for a number of steps down and aside. -/
def outline (t : DeviceTree) : Nat → List DeviceId → Forest (DeviceId × Device)
  | 0, _ => .nil
  | _ + 1, [] => .nil
  | steps + 1, id :: rest =>
    match t.node? id with
    | none => t.outline steps rest
    | some node => .cons (id, node.device) (t.outline steps node.children) (t.outline steps rest)

/-- The descriptions of all devices, as a tree. There is none unless the root is there. -/
def overview? (t : DeviceTree) : Option (Branch Description) :=
  (t.node? t.root).map fun node =>
    ⟨node.device.describe, (t.outline t.slots.length node.children).map fun (_, device) => device.describe⟩

/-- The lines that show a device at a depth, with four blanks for each step down. -/
def mapLines (device : Device) (depth : Nat) : List String :=
  let margin := String.ofList (List.replicate (4 * depth) ' ')
  let logical := (device.logical.map LogicalAddress.text).getD "unallocated"
  [margin ++ "Device          : " ++ device.name,
   margin ++ "Type            : " ++ device.kind.text,
   margin ++ "Pwr Status      : " ++ device.power.text,
   margin ++ "Physical Address: " ++ device.physical.text,
   margin ++ "Logical Address : " ++ logical,
   "-------------------------------------------"]

def printMap (t : DeviceTree) : Logged Unit :=
  reportInfo ((t.walk t.root).flatMap fun (id, depth) =>
    ((t.device? id).map fun device => mapLines device depth).getD [])

end DeviceTree

end CecBus
