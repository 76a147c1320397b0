import CecBus.AddressPool
import CecBus.DeviceTree

/-! Addresses of the devices of a tree. A physical address follows from the ports on the way down from the
root; a logical address comes from the pool and stays once it is given. -/

namespace CecBus.DeviceTree

/-- The logical address of a device that has one already, and otherwise a new one. A device that waits for
its own claim stays unregistered. -/
def logicalFor (device : Device) (waits : Bool) (pool : AddressPool) :
    Logged (LogicalAddress × AddressPool) :=
  match device.logical with
  | some address => pure (address, pool)
  | none => if waits then pure (.unregistered, pool) else pool.allocate device.kind

def addressed (place : PhysicalAddress) (logical : LogicalAddress) (device : Device) : Device :=
  { device with physical := place, logical := some logical }

/-- The place of a device: behind its port of the device above it, or at the root. -/
def placeOf (t : DeviceTree) (node : DeviceNode) : PhysicalAddress :=
  match node.parent.bind t.device? with
  | some above => above.physical.child node.device.port.toNat
  | none => .root

/-- Gives addresses to the device with an id. A root that is the emulated device waits for its claim. -/
def assignDevice (emulated : DeviceId) (state : DeviceTree × AddressPool) (id : DeviceId) :
    Logged (DeviceTree × AddressPool) :=
  let (t, pool) := state
  match t.node? id with
  | none => pure (t, pool)
  | some node => do
    let (logical, pool) ← logicalFor node.device (id = t.root && id = emulated) pool
    pure (t.update id (addressed (t.placeOf node) logical), pool)

/-- Gives addresses to all devices of a tree, from the root downwards. -/
def assignAddresses (t : DeviceTree) (emulated : DeviceId) (pool : AddressPool) :
    Logged (DeviceTree × AddressPool) :=
  (t.members t.root).foldlM (assignDevice emulated) (t, pool)

end CecBus.DeviceTree
