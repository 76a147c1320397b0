import CecBus.DeviceTree.Addressing
import CecBus.DeviceTree.Overview
import CecBus.Setup

/-! An emulated bus: its devices with their addresses, the pool the addresses come from, and the device that
stands for the caller. -/

namespace CecBus

/-- The state of a bus. -/
structure Bus where
  tree : DeviceTree
  pool : AddressPool := .empty
  emulated : DeviceId
  ports : List Port
  deriving DecidableEq

namespace Bus

def emulatedDevice? (b : Bus) : Option Device := b.tree.device? b.emulated

def updateEmulated (b : Bus) (f : Device → Device) : Bus := { b with tree := b.tree.update b.emulated f }

/-- A television stands at the root, wherever it is in the tree. -/
def atRootIfTv (device : Device) : Device :=
  if device.kind = .tv then { device with physical := .root } else device

def assignAddresses (b : Bus) : Logged Bus := do
  let (tree, pool) ← b.tree.assignAddresses b.emulated b.pool
  pure ({ b with tree, pool }.updateEmulated atRootIfTv)

/-- Gives an address back to the pool; the shared one is never held. -/
def releaseHeld (pool : AddressPool) : Option LogicalAddress → AddressPool
  | some address => if address = .broadcast then pool else pool.release address
  | none => pool

/-- Takes the address of the emulated device away, so that it can be claimed. -/
def startUnclaimed (b : Bus) (device : Device) : Bus :=
  { b with pool := releaseHeld b.pool device.logical }.updateEmulated
    fun d => { d with logical := some .broadcast }

/-- The bus of a description, with all addresses given. A television starts without its own. -/
def ofSetup (setup : Setup) : Logged (Option Bus) :=
  match setup.tree.find? setup.emulated with
  | none => pure none
  | some emulated => do
    let bus ← { tree := setup.tree, emulated, ports := setup.ports : Bus }.assignAddresses
    match bus.emulatedDevice? with
    | none => pure none
    | some device =>
      if device.kind = .tv then
        report .info "Emulating a TV"
        pure (some (bus.startUnclaimed device))
      else
        report .info "Emulating a source device"
        pure (some bus)

/-- Whether the emulated device is a television that has claimed no address. -/
def isUnclaimedSink (b : Bus) : Bool :=
  b.emulatedDevice?.any fun d => d.kind = .tv && (d.logical.getD .broadcast = .broadcast)

end Bus

end CecBus
