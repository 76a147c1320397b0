import CecBus.Bus
import CecBus.Status

/-! Logical addresses that the caller claims for the emulated device and gives up again. -/

namespace CecBus.Bus

/-- The emulated device, for an operation that cannot do without. -/
def device (b : Bus) : Except DriverError Device :=
  match b.emulatedDevice? with
  | some device => .ok device
  | none => .error .generalError

/-- Only a television can claim an address, and only the first one. -/
def checkClaim (device : Device) (address : LogicalAddress) : Attempt DriverError Unit := do
  if device.kind ≠ .tv || address ≠ .tv then
    report .warn
      ("Logical address " ++ address.text ++ " not supported for " ++ device.name ++ " ("
        ++ device.kind.text ++ ")")
    throw .invalidArgument

def setLogical (b : Bus) (address : LogicalAddress) (pool : AddressPool) : Bus :=
  { b with pool }.updateEmulated fun d => { d with logical := some address }

/-- Claims an address for the emulated device. -/
def claim (b : Bus) (address : LogicalAddress) : Attempt DriverError Bus := do
  let device ← b.device
  checkClaim device address
  if device.logical = some address then
    report .debug ("Logical address " ++ address.text ++ " already claimed")
    pure b
  else
    let (granted, pool) := b.pool.reserve address
    if granted then
      report .info ("Logical address " ++ address.text ++ " claimed by " ++ device.name)
      pure (b.setLogical address pool)
    else
      report .warn ("Logical address " ++ address.text ++ " held by another device")
      throw .addressUnavailable

/-- Gives the claimed address of the emulated device up. -/
def unclaim (b : Bus) (address : LogicalAddress) : Attempt DriverError Bus := do
  let device ← b.device
  checkClaim device address
  let current := device.logical.getD .unregistered
  if current = .broadcast then throw .alreadyRemoved
  report .info ("Logical address " ++ current.text ++ " released by " ++ device.name)
  pure (b.setLogical .broadcast (b.pool.release current))

end CecBus.Bus
