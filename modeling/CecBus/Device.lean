import CecBus.Address.Physical
import CecBus.Device.Kind
import CecBus.Device.PowerStatus
import CecBus.Device.Vendor
import CecBus.Device.Version
import CecBus.Profile.Section

/-! A device on the bus: what a profile says about it, and the addresses it holds. -/

namespace CecBus

/-- Why devices cannot be loaded, added or removed. -/
inductive TreeError where
  | profile (error : ProfileError)
  | childCount (name : String) (declared found : Nat)
  | port (name : String) (number : Nat)
  | duplicateName (name : String)
  | notFound (name : String)
  | staleId
  | rootRemoval
  deriving DecidableEq, Repr

/-- The wording of an error. -/
def TreeError.message : TreeError → String
  | .profile error => error.message
  | .childCount name declared found =>
    "device " ++ name ++ " declares " ++ toString declared ++ " children but lists " ++ toString found
  | .port name number => "device " ++ name ++ " has invalid port id " ++ toString number
  | .duplicateName name => "duplicate device name: " ++ name
  | .notFound name => "device not found: " ++ name
  | .staleId => "stale device id"
  | .rootRemoval => "cannot remove the root device"

/-- One device. Its addresses come later than the rest. -/
structure Device where
  name : String
  kind : Device.Kind
  version : Device.Version := .unknown
  vendor : Device.Vendor := .unknown
  power : Device.PowerStatus := .unknown
  isActiveSource : Bool := false
  port : UInt8 := 0
  physical : PhysicalAddress := .invalid
  logical : Option LogicalAddress := none
  deriving DecidableEq, Repr

namespace Device

def maxNameLength : Nat := 15

/-- The greatest port that fits into an address. -/
def maxPort : Nat := 15

/-- A name as devices store it. -/
def storedName (name : String) : String := String.ofList (name.toList.take maxNameLength)

def named (name : String) (kind : Kind) : Device := { name := storedName name, kind }

/-- Takes a step that reads from a profile. -/
def reading {α : Type} (result : Except ProfileError α) : Attempt TreeError α :=
  ExceptT.mk (pure (match result with
    | .ok a => .ok a
    | .error e => .error (.profile e)))

/-- Looks up a spelling. One that is not known counts as unknown and is reported. -/
def spelled {α : Type} (device what : String) (find? : String → Option α) (unknown : α)
    (spelling : String) : Attempt TreeError α :=
  match find? spelling with
  | some a => pure a
  | none => do
    report .warn ("Device " ++ device ++ ": unknown " ++ what ++ " " ++ Text.quote spelling)
    pure unknown

/-- A spelling that may be left out. -/
def spelled? {α : Type} (device what : String) (find? : String → Option α) (unknown : α)
    (spelling : Option String) : Attempt TreeError α :=
  match spelling with
  | some spelling => spelled device what find? unknown spelling
  | none => pure unknown

/-- The port of a device, which has to fit into an address. -/
def checkPort (name : String) : Option Nat → Except TreeError UInt8
  | none => .ok 0
  | some port => if port ≤ maxPort then .ok (UInt8.ofNat port) else .error (.port name port)

/-- Reads a device and the number of children it declares. Only the name has to be there. -/
def ofSection (s : Section) : Attempt TreeError (Device × Nat) := do
  let name := storedName (← reading (s.text "name"))
  let isActiveSource ← reading (s.flag? "active_source")
  let power ← spelled? name "power status" PowerStatus.ofName? .unknown (← reading (s.text? "pwr_status"))
  let version ← reading (s.number? "version")
  let vendor ← spelled? name "vendor" Vendor.ofName? .unknown (← reading (s.text? "vendor"))
  let kind ← spelled? name "device type" Kind.ofName? .unknown (← reading (s.text? "type"))
  let port ← checkPort name (← reading (s.number? "port_id"))
  let declared ← reading (s.number? "number_children")
  let device :=
    { name, kind, vendor, power, port
      version := (version.map Version.ofCode).getD .unknown
      isActiveSource := isActiveSource.getD false }
  pure (device, declared.getD 0)

end Device

end CecBus
