import CecBus.DeviceTree.Loading

/-! What a profile says about a bus, checked as a whole: the ports, the devices, and which device is
emulated. -/

namespace CecBus

/-- The direction of a port. -/
inductive PortDirection where
  | input
  | output
  | unknown
  deriving DecidableEq, Repr

namespace PortDirection

/-- The spelling in profiles. -/
def name : PortDirection → String
  | input => "in"
  | output => "out"
  | unknown => "unknown"

def ofName (name : String) : PortDirection :=
  if name = "in" then input else if name = "out" then output else unknown

end PortDirection

/-- One port of the emulated device: its number, its direction, and whether control messages and the audio
return channel are supported. -/
structure Port where
  id : UInt16
  direction : PortDirection
  control : Bool
  audioReturn : Bool
  deriving DecidableEq, Repr

namespace Port

def abilities (p : Port) : List String :=
  (if p.control then ["CEC"] else []) ++ (if p.audioReturn then ["ARC"] else [])

def abilityText (p : Port) : String := " | ".intercalate p.abilities

/-- What a port supports as a number, one bit for each ability. -/
def abilityBits (p : Port) : Nat := (if p.control then 1 else 0) + (if p.audioReturn then 2 else 0)

/-- Reads a port. -/
def ofSection (s : Section) : Except ProfileError Port := do
  let id ← s.number "id"
  let direction ← s.text? "type"
  let control ← s.flag? "cec_supported"
  let audioReturn ← s.flag? "arc_supported"
  if id < UInt16.size then
    pure
      { id := UInt16.ofNat id
        direction := (direction.map PortDirection.ofName).getD .unknown
        control := control.getD false
        audioReturn := audioReturn.getD false }
  else throw (.kind (s.key "id") .portNumber)

end Port

/-- Why a profile does not describe a bus. -/
inductive SetupError where
  | profile (error : ProfileError)
  | tree (error : TreeError)
  | noDevices
  | emulatedMissing (name : String)
  deriving DecidableEq, Repr

/-- The wording of an error. -/
def SetupError.message : SetupError → String
  | .profile error => error.message
  | .tree error => error.message
  | .noDevices => "profile declares no devices"
  | .emulatedMissing name => "emulated device " ++ name ++ " not found in device map"

/-- What lies behind an error. -/
def SetupError.causes : SetupError → List String
  | .profile error => error.causes
  | .tree (.profile error) => error.causes
  | _ => []

/-- The description of a bus. -/
structure Setup where
  emulated : String
  declaredDevices : Nat
  ports : List Port
  tree : DeviceTree
  deriving DecidableEq

namespace Setup

def mapPath : String := "hdmicec/device_map/0"

/-- Takes a step that reads from a profile. -/
def reading {α : Type} (result : Except ProfileError α) : Attempt SetupError α :=
  ExceptT.mk (pure (match result with
    | .ok a => .ok a
    | .error e => .error (.profile e)))

/-- The number of ports that count: those that are listed, but not more than declared. -/
def portCount (listed : Nat) : Option Nat → Attempt SetupError Nat
  | none => pure listed
  | some declared => do
    if declared ≠ listed then
      report .warn
        ("Profile declares " ++ toString declared ++ " ports but lists " ++ toString listed
          ++ ", using the listed ports")
    pure (min listed declared)

def portSection (p : Profile) (index : Nat) : Section := ⟨p, "hdmicec/ports/" ++ toString index⟩

/-- Reads the description of a bus. -/
def ofProfile (p : Profile) : Attempt SetupError Setup := do
  let emulated ← reading (p.text "hdmicec/emulated_device")
  let declaredDevices ← reading (p.number "hdmicec/number_devices")
  if declaredDevices < 1 then throw .noDevices
  let declaredPorts ← reading (ProfileError.optional (p.number "hdmicec/number_ports"))
  let portCount ← portCount (p.count "hdmicec/ports") declaredPorts
  let ports ← reading ((List.range portCount).mapM fun index => Port.ofSection (portSection p index))
  let tree ← (DeviceTree.ofSection ⟨p, mapPath⟩).adapt SetupError.tree
  if (tree.find? emulated).isNone then throw (.emulatedMissing emulated)
  if tree.count ≠ declaredDevices then
    report .debug
      ("Profile declares " ++ toString declaredDevices ++ " devices, device map holds "
        ++ toString tree.count)
  pure { emulated, declaredDevices, ports, tree }

end Setup

end CecBus
