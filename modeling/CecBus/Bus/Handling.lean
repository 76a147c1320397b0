import CecBus.Bus.Overview
import CecBus.Frame.Bytes
import CecBus.Message

/-! What control messages do. A command becomes a frame that one device sends to another; a state message
adds or removes devices or asks for a report. A message that fails changes nothing and yields no frame. -/

namespace CecBus

/-- Why a message fails. -/
inductive MessageFault where
  | document (kind : MessageKind) (error : ProfileError)
  | unknownOpcode (name : String)
  | unknownInitiator (name : String)
  | unknownDestination (name : String)
  | unknownState (name : String)
  | unknownParent (name : String)
  | noFreePort
  | notAdded (error : TreeError)
  | unknownDevice (name : String)
  | holdsEmulated (name : String)
  | notRemoved (name : String) (error : TreeError)
  deriving DecidableEq, Repr

/-- The wording of a fault. -/
def MessageFault.message : MessageFault → String
  | .document kind error => "Failed to parse " ++ kind.topic ++ " message: " ++ error.message
  | .unknownOpcode name => "ParseCommand: Opcode[" ++ name ++ "] Unknown"
  | .unknownInitiator name => "ParseCommand: Initiator[" ++ name ++ "] Unknown"
  | .unknownDestination name => "ParseCommand: Destination[" ++ name ++ "] Unknown"
  | .unknownState name => "Unknown State Message: " ++ name
  | .unknownParent name => "AddDevice: failed to get parent [" ++ name ++ "]"
  | .noFreePort => "AddDevice: No free port to Add Device"
  | .notAdded error => "AddDevice: failed to create device: " ++ error.message
  | .unknownDevice name => "RemoveDevice: failed to get device [" ++ name ++ "]"
  | .holdsEmulated name => "RemoveDevice: [" ++ name ++ "] holds the emulated device, refusing"
  | .notRemoved name error => "RemoveDevice: [" ++ name ++ "] " ++ error.message

/-- The name that stands for every device. -/
def Bus.everyone : String := "broadcast"

namespace Device

def sender (d : Device) : LogicalAddress := d.logical.getD .unregistered

/-- The frame in which a device tells its place and its kind. -/
def announcement (d : Device) : Frame :=
  ((Frame.addressed d.sender .broadcast (some .reportPhysicalAddress)).withParameters
    d.physical.bytes).withParameters [UInt8.ofNat d.kind.code]

end Device

namespace Bus

/-- The place a stream path names: the target of the message if it names a device, else the destination. -/
def streamTarget? (b : Bus) (p : Profile) (destination : Option Device) : Option Device :=
  ((p.field? "target").bind b.tree.deviceNamed?).or destination

/-- What a frame of an opcode carries. A stream path that names no device is reported and goes out empty. -/
def parameters (b : Bus) (p : Profile) (initiator : Device) (destination : Option Device) :
    Opcode → Logged (List UInt8)
  | .activeSource | .inactiveSource | .routingInformation => pure initiator.physical.bytes
  | .reportPhysicalAddress => pure (initiator.physical.bytes ++ [UInt8.ofNat initiator.kind.code])
  | .setOsdName => pure ((p.field? "osd_name").getD initiator.name).toUTF8.toList
  | .deviceVendorId => pure initiator.vendor.bytes
  | .cecVersion => pure [UInt8.ofNat initiator.version.code]
  | .reportPowerStatus => pure [UInt8.ofNat initiator.power.code]
  | .setStreamPath =>
    match b.streamTarget? p destination with
    | some device => pure device.physical.bytes
    | none => do
      report .error "ParseCommand: SetStreamPath without a target device"
      pure []
  | _ => pure []

/-- The device a message is for; none stands for every device. -/
def destination (b : Bus) (name : String) : Except MessageFault (Option Device) :=
  if name = everyone then .ok none
  else
    match b.tree.deviceNamed? name with
    | some device => .ok (some device)
    | none => .error (.unknownDestination name)

/-- The frame that a command describes. -/
def commandFrame (b : Bus) (p : Profile) : Attempt MessageFault Frame := do
  let name := p.field "command"
  let some opcode := Opcode.ofName? name | throw (.unknownOpcode name)
  report .debug ("ParseCommand: Opcode[" ++ name ++ "]")
  let name := p.field "initiator"
  let some initiator := b.tree.deviceNamed? name | throw (.unknownInitiator name)
  let name := p.field "destination"
  let destination ← b.destination name
  report .debug ("ParseCommand: Initiator[" ++ initiator.name ++ "] Destination[" ++ name ++ "]")
  let receiver := (destination.bind Device.logical).getD .broadcast
  let parameters ← (b.parameters p initiator destination opcode : Logged (List UInt8))
  pure ((Frame.addressed initiator.sender receiver (some opcode)).withParameters parameters)

/-- Whether an emulated television has a device at each of its ports already. -/
def isFull (b : Bus) (parent : DeviceId) : Bool :=
  parent = b.emulated && b.emulatedDevice?.any (·.kind = .tv)
    && b.ports.length ≤ (b.tree.children parent).length

/-- The announcement of the device with an id. -/
def announce (b : Bus) (id : DeviceId) : Logged (Option Frame) :=
  match b.tree.device? id with
  | none => pure none
  | some device => do
    report .info
      ("AddDevice: " ++ device.name ++ " at " ++ device.physical.text ++ " as " ++ device.sender.text)
    pure (some device.announcement)

/-- Adds the devices a message describes. The topmost one announces itself. With the bus comes why it fails, or the
frame. -/
def addDevice (b : Bus) (p : Profile) : Logged (Except MessageFault (Option Frame) × Bus) := do
  let name := p.field "parameters/parent"
  match b.tree.find? name with
  | none => pure (.error (.unknownParent name), b)
  | some parent =>
    if b.isFull parent then pure (.error .noFreePort, b)
    else
      match ← b.tree.insertSection parent ⟨p, p.fieldPath "parameters"⟩ with
      | (.error e, tree) => pure (.error (.notAdded e), { b with tree })
      | (.ok id, tree) =>
        let b ← { b with tree }.assignAddresses
        pure (.ok (← b.announce id), b)

/-- Removes a device and everything below it, and gives the addresses back. The emulated device stays. -/
def removeDevice (b : Bus) (p : Profile) : Attempt MessageFault Bus := do
  let name := p.field "parameters/name"
  let some id := b.tree.find? name | throw (.unknownDevice name)
  if b.tree.isWithin b.emulated id then throw (.holdsEmulated name)
  let (removed, tree) ← (b.tree.removeSubtree id).adapt (MessageFault.notRemoved name)
  let pool := (removed.map Device.logical).foldl releaseHeld b.pool
  report .info
    ("RemoveDevice: removed " ++ toString removed.length ++ " device(s) under [" ++ name ++ "]")
  pure { b with tree, pool }

/-- Reports what a message asks for. -/
def printRequested (b : Bus) (p : Profile) : Logged Unit :=
  match p.field? "parameters/status" with
  | some "Devices" => b.printDevices
  | some "Ports" => b.printPorts
  | _ => b.printStatus

/-- What an operation comes to that changes the bus only if it succeeds. -/
def orKeep (b : Bus) (x : Attempt MessageFault (Option Frame × Bus)) :
    Logged (Except MessageFault (Option Frame) × Bus) := do
  match ← x.run with
  | .ok (frame, b) => pure (.ok frame, b)
  | .error fault => pure (.error fault, b)

/-- Applies a state message. -/
def changeState (b : Bus) (p : Profile) : Logged (Except MessageFault (Option Frame) × Bus) :=
  match p.field "state" with
  | "AddDevice" => b.addDevice p
  | "RemoveDevice" => b.orKeep do pure (none, ← b.removeDevice p)
  | "PrintStatus" => do
    b.printRequested p
    pure (.ok none, b)
  | other => pure (.error (.unknownState other), b)

/-- Applies a message whose document has been read. -/
def applyDocument (b : Bus) (kind : MessageKind) (p : Profile) :
    Logged (Except MessageFault (Option Frame) × Bus) :=
  match kind with
  | .command =>
    b.orKeep do
      let frame ← b.commandFrame p
      report .debug ("Delivering frame " ++ frame.text)
      pure (some frame, b)
  | .state => b.changeState p
  | .event | .config => do
    report .info ("Received " ++ kind.topic ++ " message, ignoring")
    pure (.ok none, b)

/-- Applies a message. -/
def apply (b : Bus) (kind : MessageKind) (payload : ByteArray) :
    Logged (Except MessageFault (Option Frame) × Bus) :=
  match Profile.ofBytes payload with
  | .ok p => b.applyDocument kind p
  | .error e => pure (.error (.document kind e), b)

/-- Handles a message: the frame that goes out, if any, and the bus afterwards. A fault is reported. -/
def handle (b : Bus) (kind : MessageKind) (payload : ByteArray) : Logged (Option Frame × Bus) := do
  match ← b.apply kind payload with
  | (.ok frame, b) => pure (frame, b)
  | (.error fault, b) =>
    report .error fault.message
    pure (none, b)

end Bus

end CecBus
