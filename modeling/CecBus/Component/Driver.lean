import CecBus.Bus.Claim
import CecBus.Component

/-! What a driver asks of the open session. Every operation checks in the same order: there must be a ready
session, the handle must be its handle, and then come the arguments. An operation that fails changes nothing,
with one exception: an opening that gets as far as its worker has a handle by then, and where the worker
cannot be started the handle is used up. -/

namespace CecBus

namespace Session

variable {ρ : Type}

def isSendable (frame : List UInt8) : Bool := !frame.isEmpty && frame.length ≤ Frame.maxSize

/-- A frame that cannot be sent is refused. -/
def checkFrame (frame : List UInt8) : Attempt DriverError Unit := do
  if !isSendable frame then
    report .warn ("Rejecting frame of " ++ toString frame.length ++ " bytes")
    throw .invalidArgument

/-- A value that may be unknown, for diagnostics. -/
def known (value : Option String) : String :=
  match value with
  | some word => "Some(" ++ word ++ ")"
  | none => "None"

/-- Reports a frame, and what it says. -/
def reportFrame (frame : List UInt8) : Logged Unit := do
  report .info ("Tx frame [" ++ Hex.colon frame ++ "]")
  match Frame.ofBytes frame with
  | .ok f =>
    report .debug
      ("Tx decoded: initiator " ++ known (f.initiator.map LogicalAddress.role) ++ " destination "
        ++ known (f.destination.map LogicalAddress.role) ++ " opcode " ++ known (f.opcode.map Opcode.word))
  | .error e => report .debug ("Tx frame does not decode: " ++ e.message)

/-- A television without an address cannot send. -/
def checkSender (s : Session ρ) (operation : String) : Attempt DriverError Unit := do
  if s.bus.isUnclaimedSink then
    report .warn (operation ++ ": sink has no logical address")
    throw .sentFailed

/-- Sends a frame. Nobody on the emulated bus acknowledges it. -/
def send (s : Session ρ) (frame : List UInt8) : Attempt DriverError Delivery := do
  checkFrame frame
  s.checkSender "Tx"
  reportFrame frame
  pure .unanswered

/-- Sends a frame whose outcome a confirmer is told. -/
def sendAsync (s : Session ρ) (frame : List UInt8) : Attempt DriverError Unit := do
  checkFrame frame
  s.checkSender "TxAsync"
  if !s.hasConfirmer then
    report .warn "TxAsync: no Tx callback registered"
    throw .sentFailed
  reportFrame frame

def setWord (isSet : Bool) : String := if isSet then "set" else "cleared"

end Session

namespace Component

variable {ρ α : Type}

/-- The ready session, if the handle is its handle. -/
def live (c : Component ρ) (handle : Handle) : Except DriverError (Session ρ) :=
  match c.ready? with
  | none => .error .notOpened
  | some s =>
    if s.handle = handle && c.registry.resolves handle then .ok s else .error .invalidHandle

def ask (c : Component ρ) (handle : Handle) (f : Session ρ → Attempt DriverError α) :
    Attempt DriverError α := do
  f (← c.live handle)

/-- Changes the live session. -/
def change (c : Component ρ) (handle : Handle) (f : Session ρ → Attempt DriverError (Session ρ)) :
    Attempt DriverError (Component ρ) := do
  let session ← f (← c.live handle)
  pure { c with session := some session }

def physical (c : Component ρ) (handle : Handle) : Attempt DriverError PhysicalAddress :=
  c.ask handle fun s => do pure (← s.bus.device).physical

def logical (c : Component ρ) (handle : Handle) : Attempt DriverError LogicalAddress :=
  c.ask handle fun s => do pure (← s.bus.device).sender

def claim (c : Component ρ) (handle : Handle) (address : LogicalAddress) :
    Attempt DriverError (Component ρ) :=
  c.change handle fun s => do pure { s with bus := ← s.bus.claim address }

def unclaim (c : Component ρ) (handle : Handle) (address : LogicalAddress) :
    Attempt DriverError (Component ρ) :=
  c.change handle fun s => do pure { s with bus := ← s.bus.unclaim address }

/-- Sets the receiver of frames, or takes it away. -/
def setReceiver (c : Component ρ) (handle : Handle) (receiver : Option ρ) :
    Attempt DriverError (Component ρ) :=
  c.change handle fun s => do
    report .debug ("Rx callback " ++ Session.setWord receiver.isSome)
    pure { s with receiver }

/-- Says whether there is a confirmer. -/
def setConfirmer (c : Component ρ) (handle : Handle) (isSet : Bool) : Attempt DriverError (Component ρ) :=
  c.change handle fun s => do
    report .debug ("Tx callback " ++ Session.setWord isSet)
    pure { s with hasConfirmer := isSet }

def send (c : Component ρ) (handle : Handle) (frame : List UInt8) : Attempt DriverError Delivery :=
  c.ask handle (·.send frame)

/-- Sends a frame whose outcome a confirmer is told. -/
def sendAsync (c : Component ρ) (handle : Handle) (frame : List UInt8) : Attempt DriverError Unit :=
  c.ask handle (·.sendAsync frame)

/-- Gives up the handle that was issued for a session whose worker never ran. The worker counts as one that
has stopped already, so sessions and workers keep the same numbers. -/
def giveUp (c : Component ρ) (handle : Handle) (registry : Registry) : Component ρ :=
  { c with
    registry := (registry.release? handle).getD registry
    workers := c.workers ++ [Queue.unstarted] }

/-- Opens a session on the loaded set-up and starts its worker; `fault` says why that cannot be started, if it
cannot. -/
def tryOpen (c : Component ρ) (fault : Option String) :
    Logged (Except DriverError Handle × Component ρ) := do
  let some setup := c.setup.filter fun _ => c.isInitialized
    | report .warn "HAL open before the component was opened"
      return (.error .notOpened, c)
  if c.session.isSome then
    report .warn "HAL already open"
    return (.error .alreadyOpen, c)
  let some (handle, registry) := c.registry.register? | return (.error .generalError, c)
  let some bus ← Bus.ofSetup setup
    | report .error "Failed to build HAL instance from profile"
      return (.error .generalError, c.giveUp handle registry)
  if let some reason := fault then
    report .error ("Failed to start message handler: " ++ reason)
    return (.error .generalError, c.giveUp handle registry)
  bus.printStatus
  report .info ("HAL opened with handle " ++ handle.text)
  let session : Session ρ := { handle, bus, worker := some c.workers.length }
  return (.ok handle,
    { c with
      registry
      session := some session
      workers := c.workers ++ [Queue.ofCapacity Queue.usualCapacity] })

/-- Opens a session whose worker starts. -/
def openSession (c : Component ρ) : Attempt DriverError (Handle × Component ρ) := do
  let (result, opened) ← (c.tryOpen none : Logged _)
  pure (← result, opened)

end Component

end CecBus
