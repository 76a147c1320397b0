import CecBus.Component.Call
import CecBus.Component.Delivery
import CecBus.Component.Driver
import CecBus.Component.Work

/-! What the emulator reports of the traffic on its bus, and how it lets the workers of its component go on. Its
receiver only reports frames, so a worker that calls it can go on at once. -/

namespace CecBus.Emulator

/-- A component whose receiver reports. -/
abbrev Host := Component Unit

/-- Reports a frame that came from the bus. -/
def reportReceived (handle : Handle) (frame : List UInt8) : Logged Unit :=
  let start := "Rx " ++ Hex.colon frame ++ " on " ++ handle.text
  match Frame.ofBytes frame with
  | .ok f => reportFrom "bus" .info (start ++ ": " ++ Session.known (f.opcode.map Opcode.word))
  | .error e => reportFrom "bus" .warn (start ++ " does not decode: " ++ e.message)

/-- Lets the workers go on until there is nothing to do. -/
def serve (c : Host) : Logged Host := go (c.remainingWork + 1) c
where
  /-- Answers a number of calls at most. -/
  go : Nat → Host → Logged Host
    | 0, c => pure c
    | fuel + 1, c => do
      let c ← c.settle
      match c.firstCall? with
      | none => pure c
      | some (worker, _, handle, frame) =>
        reportReceived handle frame
        go fuel (c.resume worker)

/-- Performs a call that closes something. Where it has to wait for a worker the workers go on. -/
def complete (c : Host) (stages : List Stage) : Attempt CallError Host :=
  go (Stage.totalCost stages + 1) stages c
where
  /-- Waits a number of times at most. -/
  go : Nat → List Stage → Host → Attempt CallError Host
    | 0, _, c => pure c
    | fuel + 1, stages, c => do
      let (rest, c) ← c.proceed none stages
      if rest.isEmpty then pure c
      else
        let c ← (serve c : Logged Host)
        go fuel rest c

/-- Reports that the emulated device has an address, or why it has none. -/
def reportClaim : Except DriverError Unit → Logged Unit
  | .ok () => reportFrom "driver" .info ("Claimed logical address " ++ LogicalAddress.tv.text)
  | .error .invalidArgument =>
    reportFrom "driver" .debug "Emulated device is not a sink, nothing to claim"
  | .error e => reportFrom "driver" .warn ("Failed to claim logical address: " ++ e.message)

def reportSent (frame : List UInt8) : Except DriverError Delivery → Logged Unit
  | .ok delivery => reportFrom "driver" .info ("Tx " ++ Hex.colon frame ++ ": " ++ delivery.word)
  | .error e => reportFrom "driver" .warn ("Tx " ++ Hex.colon frame ++ " failed: " ++ e.message)

/-- Reports what became of a message. -/
def reportDelivered (path : String) : Except DeliveryError Unit → Logged Unit
  | .ok () => reportFrom "control" .debug ("Injected " ++ FileName.quote path)
  | .error (.queue (.full _)) => reportFrom "control" .warn ("Queue full, dropped " ++ FileName.quote path)
  | .error e => reportFrom "control" .error ("Failed to inject " ++ FileName.quote path ++ ": " ++ e.message)

/-- Reports how many messages there were. -/
def reportCounters (counters : Option QueueCounters) : Logged Unit := do
  if !counters.any fun c => c.enqueued ≤ c.handled then
    reportFrom "control" .warn "Message queue did not drain in time"
  match counters with
  | some c =>
    report .info
      ("Messages: " ++ toString c.enqueued ++ " enqueued, " ++ toString c.handled ++ " handled, "
        ++ toString c.dropped ++ " dropped")
  | none => pure ()

end CecBus.Emulator
