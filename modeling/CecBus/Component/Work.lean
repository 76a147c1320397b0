import CecBus.Component

/-! The workers of a component. A worker takes a message, applies it to the session, and calls the receiver
when a frame comes out. While the receiver runs the worker waits. -/

namespace CecBus.Component

variable {ρ : Type}

/-- Applies a message to the session. The worker is done with it unless it has to call the receiver. -/
def dispatch (c : Component ρ) (worker : Nat) (queue : Queue (Task ρ)) (kind : MessageKind)
    (payload : ByteArray) : Logged (Component ρ) :=
  match c.session with
  | none => do
    report .warn ("No HAL instance, discarding " ++ kind.topic ++ " message")
    pure (c.setWorker worker queue.finish)
  | some s => do
    let (frame, bus) ← s.bus.handle kind payload
    let c := c.setBus bus
    match frame, s.receiver with
    | none, _ => pure (c.setWorker worker queue.finish)
    | some _, none =>
      report .debug "No Rx callback registered, dropping 1 frame(s)"
      pure (c.setWorker worker queue.finish)
    | some frame, some receiver =>
      pure (c.setWorker worker { queue with phase := .busy (.calling receiver s.handle frame.bytes) })

/-- One step of a worker. There is none while it waits for a message or for the receiver, or has stopped. -/
def work? (c : Component ρ) (worker : Nat) : Option (Logged (Component ρ)) :=
  match c.workers[worker]? with
  | none => none
  | some queue =>
    match queue.phase with
    | .busy (.holding kind payload) => some (c.dispatch worker queue kind payload)
    | _ => (queue.receive? Task.holding).map fun step => do pure (c.setWorker worker (← step))

/-- The call a worker waits for. -/
def calling? (c : Component ρ) (worker : Nat) : Option (ρ × Handle × List UInt8) :=
  match (c.workers[worker]?).map Queue.phase with
  | some (.busy (.calling receiver handle frame)) => some (receiver, handle, frame)
  | _ => none

/-- The receiver that a worker called returns. -/
def resume (c : Component ρ) (worker : Nat) : Component ρ :=
  match c.calling? worker, c.workers[worker]? with
  | some _, some queue => c.setWorker worker queue.finish
  | _, _ => c

/-- The first worker that can take a step, and that step. -/
def firstStep? (c : Component ρ) : Option (Logged (Component ρ)) :=
  (List.range c.workers.length).findSome? c.work?

/-- An upper bound on the steps that workers can take before they have to wait. -/
def remainingWork (c : Component ρ) : Nat :=
  c.workers.foldr (fun queue rest => 2 * queue.waiting.length + 3 + rest) 0

/-- Lets all workers go on until they have to wait. -/
def settle (c : Component ρ) : Logged (Component ρ) := go c.remainingWork c
where
  /-- Takes a number of steps at most. -/
  go : Nat → Component ρ → Logged (Component ρ)
    | 0, c => pure c
    | fuel + 1, c =>
      match c.firstStep? with
      | none => pure c
      | some step => do go fuel (← step)

def firstCall? (c : Component ρ) : Option (Nat × ρ × Handle × List UInt8) :=
  (List.range c.workers.length).findSome? fun worker => (c.calling? worker).map (worker, ·)

end CecBus.Component
