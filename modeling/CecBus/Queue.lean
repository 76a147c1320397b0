import CecBus.Log
import CecBus.Message

/-! A bounded queue of messages and the worker that takes them out one by one. The queue never makes its
users wait: a message that finds no room is handed back. The worker stops at an exit message, or when the
queue is closed and empty. -/

namespace CecBus

/-- Why a message is not accepted. -/
inductive QueueError where
  | full (message : Message)
  | closed
  deriving DecidableEq

def QueueError.message : QueueError → String
  | .full _ => "message queue full"
  | .closed => "message queue closed"

/-- How many messages were accepted, refused for lack of room, and dealt with. The numbers have no bound; they are as
good as counters of 64 bits as long as fewer than `2 ^ 64` messages come. -/
structure QueueCounters where
  enqueued : Nat := 0
  dropped : Nat := 0
  handled : Nat := 0
  deriving DecidableEq, Repr

/-- What the worker does; `τ` says how far it got with a message. -/
inductive WorkerPhase (τ : Type) where
  | idle
  | busy (task : τ)
  | stopped
  deriving DecidableEq

/-- A queue and its worker. -/
structure Queue (τ : Type) where
  capacity : Nat
  waiting : List Message := []
  isOpen : Bool := true
  phase : WorkerPhase τ := .idle
  counters : QueueCounters := {}

namespace Queue

variable {τ : Type}

def usualCapacity : Nat := 32

/-- An empty queue. There is room for one message at least. -/
def ofCapacity (capacity : Nat) : Queue τ := { capacity := max capacity 1 }

/-- A queue whose worker could not be started. -/
def unstarted : Queue τ := { capacity := usualCapacity, isOpen := false, phase := .stopped }

/-- Whether the worker has stopped. -/
def isStopped (q : Queue τ) : Bool :=
  match q.phase with
  | .stopped => true
  | _ => false

/-- Whether no message would be accepted, however much room there is. -/
def isClosed (q : Queue τ) : Bool := !q.isOpen || q.isStopped

def isFull (q : Queue τ) : Bool := q.capacity ≤ q.waiting.length

/-- Hands a message in. -/
def enqueue (q : Queue τ) (message : Message) : Logged (Except QueueError Unit × Queue τ) :=
  if q.isClosed then pure (.error .closed, q)
  else if q.isFull then do
    report .warn "Message queue full, dropping message"
    pure (.error (.full message),
      { q with counters := { q.counters with dropped := q.counters.dropped + 1 } })
  else
    pure (.ok (),
      { q with
        waiting := q.waiting ++ [message]
        counters := { q.counters with enqueued := q.counters.enqueued + 1 } })

/-- The worker stops, and what still waits is lost. -/
def stop (q : Queue τ) : Queue τ := { q with phase := .stopped, waiting := [] }

/-- The worker takes the next message out; `start` says how it begins with it. It does nothing while it is
busy or has to wait. -/
def receive? (q : Queue τ) (start : MessageKind → ByteArray → τ) : Option (Logged (Queue τ)) :=
  match q.phase, q.waiting with
  | .idle, .exit :: _ =>
    some do
      report .info "Exit requested in message handler"
      pure q.stop
  | .idle, .control kind payload :: rest =>
    some (pure { q with waiting := rest, phase := .busy (start kind payload) })
  | .idle, [] => if q.isOpen then none else some (pure q.stop)
  | _, _ => none

def finish (q : Queue τ) : Queue τ :=
  { q with phase := .idle, counters := { q.counters with handled := q.counters.handled + 1 } }

/-- The queue is closed from outside: an exit message goes in if there is room, and nothing after it. -/
def requestExit (q : Queue τ) : Logged (Queue τ) :=
  if !q.isOpen then pure q
  else if q.isStopped then do
    report .warn "Message handler already stopped"
    pure { q with isOpen := false }
  else
    pure { q with isOpen := false, waiting := if q.isFull then q.waiting else q.waiting ++ [.exit] }

/-- The queue is closed by its own worker, which cannot wait for itself. -/
def detach (q : Queue τ) : Logged (Queue τ) :=
  if !q.isOpen then pure q
  else do
    report .warn "Message queue shut down from its own worker, not joining"
    pure { q with isOpen := false }

end Queue

end CecBus
