import CecBus.Bus.Handling
import CecBus.Queue
import CecBus.Registry
import CecBus.Status

/-! The component that hosts an emulated bus. It is initialized, loads one set-up, and opens at most one
session on it. A session has a handle, a bus, and a queue whose worker applies control messages to whatever
session is there when it comes to them. `ρ` names the receivers of frames. -/

namespace CecBus

/-- How far a worker got with a message: it holds it, or it waits for the receiver of the frame to
return. -/
inductive Task (ρ : Type) where
  | holding (kind : MessageKind) (payload : ByteArray)
  | calling (receiver : ρ) (handle : Handle) (frame : List UInt8)

/-- An open session. It is ready until it starts to close, and from then on `worker` is taken out. -/
structure Session (ρ : Type) where
  handle : Handle
  isReady : Bool := true
  bus : Bus
  receiver : Option ρ := none
  hasConfirmer : Bool := false
  worker : Option Nat := none

/-- The component. Workers are known by their number and stay in the list when they have stopped; the worker
of a session that closed from inside may go on for a while. -/
structure Component (ρ : Type) where
  isInitialized : Bool := false
  setup : Option Setup := none
  registry : Registry := .ofCapacity 1
  session : Option (Session ρ) := none
  workers : List (Queue (Task ρ)) := []

/-- Why a lifecycle operation fails. -/
inductive ComponentError where
  | notInitialized
  | alreadyInitialized
  | notOpened
  | setup (error : SetupError)
  deriving DecidableEq, Repr

/-- The wording of an error. -/
def ComponentError.message : ComponentError → String
  | .notInitialized => "component not initialized"
  | .alreadyInitialized => "component already initialized"
  | .notOpened => "component not opened"
  | .setup error => "profile error: " ++ error.message

def ComponentError.causes : ComponentError → List String
  | .setup error => error.message :: error.causes
  | _ => []

/-- The phases of the session as they are seen from outside. -/
inductive SessionState where
  | closed
  | closing
  | ready
  deriving DecidableEq, Repr

namespace Component

variable {ρ : Type}

def empty : Component ρ := {}

/-- The state of the session. -/
def sessionState (c : Component ρ) : SessionState :=
  match c.session with
  | none => .closed
  | some s => if s.isReady then .ready else .closing

def ready? (c : Component ρ) : Option (Session ρ) := c.session.filter (·.isReady)

def queue? (c : Component ρ) : Option (Queue (Task ρ)) :=
  (c.session.bind Session.worker).bind (c.workers[·]?)

def counters? (c : Component ρ) : Option QueueCounters := c.queue?.map Queue.counters

def bus? (c : Component ρ) : Option Bus := c.session.map Session.bus

def setWorker (c : Component ρ) (worker : Nat) (queue : Queue (Task ρ)) : Component ρ :=
  { c with workers := c.workers.set worker queue }

def setBus (c : Component ρ) (bus : Bus) : Component ρ :=
  { c with session := c.session.map fun s => { s with bus } }

end Component

end CecBus
