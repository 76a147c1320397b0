import CecBus.Component.Call
import CecBus.Component.Delivery
import CecBus.Component.Work
import CecBus.Proofs.Outcome

/-! A component among its threads. Operations that are done under one lock are one step each; a call that closes
something goes stage by stage, and everything else may come in between. The threads are the caller and the workers: a
worker can make calls while the receiver of a frame runs on it. Sessions are numbered as they are opened, which is also
how their workers are numbered. A system keeps the history of its messages. -/

namespace CecBus

variable {ρ : Type}

/-- An operation of the component that is done in one step. -/
inductive Operation (ρ : Type) where
  | deliver (topic : String) (payload : ByteArray)
  | deliverDocument (payload : ByteArray)
  | physical (handle : Handle)
  | logical (handle : Handle)
  | claim (handle : Handle) (address : LogicalAddress)
  | unclaim (handle : Handle) (address : LogicalAddress)
  | setReceiver (handle : Handle) (receiver : Option ρ)
  | setConfirmer (handle : Handle) (isSet : Bool)
  | send (handle : Handle) (frame : List UInt8)
  | sendAsync (handle : Handle) (frame : List UInt8)
  | openSession (fault : Option String)
  | activate
  | loadProfile (p : Profile)
  | loadFile (path : String) (content : Except FileFault ByteArray)

/-- An operation of the component that closes something. -/
inductive Closing where
  | session (handle : Handle)
  | component
  | deactivate
  deriving DecidableEq

/-- The stages of an operation that closes something. -/
def Closing.stages : Closing → List Stage
  | .session handle => Stage.closeSession handle
  | .component => Stage.closeComponent
  | .deactivate => Stage.deactivate

namespace Component

/-- What an operation leaves behind that changes the component only if it succeeds. -/
def orKeep {ε : Type} (c : Component ρ) (x : Attempt ε (Component ρ)) : Component ρ :=
  match outcome x with
  | .ok c => c
  | .error _ => c

/-- The component after an operation, whether it succeeds or fails. -/
def after (c : Component ρ) : Operation ρ → Component ρ
  | .deliver topic payload => (c.deliver topic payload).value.2
  | .deliverDocument payload => (c.deliverDocument payload).value.2
  | .claim handle address => c.orKeep (c.claim handle address)
  | .unclaim handle address => c.orKeep (c.unclaim handle address)
  | .setReceiver handle receiver => c.orKeep (c.setReceiver handle receiver)
  | .setConfirmer handle isSet => c.orKeep (c.setConfirmer handle isSet)
  | .physical _ | .logical _ | .send .. | .sendAsync .. => c
  | .openSession fault => (c.tryOpen fault).value.2
  | .activate => c.orKeep c.activate
  | .loadProfile p => c.orKeep (c.loadProfile p)
  | .loadFile path content => c.orKeep (c.loadFile path content)

/-- The number of the session, if there is one: it is the last that was opened. -/
def current? (c : Component ρ) : Option Nat := c.session.map fun _ => c.workers.length - 1

end Component

/-- The control message that an operation hands in. -/
def Operation.message? : Operation ρ → Option Message
  | .deliver topic payload => (MessageKind.ofTopic? topic).map (.control · payload)
  | .deliverDocument payload => (Component.kindOf payload).toOption.map (.control · payload)
  | _ => none

/-- How a worker dealt with a message: against which session, with the handle of that, or against none; the frame that
came of it, and the receiver that was set. -/
structure Handling (ρ : Type) where
  worker : Nat
  message : Message
  session : Option (Nat × Handle)
  frame : Option Frame
  receiver : Option ρ
  deriving DecidableEq

/-- The call of the receiver that follows. -/
def Handling.call? (e : Handling ρ) : Option (ρ × Handle × List UInt8) :=
  match e.session, e.receiver, e.frame with
  | some (_, handle), some receiver, some frame => some (receiver, handle, frame.bytes)
  | _, _, _ => none

/-- What happened to the messages so far: which were accepted, by the session of which number; how they were handled;
which receivers were called, by which worker. And which workers closed their own queue. -/
structure History (ρ : Type) where
  accepted : List (Nat × Message) := []
  handled : List (Handling ρ) := []
  called : List (Nat × ρ × Handle × List UInt8) := []
  detached : List Nat := []

namespace History

def acceptedBy (h : History ρ) (session : Nat) : List Message :=
  (h.accepted.filter (·.1 = session)).map Prod.snd

def handledBy (h : History ρ) (worker : Nat) : List (Handling ρ) := h.handled.filter (·.worker = worker)

def calledBy (h : History ρ) (worker : Nat) : List (ρ × Handle × List UInt8) :=
  (h.called.filter (·.1 = worker)).map Prod.snd

end History

/-- A component with what is under way on its threads. No number stands for the caller. -/
structure System (ρ : Type) where
  component : Component ρ
  activity : Option Nat → Option (Closing × List Stage) := fun _ => none
  history : History ρ := {}

/-- What happens next. -/
inductive Event (ρ : Type) where
  | request (thread : Option Nat) (r : Operation ρ)
  | start (thread : Option Nat) (closing : Closing)
  | advance (thread : Option Nat)
  | finish (thread : Option Nat)
  | work (worker : Nat)
  | resume (worker : Nat)

namespace Component

/-- The message that an operation adds to those the session has accepted, with the number of the session. -/
def accepted? (c : Component ρ) (r : Operation ρ) : Option (Nat × Message) :=
  match r.message?, c.current? with
  | some message, some session => if (c.enqueue message).value.1.isOk then some (session, message) else none
  | _, _ => none

/-- How a worker deals with a message at this point. -/
def handling (c : Component ρ) (worker : Nat) (kind : MessageKind) (payload : ByteArray) : Handling ρ where
  worker
  message := .control kind payload
  session := c.session.map fun s => (c.workers.length - 1, s.handle)
  frame := c.session.bind fun s => (s.bus.handle kind payload).value.1
  receiver := c.session.bind Session.receiver

/-- How a worker is going to deal with the message that it holds. -/
def handling? (c : Component ρ) (worker : Nat) : Option (Handling ρ) :=
  match (c.workers[worker]?).map Queue.phase with
  | some (.busy (.holding kind payload)) => some (c.handling worker kind payload)
  | _ => none

end Component

namespace System

/-- A thread that makes no call. A worker can only make one while it calls a receiver. -/
def isFree (s : System ρ) (thread : Option Nat) : Bool :=
  (s.activity thread).isNone && thread.all fun worker => (s.component.calling? worker).isSome

def setActivity (s : System ρ) (thread : Option Nat) (activity : Option (Closing × List Stage)) : System ρ :=
  { s with activity := fun other => if other = thread then activity else s.activity other }

def noteStage (h : History ρ) (thread : Option Nat) : Stage → History ρ
  | .shutDown worker => if thread = some worker then { h with detached := h.detached ++ [worker] } else h
  | _ => h

/-- Noting a stage changes nothing else. -/
theorem exists_noteStage_eq (h : History ρ) (thread : Option Nat) (stage : Stage) :
    ∃ detached, noteStage h thread stage = { h with detached } := by
  unfold noteStage
  split
  · split
    · exact ⟨_, rfl⟩
    · exact ⟨h.detached, rfl⟩
  · exact ⟨h.detached, rfl⟩

/-- Performs the next stage on a thread. A call that fails is over. -/
def performStage (s : System ρ) (thread : Option Nat) (closing : Closing) (stage : Stage) (rest : List Stage) :
    System ρ :=
  match outcome (s.component.perform thread stage) with
  | .error _ => s.setActivity thread none
  | .ok (more, c) =>
    { s.setActivity thread (some (closing, more ++ rest)) with
      component := c
      history := noteStage s.history thread stage }

/-- The system after an event, if that can happen. -/
def step? (s : System ρ) : Event ρ → Option (System ρ)
  | .request thread r =>
    if s.isFree thread then
      some
        { s with
          component := s.component.after r
          history := { s.history with accepted := s.history.accepted ++ (s.component.accepted? r).toList } }
    else none
  | .start thread closing =>
    if s.isFree thread then some (s.setActivity thread (some (closing, closing.stages))) else none
  | .advance thread =>
    match s.activity thread with
    | some (closing, stage :: rest) =>
      if s.component.blocks stage then none else some (s.performStage thread closing stage rest)
    | _ => none
  | .finish thread =>
    match s.activity thread with
    | some (_, []) => some (s.setActivity thread none)
    | _ => none
  | .work worker =>
    (s.component.work? worker).map fun step =>
      { s with
        component := step.value
        history := { s.history with handled := s.history.handled ++ (s.component.handling? worker).toList } }
  | .resume worker =>
    if (s.activity (some worker)).isSome then none
    else
      (s.component.calling? worker).map fun call =>
        { s with
          component := s.component.resume worker
          history := { s.history with called := s.history.called ++ [(worker, call)] } }

/-- The system after some events, if they can happen one after the other. -/
def run? (s : System ρ) : List (Event ρ) → Option (System ρ)
  | [] => some s
  | event :: rest => (s.step? event).bind (·.run? rest)

/-- A call that closes something is about to return, without an error. -/
def isReturning (s : System ρ) (thread : Option Nat) (closing : Closing) : Prop :=
  s.activity thread = some (closing, [])

end System

end CecBus
