import CecBus.Component

/-! Handing control messages to the session, by topic or by the fields of the document. -/

namespace CecBus

/-- Why a message is not taken. -/
inductive DeliveryError where
  | notReady
  | unknownTopic (topic : String)
  | unknownKind
  | document (error : ProfileError)
  | queue (error : QueueError)
  deriving DecidableEq

/-- The wording of an error. -/
def DeliveryError.message : DeliveryError → String
  | .notReady => "HAL not ready"
  | .unknownTopic topic => "unknown topic: " ++ topic
  | .unknownKind => "message kind not recognised"
  | .document error => "failed to parse message: " ++ error.message
  | .queue error => error.message

namespace Component

variable {ρ : Type}

/-- Puts a message into the queue of the session. A refusal for lack of room is counted too. -/
def enqueue (c : Component ρ) (message : Message) : Logged (Except DeliveryError Unit × Component ρ) :=
  match c.ready?.bind Session.worker with
  | none => pure (.error .notReady, c)
  | some worker =>
    match c.workers[worker]? with
    | none => pure (.error .notReady, c)
    | some queue => do
      let (result, queue) ← queue.enqueue message
      pure (result.mapError DeliveryError.queue, c.setWorker worker queue)

/-- Takes a message that was published under a topic. -/
def deliver (c : Component ρ) (topic : String) (payload : ByteArray) :
    Logged (Except DeliveryError Unit × Component ρ) :=
  match MessageKind.ofTopic? topic with
  | none => pure (.error (.unknownTopic topic), c)
  | some kind => c.enqueue (.control kind payload)

/-- The kind of a document. -/
def kindOf (payload : ByteArray) : Except DeliveryError MessageKind :=
  match Profile.ofBytes payload with
  | .error e => .error (.document e)
  | .ok p =>
    match MessageKind.detect? p with
    | some kind => .ok kind
    | none => .error .unknownKind

/-- Takes a message whose kind its document tells. -/
def deliverDocument (c : Component ρ) (payload : ByteArray) :
    Logged (Except DeliveryError Unit × Component ρ) :=
  match kindOf payload with
  | .error e => pure (.error e, c)
  | .ok kind => c.enqueue (.control kind payload)

end Component

end CecBus
