import CecBus.Component

/-! Initializing a component, loading a set-up, and closing it all again. Closing waits for the worker in the
middle, and other calls can come in between, so a call that closes is a list of stages. -/

namespace CecBus

/-- Why a call that closes fails. -/
inductive CallError where
  | driver (error : DriverError)
  | component (error : ComponentError)
  deriving DecidableEq, Repr

/-- The stages of calls that close something. A stage that belongs to a larger call is `nested` and lets that
call go on when there is nothing to close. -/
inductive Stage where
  | checkInitialized
  | findSession (nested : Bool)
  | retire (handle : Handle) (nested : Bool)
  | shutDown (worker : Nat)
  | join (worker : Nat)
  | vacate (handle : Handle)
  | forgetSetup
  | clearInitialized
  deriving DecidableEq, Repr

def Stage.closeSession (handle : Handle) : List Stage := [.retire handle false]

def Stage.closeComponent : List Stage := [.findSession false]

def Stage.deactivate : List Stage := [.checkInitialized]

namespace Component

variable {ρ : Type}

/-- Initializes the component. -/
def activate (c : Component ρ) : Attempt ComponentError (Component ρ) := do
  if c.isInitialized then throw .alreadyInitialized
  report .info "Virtual HDMI-CEC component initialized"
  pure { c with isInitialized := true }

/-- Keeps the set-up of a profile; the first one that was loaded stays. `source` says where the profile is
from. -/
def load (c : Component ρ) (source : String) (p : Profile) : Attempt ComponentError (Component ρ) := do
  if !c.isInitialized then throw .notInitialized
  if c.setup.isSome then
    report .debug "Component already opened, keeping the loaded profile"
    pure c
  else
    let setup ← (Setup.ofProfile p).adapt ComponentError.setup
    report .info
      ("Loaded profile " ++ source ++ ": emulating " ++ setup.emulated ++ " with "
        ++ toString setup.ports.length ++ " port(s) and " ++ toString setup.tree.count ++ " device(s)")
    pure { c with setup := some setup }

/-- The source of a profile that is no file. -/
def memory : String := "<memory>"

def loadProfile (c : Component ρ) (p : Profile) : Attempt ComponentError (Component ρ) := c.load memory p

/-- Reads a profile from the content of a file. -/
def profileOfFile (path : String) (content : Except FileFault ByteArray) : Except ProfileError Profile :=
  match content with
  | .error fault => .error (.file path fault)
  | .ok bytes => Profile.ofBytes bytes

/-- Loads a profile from a file. -/
def loadFile (c : Component ρ) (path : String) (content : Except FileFault ByteArray) :
    Attempt ComponentError (Component ρ) := do
  if !c.isInitialized then throw .notInitialized
  match profileOfFile path content with
  | .error e => throw (.setup (.profile e))
  | .ok p =>
    report .debug ("Loaded profile from " ++ FileName.quote path)
    c.load path p

/-- Takes the session out of use, if the handle is its handle; with it comes the worker it had. -/
def retire (c : Component ρ) (handle : Handle) : Attempt DriverError (Option Nat × Component ρ) := do
  let some s := c.ready? | throw .notOpened
  if s.handle ≠ handle then throw .invalidHandle
  let some registry := c.registry.release? handle | throw .invalidHandle
  if s.worker.isNone then report .warn "HAL instance has no message queue"
  pure (s.worker, { c with registry, session := some { s with isReady := false, worker := none } })

/-- What follows when a session was taken out of use. -/
def afterRetiring (handle : Handle) : Option Nat → List Stage
  | some worker => [.shutDown worker, .vacate handle]
  | none => [.vacate handle]

/-- What follows when the component is closed: first the session, if one is ready. -/
def afterFinding (c : Component ρ) : List Stage :=
  match c.ready? with
  | some s => [.retire s.handle true, .forgetSetup]
  | none => [.forgetSetup]

/-- Performs the retiring stage. Inside a larger call a failure is only reported. -/
def retireStage (c : Component ρ) (handle : Handle) (nested : Bool) :
    Attempt CallError (List Stage × Component ρ) := do
  match ← ((c.retire handle).run : Logged _) with
  | .ok (worker, c) => pure (afterRetiring handle worker, c)
  | .error e =>
    if nested then
      report .warn ("Failed to close HAL " ++ handle.text ++ ": " ++ e.message)
      pure ([], c)
    else throw (.driver e)

/-- Performs the stage that closes a queue. A worker that closes its own queue cannot wait for itself. -/
def shutDownStage (c : Component ρ) (caller : Option Nat) (worker : Nat) :
    Logged (List Stage × Component ρ) :=
  match c.workers[worker]? with
  | none => pure ([], c)
  | some queue =>
    if caller = some worker then do
      pure ([], c.setWorker worker (← queue.detach))
    else do
      pure ([.join worker], c.setWorker worker (← queue.requestExit))

def hasStopped (c : Component ρ) (worker : Nat) : Bool := (c.workers[worker]?).all Queue.isStopped

/-- Whether a stage has to wait for a worker. -/
def blocks (c : Component ρ) : Stage → Bool
  | .join worker => !c.hasStopped worker
  | _ => false

/-- Performs a stage that does not have to wait. With the component come the stages that it puts in front of
the remaining ones. `caller` is the worker on which the call is made, if it is made on one. -/
def perform (c : Component ρ) (caller : Option Nat) : Stage → Attempt CallError (List Stage × Component ρ)
  | .checkInitialized =>
    if c.isInitialized then pure ([.findSession true, .clearInitialized], c)
    else throw (.component .notInitialized)
  | .findSession nested => do
    if !c.isInitialized then throw (.component .notInitialized)
    if c.setup.isSome then pure (c.afterFinding, c)
    else if nested then pure ([], c)
    else throw (.component .notOpened)
  | .retire handle nested => c.retireStage handle nested
  | .shutDown worker => (c.shutDownStage caller worker : Logged _)
  | .join _ => pure ([], c)
  | .vacate handle => do
    report .info ("HAL " ++ handle.text ++ " closed")
    pure ([], { c with session := none })
  | .forgetSetup => do
    report .info "Virtual HDMI-CEC component closed"
    pure ([], { c with setup := none })
  | .clearInitialized => do
    report .info "Virtual HDMI-CEC component deinitialized"
    pure ([], { c with isInitialized := false })

end Component

end CecBus
