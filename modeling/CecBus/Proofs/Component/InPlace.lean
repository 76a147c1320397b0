import CecBus.Proofs.Component.Calls

/-! Calls on a handle as they are carried out in place. They check and write in turn, and what was written before a
check fails stays: a claim reserves its address before it looks the device up again. Nevertheless every call is done as
a whole or not at all, and comes to what the operation that it carries out comes to. Opening a session is not: it
registers its handle first, and releasing that again does not take the registry back to where it was. Main results:
`DriverCall.run_inPlace` and `InPlace.run_openSession`. -/

namespace CecBus

variable {ρ α : Type}

/-- What is left of a state by an operation that is done as a whole or not at all. -/
def allOrNothing {ε σ : Type} (s : σ) : Except ε (α × σ) → EStateM.Result ε σ α
  | .ok (a, s') => .ok a s'
  | .error e => .error e s

theorem allOrNothing_eq_ok {ε σ : Type} {s d : σ} {x : Except ε (α × σ)} {a : α} :
    allOrNothing s x = .ok a d ↔ x = .ok (a, d) := by
  cases x <;> simp [allOrNothing, Prod.ext_iff]

theorem allOrNothing_eq_error {ε σ : Type} {s d : σ} {x : Except ε (α × σ)} {e : ε} :
    allOrNothing s x = .error e d ↔ x = .error e ∧ d = s := by
  cases x <;> simp [allOrNothing, eq_comm]

/-- What is left of a state by an operation that fails and leaves something behind all the same. -/
def leaving {ε σ : Type} : Except ε α × σ → EStateM.Result ε σ α
  | (.ok a, s) => .ok a s
  | (.error e, s) => .error e s

theorem leaving_eq_ok {ε σ : Type} {x : Except ε α × σ} {a : α} {s : σ} : leaving x = .ok a s ↔ x = (.ok a, s) := by
  obtain ⟨result, s'⟩ := x
  cases result <;> simp [leaving]

theorem leaving_eq_error {ε σ : Type} {x : Except ε α × σ} {e : ε} {s : σ} :
    leaving x = .error e s ↔ x = (.error e, s) := by
  obtain ⟨result, s'⟩ := x
  cases result <;> simp [leaving]

theorem Device.own?_eq_none {d : Device} : d.own? = none ↔ d.logical.getD .unregistered = .broadcast := by
  unfold own?
  cases d.logical <;> simp

namespace InPlace

/-! ### On a session -/

/-- Looks the emulated device up. -/
def emulated : EStateM DriverError (Session ρ) Device := do
  match (← get).bus.emulatedDevice? with
  | some device => pure device
  | none => throw .generalError

/-- Only a television can claim an address, and only the first one. -/
def checkClaim (address : LogicalAddress) : EStateM DriverError (Session ρ) Unit := do
  let device ← emulated
  if device.kind ≠ .tv || address ≠ .tv then throw .invalidArgument

def setLogical (address : LogicalAddress) : EStateM DriverError (Session ρ) Unit :=
  modify fun s => { s with bus := s.bus.updateEmulated fun d => { d with logical := some address } }

def setPool (pool : AddressPool) : EStateM DriverError (Session ρ) Unit :=
  modify fun s => { s with bus := { s.bus with pool } }

/-- Claims an address. The pool is written before the device is looked up to be changed. -/
def claim (address : LogicalAddress) : EStateM DriverError (Session ρ) Unit := do
  checkClaim address
  if (← emulated).logical ≠ some address then
    let (granted, pool) := (← get).bus.pool.reserve address
    setPool pool
    if !granted then throw .addressUnavailable
    let _ ← emulated
    setLogical address

/-- Gives an address up. -/
def unclaim (address : LogicalAddress) : EStateM DriverError (Session ρ) Unit := do
  checkClaim address
  let current := (← emulated).logical.getD .unregistered
  if current = .broadcast then throw .alreadyRemoved
  setLogical .broadcast
  setPool ((← get).bus.pool.release current)

/-- Sends a frame. -/
def send (frame : List UInt8) : EStateM DriverError (Session ρ) Delivery := do
  if !Session.isSendable frame then throw .invalidArgument
  if (← get).bus.isUnclaimedSink then throw .sentFailed
  pure .unanswered

/-- Sends a frame whose outcome a confirmer is told. -/
def sendAsync (frame : List UInt8) : EStateM DriverError (Session ρ) Unit := do
  if !Session.isSendable frame then throw .invalidArgument
  if (← get).bus.isUnclaimedSink then throw .sentFailed
  if !(← get).hasConfirmer then throw .sentFailed

@[simp] theorem run_throw {σ : Type} (e : DriverError) (s : σ) :
    (throw e : EStateM DriverError σ α).run s = .error e s := rfl

@[simp] theorem run_map {σ β : Type} (f : α → β) (x : EStateM DriverError σ α) (s : σ) :
    (f <$> x).run s = match x.run s with
      | .ok a s' => .ok (f a) s'
      | .error e s' => .error e s' := by
  rw [map_eq_pure_bind, EStateM.run_bind]
  cases x.run s <;> rfl

section

variable {s : Session ρ} {device : Device}

theorem run_emulated (hd : s.bus.emulatedDevice? = some device) : emulated.run s = .ok device s := by
  simp [emulated, hd]

theorem run_emulated_of_none (hd : s.bus.emulatedDevice? = none) : emulated.run s = .error .generalError s := by
  simp [emulated, hd]

theorem run_checkClaim (hd : s.bus.emulatedDevice? = some device) (address : LogicalAddress) :
    (checkClaim address).run s =
      if device.kind = .tv ∧ address = .tv then .ok () s else .error .invalidArgument s := by
  by_cases hk : device.kind = .tv <;> by_cases ha : address = .tv <;> simp [checkClaim, run_emulated hd, hk, ha]

/-- A reservation that is refused writes the pool as it was. -/
theorem run_claim (s : Session ρ) (address : LogicalAddress) : (claim address).run s =
    allOrNothing s ((outcome (s.bus.claim address)).map fun bus => ((), { s with bus })) := by
  cases hd : s.bus.emulatedDevice? with
  | none => simp [claim, checkClaim, run_emulated_of_none hd, Bus.claim, Bus.device, hd, outcome_bind, Except.bind,
      Except.map, allOrNothing]
  | some device =>
    have hmarked : ∀ pool, emulated.run { s with bus := { s.bus with pool } } =
        .ok device { s with bus := { s.bus with pool } } := fun pool => run_emulated hd
    rw [Bus.outcome_claim hd]
    by_cases hc : device.kind = .tv ∧ address = .tv
    · obtain ⟨hk, rfl⟩ := hc
      by_cases hl : device.logical = some .tv
      · simp [claim, run_checkClaim hd, run_emulated hd, hk, hl, Except.map, allOrNothing]
      · cases ht : s.bus.pool.isTaken .tv with
        | true => simp [claim, run_checkClaim hd, run_emulated hd, hk, hl, ht, Except.map, allOrNothing,
            AddressPool.reserve, setPool]
        | false =>
          simp [claim, run_checkClaim hd, run_emulated hd, hk, hl, ht, Except.map, allOrNothing,
            AddressPool.reserve, setPool, setLogical, hmarked]
          rfl
    · simp [claim, run_checkClaim hd, hc, Except.map, allOrNothing]

theorem run_unclaim (s : Session ρ) (address : LogicalAddress) : (unclaim address).run s =
    allOrNothing s ((outcome (s.bus.unclaim address)).map fun bus => ((), { s with bus })) := by
  cases hd : s.bus.emulatedDevice? with
  | none => simp [unclaim, checkClaim, run_emulated_of_none hd, Bus.unclaim, Bus.device, hd, outcome_bind, Except.bind,
      Except.map, allOrNothing]
  | some device =>
    rw [Bus.outcome_unclaim hd]
    by_cases hc : device.kind = .tv ∧ address = .tv
    · obtain ⟨hk, rfl⟩ := hc
      cases ho : device.own? with
      | none =>
        have hfree := Device.own?_eq_none.1 ho
        simp [unclaim, run_checkClaim hd, run_emulated hd, hk, hfree, Except.map, allOrNothing]
      | some current =>
        obtain ⟨hl, hne⟩ := Device.own?_eq_some.1 ho
        simp [unclaim, run_checkClaim hd, run_emulated hd, hk, hl, hne, Except.map, allOrNothing, setLogical, setPool]
        rfl
    · simp [unclaim, run_checkClaim hd, hc, Except.map, allOrNothing]

theorem run_send (s : Session ρ) (frame : List UInt8) : (send frame).run s =
    allOrNothing s ((outcome (s.send frame)).map fun delivery => (delivery, s)) := by
  rw [Session.outcome_send]
  cases hf : Session.isSendable frame <;> cases hs : s.bus.isUnclaimedSink <;>
    simp [send, hf, hs, Except.map, allOrNothing]

theorem run_sendAsync (s : Session ρ) (frame : List UInt8) : (sendAsync frame).run s =
    allOrNothing s ((outcome (s.sendAsync frame)).map fun _ => ((), s)) := by
  rw [Session.outcome_sendAsync]
  cases hf : Session.isSendable frame <;> cases hs : s.bus.isUnclaimedSink <;> cases hc : s.hasConfirmer <;>
    simp [sendAsync, hf, hs, hc, Except.map, allOrNothing]

/-- What a session does with a call. -/
def reply : DriverCall ρ → EStateM DriverError (Session ρ) DriverAnswer
  | .close => do modify fun s => { s with isReady := false, worker := none }; pure .done
  | .physical => do pure (.physical (← emulated).physical)
  | .logical => do pure (.logical (← emulated).sender)
  | .claim address => do claim address; pure .done
  | .unclaim address => do unclaim address; pure .done
  | .setReceiver receiver => do modify fun s => { s with receiver }; pure .done
  | .setConfirmer isSet => do modify fun s => { s with hasConfirmer := isSet }; pure .done
  | .send frame => do pure (.sent (← send frame))
  | .sendAsync frame => do sendAsync frame; pure .done

theorem run_reply (s : Session ρ) (call : DriverCall ρ) : (reply call).run s = allOrNothing s (s.reply call) := by
  cases call with
  | close | setReceiver | setConfirmer => rfl
  | physical | logical =>
    cases hd : s.bus.emulatedDevice? with
    | none => simp [reply, Session.reply, run_emulated_of_none hd, Bus.device, hd, Except.map, allOrNothing]
    | some device => simp [reply, Session.reply, run_emulated hd, Bus.device, hd, Except.map, allOrNothing]
  | claim address =>
    rw [reply, EStateM.run_bind, run_claim, Session.reply]
    cases outcome (s.bus.claim address) <;> rfl
  | unclaim address =>
    rw [reply, EStateM.run_bind, run_unclaim, Session.reply]
    cases outcome (s.bus.unclaim address) <;> rfl
  | send frame =>
    rw [reply, EStateM.run_bind, run_send, Session.reply]
    cases outcome (s.send frame) <;> rfl
  | sendAsync frame =>
    rw [reply, EStateM.run_bind, run_sendAsync, Session.reply]
    cases outcome (s.sendAsync frame) <;> rfl

end

/-! ### On a component -/

/-- Leaves a call to the session that is live under a handle. What that writes to the session stays, even if it
fails. -/
def onLive (handle : Handle) (call : DriverCall ρ) : EStateM DriverError (Component ρ) DriverAnswer := do
  let c ← get
  match c.ready? with
  | none => throw .notOpened
  | some s =>
    if s.handle ≠ handle || !c.registry.resolves handle then throw .invalidHandle
    match (reply call).run s with
    | .ok answer s =>
      set { c with session := some s }
      pure answer
    | .error e s =>
      set { c with session := some s }
      throw e

/-- Takes a session out of use. Its handle is released while it is still compared. -/
def close (handle : Handle) : EStateM DriverError (Component ρ) Unit := do
  let c ← get
  match c.ready? with
  | none => throw .notOpened
  | some s =>
    if s.handle ≠ handle then throw .invalidHandle
    match c.registry.release? handle with
    | none => throw .invalidHandle
    | some registry =>
      modify fun c => { c with registry }
      modify fun c => { c with session := some { s with isReady := false, worker := none } }

/-- Releases a handle that was registered, as the worker that it was for does not run. -/
def giveUp (handle : Handle) : EStateM DriverError (Component ρ) Unit :=
  modify fun c =>
    { c with
      registry := (c.registry.release? handle).getD c.registry
      workers := c.workers ++ [Queue.unstarted] }

/-- Opens a session. The handle is registered before the bus is built and the worker started, and released again when
one of them fails. -/
def openSession (fault : Option String) : EStateM DriverError (Component ρ) Handle := do
  let c ← get
  if !c.isInitialized || c.setup.isNone then throw .notOpened
  if c.session.isSome then throw .alreadyOpen
  match c.registry.register? with
  | none => throw .generalError
  | some (handle, registry) =>
    modify fun c => { c with registry }
    match c.setup.bind fun setup => (Bus.ofSetup setup).value with
    | none =>
      giveUp handle
      throw .generalError
    | some bus =>
      if fault.isSome then
        giveUp handle
        throw .generalError
      modify fun c =>
        { c with
          session := some { handle, bus, worker := some c.workers.length }
          workers := c.workers ++ [Queue.ofCapacity Queue.usualCapacity] }
      pure handle

variable {c : Component ρ} {handle : Handle} {s : Session ρ} {e : DriverError}

theorem run_onLive (c : Component ρ) (handle : Handle) (call : DriverCall ρ) : (onLive handle call).run c =
    allOrNothing c
      ((c.live handle).bind fun s => (s.reply call).map fun reply => (reply.1, { c with session := some reply.2 })) := by
  unfold onLive Component.live
  cases hr : c.ready? with
  | none => simp [hr, Except.bind, allOrNothing]
  | some s =>
    have hsame : c = { c with session := some s } := by rw [← (Component.ready?_eq_some.1 hr).1]
    by_cases hh : s.handle = handle <;> cases hresolves : c.registry.resolves handle <;>
      simp [hr, hh, hresolves, run_reply, Except.bind, allOrNothing]
    cases s.reply call <;> simp [Except.map, ← hsame]

theorem run_close (c : Component ρ) (handle : Handle) : (close handle).run c =
    allOrNothing c ((outcome (c.retire handle)).map fun (_, d) => ((), d)) := by
  rw [Component.outcome_retire]
  unfold close Component.live
  cases hr : c.ready? with
  | none => simp [hr, Except.map, allOrNothing]
  | some s =>
    by_cases hh : s.handle = handle
    · cases hresolves : c.registry.resolves handle with
      | false =>
        simp [hr, hh, Registry.release?_of_not_resolves hresolves, Except.map, allOrNothing]
      | true =>
        obtain ⟨registry, hrelease⟩ := Registry.release?_of_resolves hresolves
        simp [hr, hh, hrelease, Except.map, allOrNothing]
    · simp [hr, hh, Except.map, allOrNothing]

theorem run_openSession (c : Component ρ) (fault : Option String) :
    (openSession fault).run c = leaving (c.tryOpen fault).value := by
  rw [Component.value_tryOpen]
  unfold openSession
  cases hset : c.setup.filter fun _ => c.isInitialized with
  | none =>
    have hloaded := c.isSome_filter_setup
    rw [hset, Component.isLoaded] at hloaded
    cases hi : c.isInitialized <;> cases hs : c.setup <;> simp [hi, hs] at hloaded <;> simp [hi, hs, leaving]
  | some setup =>
    obtain ⟨hsetup, hi⟩ := Option.filter_eq_some_iff.1 hset
    cases hs : c.session with
    | some s => simp [hi, hsetup, hs, leaving]
    | none =>
      cases hr : c.registry.register? with
      | none => simp [hi, hsetup, hs, hr, leaving]
      | some issued =>
        cases hb : (Bus.ofSetup setup).value <;> cases fault <;>
          simp [hi, hsetup, hs, hr, hb, leaving, giveUp, Component.giveUp, Component.withSession]

end InPlace

/-- A call on a handle, carried out in place. Closing has its own way of checking the handle. -/
def DriverCall.inPlace (handle : Handle) : DriverCall ρ → EStateM DriverError (Component ρ) DriverAnswer
  | .close => do InPlace.close handle; pure .done
  | call => InPlace.onLive handle call

/-- Every call on a handle is done as a whole or not at all. -/
theorem DriverCall.run_inPlace (c : Component ρ) (handle : Handle) (call : DriverCall ρ) :
    (call.inPlace handle).run c = allOrNothing c (c.respond handle call) := by
  cases call with
  | close =>
    rw [inPlace, EStateM.run_bind, InPlace.run_close, Component.respond]
    cases outcome (c.retire handle) <;> rfl
  | setReceiver receiver =>
    rw [Component.respond_eq]
    exact InPlace.run_onLive c handle (.setReceiver receiver)
  | setConfirmer isSet =>
    rw [Component.respond_eq]
    exact InPlace.run_onLive c handle (.setConfirmer isSet)
  | _ =>
    rw [Component.respond_eq]
    exact InPlace.run_onLive c handle _

end CecBus
