import CecBus.Proofs.Component.Standing

/-! What calls on a handle are answered. `respond` is the answer of each of them together with the component that it
leaves; it depends on the session that is live under the handle and on nothing else (`respond_eq`). The errors that
follow once the handle is live are about the arguments or the state of the bus. Opening fails only for want of a set-up,
because there is a session or because the worker cannot be started, as long as the set-up is that of an accepted profile
and a slot is free (`tryOpen_eq_error_iff`). -/

namespace CecBus

variable {ρ : Type}

/-- A call on a handle. -/
inductive DriverCall (ρ : Type) where
  | close
  | physical
  | logical
  | claim (address : LogicalAddress)
  | unclaim (address : LogicalAddress)
  | setReceiver (receiver : Option ρ)
  | setConfirmer (isSet : Bool)
  | send (frame : List UInt8)
  | sendAsync (frame : List UInt8)

/-- What a call on a handle gives back. -/
inductive DriverAnswer where
  | done
  | physical (address : PhysicalAddress)
  | logical (address : LogicalAddress)
  | sent (delivery : Delivery)
  deriving DecidableEq

/-- Whether an error is about the arguments of a call, or about what the bus allows at the moment. -/
def DriverError.isOnMerits : DriverError → Bool
  | .invalidArgument | .sentFailed | .alreadyRemoved | .addressUnavailable => true
  | _ => false

namespace Session

/-- What a session answers to a call on its handle, and what becomes of it. -/
def reply (s : Session ρ) : DriverCall ρ → Except DriverError (DriverAnswer × Session ρ)
  | .close => .ok (.done, { s with isReady := false, worker := none })
  | .physical => s.bus.device.map fun d => (.physical d.physical, s)
  | .logical => s.bus.device.map fun d => (.logical d.sender, s)
  | .claim address => (outcome (s.bus.claim address)).map fun bus => (.done, { s with bus })
  | .unclaim address => (outcome (s.bus.unclaim address)).map fun bus => (.done, { s with bus })
  | .setReceiver receiver => .ok (.done, { s with receiver })
  | .setConfirmer isSet => .ok (.done, { s with hasConfirmer := isSet })
  | .send frame => (outcome (s.send frame)).map fun delivery => (.sent delivery, s)
  | .sendAsync frame => (outcome (s.sendAsync frame)).map fun _ => (.done, s)

end Session

namespace Component

/-- What a component answers to a call on a handle, and what becomes of it. A session that is closed is out of use when
the answer is known; the rest of closing it cannot fail. -/
def respond (c : Component ρ) (handle : Handle) : DriverCall ρ → Except DriverError (DriverAnswer × Component ρ)
  | .close => (outcome (c.retire handle)).map fun (_, d) => (.done, d)
  | .physical => (outcome (c.physical handle)).map fun address => (.physical address, c)
  | .logical => (outcome (c.logical handle)).map fun address => (.logical address, c)
  | .claim address => (outcome (c.claim handle address)).map fun d => (.done, d)
  | .unclaim address => (outcome (c.unclaim handle address)).map fun d => (.done, d)
  | .setReceiver receiver => (outcome (c.setReceiver handle receiver)).map fun d => (.done, d)
  | .setConfirmer isSet => (outcome (c.setConfirmer handle isSet)).map fun d => (.done, d)
  | .send frame => (outcome (c.send handle frame)).map fun delivery => (.sent delivery, c)
  | .sendAsync frame => (outcome (c.sendAsync handle frame)).map fun _ => (.done, c)

end Component

/-! ### Sessions -/

namespace Session

variable {s : Session ρ} {e : DriverError}

theorem outcome_checkFrame (frame : List UInt8) :
    outcome (checkFrame frame) = if isSendable frame then .ok () else .error .invalidArgument := by
  unfold checkFrame
  cases isSendable frame <;> simp [outcome_bind, Except.bind]

theorem outcome_checkSender (s : Session ρ) (operation : String) :
    outcome (s.checkSender operation) = if s.bus.isUnclaimedSink then .error .sentFailed else .ok () := by
  unfold checkSender
  cases s.bus.isUnclaimedSink <;> simp [outcome_bind, Except.bind]

theorem outcome_send (s : Session ρ) (frame : List UInt8) : outcome (s.send frame) =
    if isSendable frame then
      if s.bus.isUnclaimedSink then .error .sentFailed else .ok .unanswered
    else .error .invalidArgument := by
  unfold send
  cases hf : isSendable frame <;> cases hs : s.bus.isUnclaimedSink <;>
    simp [outcome_bind, outcome_checkFrame, outcome_checkSender, hf, hs, Except.bind]

theorem outcome_sendAsync (s : Session ρ) (frame : List UInt8) : outcome (s.sendAsync frame) =
    if isSendable frame then
      if s.bus.isUnclaimedSink || !s.hasConfirmer then .error .sentFailed else .ok ()
    else .error .invalidArgument := by
  unfold sendAsync
  cases hf : isSendable frame <;> cases hs : s.bus.isUnclaimedSink <;> cases hc : s.hasConfirmer <;>
    simp [outcome_bind, outcome_checkFrame, outcome_checkSender, hf, hs, Except.bind]

/-- A session refuses a call for its arguments or for what the bus allows, as long as there is an emulated device. -/
theorem isOnMerits_of_reply {device : Device} (hd : s.bus.emulatedDevice? = some device) {call : DriverCall ρ}
    (h : s.reply call = .error e) : e.isOnMerits = true := by
  cases call with
  | close | setReceiver | setConfirmer => cases h
  | physical | logical =>
    simp only [reply, Bus.device, hd] at h
    cases h
  | claim address =>
    rw [reply, Bus.outcome_claim hd] at h
    split_ifs at h <;> cases h <;> rfl
  | unclaim address =>
    rw [reply, Bus.outcome_unclaim hd] at h
    cases ho : device.own? <;> rw [ho] at h <;> split_ifs at h <;> cases h <;> rfl
  | send frame =>
    rw [reply, outcome_send] at h
    split_ifs at h <;> cases h <;> rfl
  | sendAsync frame =>
    rw [reply, outcome_sendAsync] at h
    split_ifs at h <;> cases h <;> rfl

end Session

/-! ### Components -/

theorem Registry.release?_of_resolves {r : Registry} {handle : Handle} (h : r.resolves handle = true) :
    ∃ r', r.release? handle = some r' := by
  rw [release?, if_pos h]
  exact ⟨_, rfl⟩

theorem Registry.release?_of_not_resolves {r : Registry} {handle : Handle} (h : r.resolves handle = false) :
    r.release? handle = none := by
  rw [release?, h, if_neg Bool.false_ne_true]

namespace Component

variable {c d : Component ρ} {handle : Handle} {s : Session ρ} {e : DriverError}

theorem outcome_ask {α : Type} (c : Component ρ) (handle : Handle) (f : Session ρ → Attempt DriverError α) :
    outcome (c.ask handle f) = (c.live handle).bind fun s => outcome (f s) := by
  rw [ask, outcome_bind, outcome_liftM_except]

theorem outcome_change (c : Component ρ) (handle : Handle) (f : Session ρ → Attempt DriverError (Session ρ)) :
    outcome (c.change handle f) =
      (c.live handle).bind fun s => (outcome (f s)).map fun s' => { c with session := some s' } := by
  rw [change, outcome_bind, outcome_liftM_except]
  congr
  funext s
  rw [outcome_bind]
  cases outcome (f s) <;> rfl

theorem outcome_retire (c : Component ρ) (handle : Handle) : outcome (c.retire handle) =
    (c.live handle).map fun s => (s.worker,
      { c with
        registry := (c.registry.release? handle).getD c.registry
        session := some { s with isReady := false, worker := none } }) := by
  unfold retire live
  cases hr : c.ready? with
  | none => simp [Except.map]
  | some s =>
    by_cases hh : s.handle = handle
    · cases hresolves : c.registry.resolves handle with
      | false => simp [hh, Registry.release?_of_not_resolves hresolves, Except.map]
      | true =>
        obtain ⟨registry, hrelease⟩ := Registry.release?_of_resolves hresolves
        cases hw : s.worker <;> simp [hh, hrelease, hw, Except.map]
    · simp [hh, Except.map]

/-- The component with what a call has made of its session. Closing takes the handle away too. -/
def withReply (c : Component ρ) (handle : Handle) (call : DriverCall ρ) (s : Session ρ) : Component ρ :=
  match call with
  | .close => { c with registry := (c.registry.release? handle).getD c.registry, session := some s }
  | _ => { c with session := some s }

/-- Every call asks first for the session that is live under its handle, and then leaves the answer to it. -/
theorem respond_eq (c : Component ρ) (handle : Handle) (call : DriverCall ρ) : c.respond handle call =
    (c.live handle).bind fun s => (s.reply call).map fun reply => (reply.1, c.withReply handle call reply.2) := by
  cases hl : c.live handle with
  | error e =>
    cases call <;> simp only [respond, outcome_retire, physical, logical, claim, unclaim, setReceiver, setConfirmer, send,
      sendAsync, outcome_ask, outcome_change, hl, Except.bind, Except.map]
  | ok s =>
    have hsame : c = { c with session := some s } := by rw [← (live_eq_ok.1 hl).1]
    cases call with
    | close => rw [respond, outcome_retire, hl]; rfl
    | physical | logical =>
      simp only [respond, physical, logical, outcome_ask, hl, Session.reply, Except.bind, outcome_bind,
        outcome_liftM_except, outcome_pure]
      cases s.bus.device <;> simp [Except.map, withReply, ← hsame]
    | claim address =>
      simp only [respond, claim, outcome_change, hl, Session.reply, Except.bind, outcome_bind, outcome_pure]
      cases outcome (s.bus.claim address) <;> rfl
    | unclaim address =>
      simp only [respond, unclaim, outcome_change, hl, Session.reply, Except.bind, outcome_bind, outcome_pure]
      cases outcome (s.bus.unclaim address) <;> rfl
    | setReceiver | setConfirmer =>
      simp only [respond, setReceiver, setConfirmer, outcome_change, hl, Session.reply, Except.bind, outcome_bind,
        outcome_report, outcome_pure]
      rfl
    | send frame =>
      simp only [respond, send, outcome_ask, hl, Session.reply, Except.bind]
      cases outcome (s.send frame) <;> simp [Except.map, withReply, ← hsame]
    | sendAsync frame =>
      simp only [respond, sendAsync, outcome_ask, hl, Session.reply, Except.bind]
      cases outcome (s.sendAsync frame) <;> simp [Except.map, withReply, ← hsame]

/-- A call is refused because its handle is not live, or by the session that is live under it. -/
theorem respond_eq_error {call : DriverCall ρ} : c.respond handle call = .error e ↔
    c.live handle = .error e ∨ ∃ s, c.live handle = .ok s ∧ s.reply call = .error e := by
  rw [respond_eq]
  cases c.live handle with
  | error e' => simp [Except.bind]
  | ok s => cases hr : s.reply call <;> simp [Except.bind, Except.map, hr]

theorem live_eq_error (h : c.live handle = .error e) :
    c.ready? = none ∧ e = .notOpened ∨ c.ready?.isSome = true ∧ e = .invalidHandle := by
  unfold live at h
  cases hr : c.ready? with
  | none =>
    rw [hr] at h
    cases h
    exact .inl ⟨rfl, rfl⟩
  | some s =>
    simp only [hr] at h
    split_ifs at h
    cases h
    exact .inr ⟨rfl, rfl⟩

/-- Only the first stage of closing a session fails with an error of the driver. -/
theorem live_of_perform_driver {thread : Option Nat} {stage : Stage}
    (h : outcome (c.perform thread stage) = .error (.driver e)) :
    ∃ handle, stage = .retire handle false ∧ c.live handle = .error e := by
  cases stage with
  | checkInitialized =>
    rw [perform] at h
    split_ifs at h <;> cases h
  | findSession nested =>
    rw [perform] at h
    cases hi : c.isInitialized <;> cases hs : c.setup.isSome <;> cases nested <;> simp [hi, hs] at h
  | retire handle nested =>
    rw [perform, retireStage, outcome_bind, outcome_liftM_logged, outcome_run, outcome_retire] at h
    cases hl : c.live handle with
    | ok s =>
      rw [hl] at h
      cases h
    | error e' =>
      rw [hl] at h
      cases nested with
      | true => cases h
      | false =>
        cases h
        exact ⟨handle, rfl, hl⟩
  | shutDown number =>
    rw [outcome_perform_shutDown] at h
    cases h
  | join | vacate | forgetSetup | clearInitialized => cases h

/-! ### Opening -/

/-- Whether the component may open sessions: it is initialized and has a set-up. -/
def isLoaded (c : Component ρ) : Bool := c.isInitialized && c.setup.isSome

theorem isSome_filter_setup (c : Component ρ) : (c.setup.filter fun _ => c.isInitialized).isSome = c.isLoaded := by
  unfold isLoaded
  cases c.setup <;> cases c.isInitialized <;> rfl

theorem tryOpen_of_not_isLoaded (hl : c.isLoaded = false) (fault : Option String) :
    (c.tryOpen fault).value = (.error .notOpened, c) := by
  rw [value_tryOpen]
  rw [← isSome_filter_setup, Option.isSome_eq_false_iff, Option.isNone_iff_eq_none] at hl
  rw [hl]

/-- A session is opened on a set-up and an initialized component. -/
theorem isLoaded_of_tryOpen {fault : Option String} {handle : Handle} (ho : (c.tryOpen fault).value = (.ok handle, d)) :
    d.isLoaded = true := by
  obtain ⟨-, setup, registry, bus, -, -, -, rfl⟩ := tryOpen_eq_ok ho
  cases hl : c.isLoaded with
  | true => exact hl
  | false =>
    rw [tryOpen_of_not_isLoaded hl] at ho
    cases ho

theorem tryOpen_of_isSome_session (hl : c.isLoaded = true) (hs : c.session.isSome = true) (fault : Option String) :
    (c.tryOpen fault).value = (.error .alreadyOpen, c) := by
  rw [← isSome_filter_setup] at hl
  obtain ⟨setup, hset⟩ := Option.isSome_iff_exists.1 hl
  rw [value_tryOpen, hset]
  exact if_pos hs

/-- With a set-up from an accepted profile and a slot that is free, opening comes down to starting the worker. -/
theorem exists_tryOpen_of_isLoaded (h : c.Founded) (hfree : c.session = none → c.registry.register?.isSome = true)
    (hl : c.isLoaded = true) (hs : c.session = none) (fault : Option String) :
    ∃ handle registry bus, c.registry.register? = some (handle, registry) ∧ (c.tryOpen fault).value =
      if fault.isSome then (.error .generalError, c.giveUp handle registry)
      else (.ok handle, c.withSession handle registry bus) := by
  rw [← isSome_filter_setup] at hl
  obtain ⟨setup, hset⟩ := Option.isSome_iff_exists.1 hl
  obtain ⟨⟨handle, registry⟩, hr⟩ := Option.isSome_iff_exists.1 (hfree hs)
  obtain ⟨p, hp⟩ := h.setup setup (Option.filter_eq_some_iff.1 hset).1
  obtain ⟨bus, hb⟩ := Option.isSome_iff_exists.1 (Bus.isSome_ofSetup_of_ofProfile hp)
  refine ⟨handle, registry, bus, hr, ?_⟩
  rw [value_tryOpen, hset, hs, hr]
  cases fault <;> simp [hb]

/-- When its set-up is from an accepted profile and a slot is free, opening fails for want of a set-up, because there is
a session, or because the worker cannot be started. Only then it has changed anything: a handle is used up. -/
theorem tryOpen_eq_error_iff (h : c.Founded) (hfree : c.session = none → c.registry.register?.isSome = true)
    {fault : Option String} : (c.tryOpen fault).value = (.error e, d) ↔
      c.isLoaded = false ∧ e = .notOpened ∧ d = c ∨
      c.isLoaded = true ∧ c.session.isSome = true ∧ e = .alreadyOpen ∧ d = c ∨
      c.isLoaded = true ∧ c.session = none ∧ fault.isSome = true ∧ e = .generalError ∧
        ∃ handle registry, c.registry.register? = some (handle, registry) ∧ d = c.giveUp handle registry := by
  cases hl : c.isLoaded with
  | false => simp [tryOpen_of_not_isLoaded hl, @eq_comm _ _ e, @eq_comm _ _ d]
  | true =>
    cases hs : c.session with
    | some s => simp [tryOpen_of_isSome_session hl (hs ▸ rfl), @eq_comm _ _ e, @eq_comm _ _ d]
    | none =>
      obtain ⟨handle, registry, bus, hr, hvalue⟩ := exists_tryOpen_of_isLoaded h hfree hl hs fault
      cases fault <;> simp [hvalue, hr, @eq_comm _ _ e, @eq_comm _ _ d]

/-- What the caller of an opening is told. -/
theorem map_tryOpen (h : c.Founded) (hfree : c.session = none → c.registry.register?.isSome = true)
    (fault : Option String) : (c.tryOpen fault).value.1.map (fun _ => ()) =
      if c.isLoaded then
        if c.session.isSome then .error .alreadyOpen else if fault.isSome then .error .generalError else .ok ()
      else .error .notOpened := by
  cases hl : c.isLoaded with
  | false => simp [tryOpen_of_not_isLoaded hl, Except.map]
  | true =>
    cases hs : c.session with
    | some s => simp [tryOpen_of_isSome_session hl (hs ▸ rfl), Except.map]
    | none =>
      obtain ⟨handle, registry, bus, -, hvalue⟩ := exists_tryOpen_of_isLoaded h hfree hl hs fault
      cases fault <;> simp [hvalue, Except.map]

/-- A worker comes exactly when a handle is issued, whether it can be started or not. -/
theorem length_openSession (c : Component ρ) (fault : Option String) : (c.after (.openSession fault)).workers.length =
    c.workers.length + if c.isLoaded ∧ c.session = none ∧ c.registry.register?.isSome then 1 else 0 := by
  rw [after, value_tryOpen, ← c.isSome_filter_setup]
  cases c.setup.filter fun _ => c.isInitialized with
  | none => simp
  | some setup =>
    cases hs : c.session with
    | some s => simp
    | none =>
      cases hr : c.registry.register? with
      | none => simp
      | some issued => cases hb : (Bus.ofSetup setup).value <;> cases fault <;> simp [hb, withSession, giveUp]

end Component

end CecBus
