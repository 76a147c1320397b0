import CecBus.Proofs.Component.Queues
import CecBus.Proofs.Component.System

/-! What most operations leave alone. Two components are alike if they have the same session as far as handle, readiness
and worker go, the same registry, and the same workers; a worker may have stopped. Every operation but opening a
session, and every step of a worker, leads to a component that is alike. -/

namespace CecBus

variable {ρ ε α : Type}

/-- What tells how far the life of a session has come. -/
def Session.outline (s : Session ρ) : Handle × Bool × Option Nat := (s.handle, s.isReady, s.worker)

namespace Component

variable {c d e : Component ρ} {worker : Nat} {q q' : Queue (Task ρ)}

/-- The life of the session and of the workers has come as far, but for workers that stop. -/
structure Alike (c d : Component ρ) : Prop where
  session : d.session.map Session.outline = c.session.map Session.outline
  registry : d.registry = c.registry
  length : d.workers.length = c.workers.length
  queues (worker : Nat) (q : Queue (Task ρ)) : c.workers[worker]? = some q →
    ∃ q', d.workers[worker]? = some q' ∧ (q.isStopped → q'.isStopped)

theorem Alike.refl (c : Component ρ) : c.Alike c := ⟨rfl, rfl, rfl, fun _ q h => ⟨q, h, id⟩⟩

theorem Alike.trans (h : c.Alike d) (h' : d.Alike e) : c.Alike e := by
  refine ⟨h'.session.trans h.session, h'.registry.trans h.registry, h'.length.trans h.length, fun worker q hq => ?_⟩
  obtain ⟨r, hr, hstopped⟩ := h.queues worker q hq
  obtain ⟨r', hr', hstopped'⟩ := h'.queues worker r hr
  exact ⟨r', hr', fun hs => hstopped' (hstopped hs)⟩

theorem Alike.isSome_session (h : c.Alike d) : d.session.isSome = c.session.isSome := by
  simpa using congrArg Option.isSome h.session

/-- The workers are the same, and the session changes at most in what it does. -/
structure Keeps (c d : Component ρ) : Prop where
  workers : d.workers = c.workers
  registry : d.registry = c.registry
  session : d.session.map Session.outline = c.session.map Session.outline

theorem Keeps.refl (c : Component ρ) : c.Keeps c := ⟨rfl, rfl, rfl⟩

theorem Keeps.alike (h : c.Keeps d) : c.Alike d :=
  ⟨h.session, h.registry, by rw [h.workers], fun _ q hq => ⟨q, by rw [h.workers, hq], id⟩⟩

theorem workers_setWorker (c : Component ρ) (worker other : Nat) (q : Queue (Task ρ)) :
    (c.setWorker worker q).workers[other]? =
      if worker = other then (c.workers[other]?).map fun _ => q else c.workers[other]? := by
  rw [setWorker, List.getElem?_set']
  rfl

theorem alike_setWorker (hq : c.workers[worker]? = some q) (hstopped : q.isStopped → q'.isStopped) :
    c.Alike (c.setWorker worker q') := by
  refine ⟨rfl, rfl, List.length_set, fun other r hr => ?_⟩
  rw [workers_setWorker]
  by_cases hw : worker = other
  · subst hw
    rw [hq] at hr
    cases hr
    exact ⟨q', by rw [if_pos rfl, hq]; rfl, hstopped⟩
  · exact ⟨r, by rw [if_neg hw, hr], id⟩

/-! ### Operations of a driver -/

theorem ready?_eq_some {s : Session ρ} : c.ready? = some s ↔ c.session = some s ∧ s.isReady = true :=
  Option.filter_eq_some_iff

/-- A handle is live while its session is ready and the registry knows it. -/
theorem live_eq_ok {handle : Handle} {s : Session ρ} : c.live handle = .ok s ↔
    c.session = some s ∧ s.isReady = true ∧ s.handle = handle ∧ c.registry.resolves handle = true := by
  unfold live
  cases hr : c.ready? with
  | none =>
    refine ⟨nofun, fun h => ?_⟩
    rw [ready?_eq_some.2 ⟨h.1, h.2.1⟩] at hr
    cases hr
  | some s' =>
    obtain ⟨hs, hready⟩ := ready?_eq_some.1 hr
    simp only [hs, Option.some.injEq]
    split
    · next hhandle =>
      simp only [Bool.and_eq_true, decide_eq_true_eq] at hhandle
      constructor
      · rintro ⟨⟩
        exact ⟨rfl, hready, hhandle⟩
      · rintro ⟨rfl, -⟩
        rfl
    · next hhandle =>
      refine ⟨nofun, ?_⟩
      rintro ⟨rfl, -, h⟩
      exact absurd h (by simpa using hhandle)

theorem change_eq_ok {handle : Handle} {f : Session ρ → Attempt DriverError (Session ρ)} :
    outcome (c.change handle f) = .ok d ↔
      ∃ s s', c.live handle = .ok s ∧ outcome (f s) = .ok s' ∧ d = { c with session := some s' } := by
  simp only [change, outcome_bind_eq_ok, outcome_liftM_except, outcome_pure, Except.ok.injEq, @eq_comm _ d]
  constructor
  · rintro ⟨s, hs, s', hf, hd⟩
    exact ⟨s, s', hs, hf, hd⟩
  · rintro ⟨s, s', hs, hf, hd⟩
    exact ⟨s, hs, s', hf, hd⟩

theorem orKeep_induct {P : Component ρ → Prop} {x : Attempt ε (Component ρ)} (hkeep : P c)
    (hok : ∀ d, outcome x = .ok d → P d) : P (c.orKeep x) := by
  unfold orKeep
  split
  · next h => exact hok _ h
  · exact hkeep

theorem keeps_change {handle : Handle} {f : Session ρ → Attempt DriverError (Session ρ)}
    (hf : ∀ s s', outcome (f s) = .ok s' → s'.outline = s.outline) : c.Keeps (c.orKeep (c.change handle f)) := by
  refine orKeep_induct (.refl c) fun d hd => ?_
  obtain ⟨s, s', hlive, hs', rfl⟩ := change_eq_ok.1 hd
  refine ⟨rfl, rfl, ?_⟩
  rw [(live_eq_ok.1 hlive).1, Option.map_some, Option.map_some, hf s s' hs']

theorem outline_bus {x : Attempt DriverError Bus} {s s' : Session ρ}
    (h : outcome (do pure { s with bus := ← x } : Attempt DriverError (Session ρ)) = .ok s') :
    s'.outline = s.outline := by
  rw [outcome_bind_eq_ok] at h
  obtain ⟨bus, -, hs⟩ := h
  rw [outcome_pure] at hs
  cases hs
  rfl

/-! ### Handing messages in -/

theorem enqueue_value (c : Component ρ) (message : Message) :
    (c.enqueue message).value = (.error .notReady, c) ∨ ∃ s worker queue, c.session = some s ∧ s.isReady = true ∧
      s.worker = some worker ∧ c.workers[worker]? = some queue ∧
      (c.enqueue message).value =
        ((queue.enqueue message).value.1.mapError DeliveryError.queue,
          c.setWorker worker (queue.enqueue message).value.2) := by
  unfold enqueue
  cases hr : c.ready? with
  | none => simp
  | some s =>
    obtain ⟨hs, hready⟩ := ready?_eq_some.1 hr
    cases hw : s.worker with
    | none => simp [hw]
    | some worker =>
      cases hq : c.workers[worker]? with
      | none => simp [hw, hq]
      | some queue =>
        refine .inr ⟨s, worker, queue, hs, hready, hw, hq, ?_⟩
        simp [hw, hq]

theorem alike_enqueue (c : Component ρ) (message : Message) : c.Alike (c.enqueue message).value.2 := by
  rcases c.enqueue_value message with h | ⟨s, worker, queue, -, -, -, hq, h⟩
  · rw [h]
    exact .refl c
  · rw [h]
    obtain ⟨-, -, -, hphase⟩ := Queue.value_enqueue queue message
    exact alike_setWorker hq fun hs => by rwa [Queue.isStopped_congr hphase]

/-- Handing in the message of an operation is all that the operation does. -/
theorem after_of_message? {r : Operation ρ} {message : Message} (h : r.message? = some message) :
    c.after r = (c.enqueue message).value.2 ∧ message ≠ .exit := by
  cases r with
  | deliver topic payload =>
    obtain ⟨kind, hkind, rfl⟩ := Option.map_eq_some_iff.1 h
    exact ⟨by simp [after, deliver, hkind], nofun⟩
  | deliverDocument payload =>
    obtain ⟨kind, hkind, rfl⟩ := Option.map_eq_some_iff.1 h
    cases hk : (kindOf payload) with
    | error e => simp [hk, Except.toOption] at hkind
    | ok other =>
      rw [hk] at hkind
      cases hkind
      exact ⟨by simp [after, deliverDocument, hk], nofun⟩
  | _ => cases h

/-! ### The other operations -/

theorem activate_eq_ok : outcome c.activate = .ok d ↔ c.isInitialized = false ∧ d = { c with isInitialized := true } := by
  unfold activate
  cases c.isInitialized <;> simp [@eq_comm _ _ d]

theorem load_eq_ok {source : String} {p : Profile} : outcome (c.load source p) = .ok d ↔ c.isInitialized = true ∧
    (c.setup.isSome = true ∧ d = c ∨
      c.setup = none ∧ ∃ setup, outcome (Setup.ofProfile p) = .ok setup ∧ d = { c with setup := some setup }) := by
  unfold load
  cases hi : c.isInitialized with
  | false => simp
  | true => cases hs : c.setup <;> simp [@eq_comm _ _ d]

theorem loadFile_eq_ok {path : String} {content : Except FileFault ByteArray} :
    outcome (c.loadFile path content) = .ok d ↔
      ∃ p, profileOfFile path content = .ok p ∧ outcome (c.load path p) = .ok d := by
  unfold loadFile
  cases hi : c.isInitialized with
  | false =>
    have hload : ∀ p, outcome (c.load path p) ≠ .ok d := fun p h => by
      rw [load_eq_ok, hi] at h
      cases h.1
    simp [hload]
  | true => cases hp : profileOfFile path content <;> simp

theorem keeps_of_load {source : String} {p : Profile} (h : outcome (c.load source p) = .ok d) : c.Keeps d := by
  obtain ⟨-, ⟨-, rfl⟩ | ⟨-, setup, -, rfl⟩⟩ := load_eq_ok.1 h
  · exact .refl d
  · exact ⟨rfl, rfl, rfl⟩

/-- An operation that hands no message in and opens no session keeps the workers and their session. -/
theorem keeps_after {r : Operation ρ} (hm : r.message? = none) (hr : ∀ fault, r ≠ .openSession fault) :
    c.Keeps (c.after r) := by
  cases r with
  | deliver topic payload =>
    have hkind := Option.map_eq_none_iff.1 hm
    simp only [after, deliver, hkind]
    exact .refl c
  | deliverDocument payload =>
    cases hk : kindOf payload with
    | ok kind => simp [Operation.message?, hk, Except.toOption] at hm
    | error e =>
      simp only [after, deliverDocument, hk]
      exact .refl c
  | physical | logical | send | sendAsync => exact .refl c
  | claim handle address => exact keeps_change fun s s' h => outline_bus h
  | unclaim handle address => exact keeps_change fun s s' h => outline_bus h
  | setReceiver handle receiver =>
    refine keeps_change fun s s' h => ?_
    simp only [outcome_bind_eq_ok, outcome_pure, Except.ok.injEq] at h
    obtain ⟨-, -, rfl⟩ := h
    rfl
  | setConfirmer handle isSet =>
    refine keeps_change fun s s' h => ?_
    simp only [outcome_bind_eq_ok, outcome_pure, Except.ok.injEq] at h
    obtain ⟨-, -, rfl⟩ := h
    rfl
  | openSession fault => exact absurd rfl (hr fault)
  | activate =>
    refine orKeep_induct (.refl c) fun d hd => ?_
    obtain ⟨-, rfl⟩ := activate_eq_ok.1 hd
    exact ⟨rfl, rfl, rfl⟩
  | loadProfile p => exact orKeep_induct (.refl c) fun d hd => keeps_of_load hd
  | loadFile path content =>
    refine orKeep_induct (.refl c) fun d hd => ?_
    obtain ⟨p, -, hload⟩ := loadFile_eq_ok.1 hd
    exact keeps_of_load hload

/-- No operation but opening a session brings its life further. -/
theorem alike_after {r : Operation ρ} (hr : ∀ fault, r ≠ .openSession fault) : c.Alike (c.after r) := by
  cases hm : r.message? with
  | none => exact (keeps_after hm hr).alike
  | some message =>
    rw [(after_of_message? hm).1]
    exact c.alike_enqueue message

/-! ### Opening a session -/

/-- The component with a session that was opened on a bus. -/
def withSession (c : Component ρ) (handle : Handle) (registry : Registry) (bus : Bus) : Component ρ :=
  { c with
    registry
    session := some { handle, bus, worker := some c.workers.length }
    workers := c.workers ++ [Queue.ofCapacity Queue.usualCapacity] }

theorem value_tryOpen (c : Component ρ) (fault : Option String) : (c.tryOpen fault).value =
    match c.setup.filter fun _ => c.isInitialized with
    | none => (.error .notOpened, c)
    | some setup =>
      if c.session.isSome then (.error .alreadyOpen, c)
      else
        match c.registry.register?, (Bus.ofSetup setup).value, fault with
        | none, _, _ => (.error .generalError, c)
        | some (handle, registry), some bus, none => (.ok handle, c.withSession handle registry bus)
        | some (handle, registry), _, _ => (.error .generalError, c.giveUp handle registry) := by
  unfold tryOpen
  cases hset : c.setup.filter fun _ => c.isInitialized with
  | none => rfl
  | some setup =>
    cases hs : c.session with
    | some s => simp
    | none =>
      cases hr : c.registry.register? with
      | none => simp
      | some issued => cases hb : (Bus.ofSetup setup).value <;> cases fault <;> simp [hb, withSession]

theorem tryOpen_eq_ok {fault : Option String} {handle : Handle} (h : (c.tryOpen fault).value = (.ok handle, d)) :
    c.session = none ∧ ∃ setup registry bus, c.setup = some setup ∧ (Bus.ofSetup setup).value = some bus ∧
      c.registry.register? = some (handle, registry) ∧ d = c.withSession handle registry bus := by
  rw [value_tryOpen] at h
  split at h
  · cases h
  · next setup hset =>
    split_ifs at h with hs
    · cases h
    · split at h <;> cases h
      next registry bus hb hr =>
      exact ⟨by simpa using hs, setup, registry, bus, (Option.filter_eq_some_iff.1 hset).1, hb, hr, rfl⟩

/-- What opening a session comes to when it fails: nothing has changed, or a handle was used up. -/
theorem tryOpen_eq_error {fault : Option String} {e : DriverError} (h : (c.tryOpen fault).value = (.error e, d)) :
    d = c ∨ c.session = none ∧ ∃ handle registry, c.registry.register? = some (handle, registry) ∧
      d = c.giveUp handle registry := by
  rw [value_tryOpen] at h
  split at h
  · cases h
    exact .inl rfl
  · split_ifs at h with hs
    · cases h
      exact .inl rfl
    · split at h <;> cases h
      · exact .inl rfl
      · next handle registry hr _ =>
        exact .inr ⟨by simpa using hs, handle, registry, hr, rfl⟩

theorem ready?_giveUp (hnone : c.session = none) {handle : Handle} {registry : Registry} :
    (c.giveUp handle registry).ready? = none := by
  rw [ready?, giveUp, hnone]
  rfl

/-- What holds before a session is to be opened holds afterwards, if it outlasts both ways that this can change the
component. -/
theorem after_openSession_induct {P : Component ρ → Prop} {fault : Option String} (hsame : P c)
    (hgiven : ∀ handle registry, c.session = none → c.registry.register? = some (handle, registry) →
      P (c.giveUp handle registry))
    (hopened : ∀ handle d, (c.tryOpen fault).value = (.ok handle, d) → P d) : P (c.after (.openSession fault)) := by
  rw [after]
  cases ho : (c.tryOpen fault).value with
  | mk result d =>
    cases result with
    | ok handle => exact hopened handle d ho
    | error e =>
      obtain rfl | ⟨hnone, handle, registry, hregister, rfl⟩ := tryOpen_eq_error ho
      · exact hsame
      · exact hgiven handle registry hnone hregister

/-- Opening a session at most adds a worker, which calls no receiver. -/
theorem exists_workers_openSession (c : Component ρ) (fault : Option String) :
    ∃ more, (c.after (.openSession fault)).workers = c.workers ++ more ∧ ∀ q ∈ more, q.call? = none := by
  refine after_openSession_induct (P := fun d => ∃ more, d.workers = c.workers ++ more ∧ ∀ q ∈ more, q.call? = none)
    ⟨[], (List.append_nil _).symm, nofun⟩
    (fun handle registry _ _ => ⟨[Queue.unstarted], rfl, by simp [Queue.call?, Queue.unstarted]⟩) fun handle d ho => ?_
  obtain ⟨-, setup, registry, bus, -, -, -, rfl⟩ := tryOpen_eq_ok ho
  exact ⟨[Queue.ofCapacity Queue.usualCapacity], rfl, by simp [Queue.call?, Queue.ofCapacity]⟩

/-- The session that is there after opening one, where there was none, has a worker that joined the others. -/
theorem length_of_session_openSession {fault : Option String} {session : Session ρ} (hnone : c.session = none)
    (hs : (c.after (.openSession fault)).session = some session) :
    (c.after (.openSession fault)).workers.length = c.workers.length + 1 ∧ session.isReady = true := by
  revert hs
  refine after_openSession_induct
    (P := fun d => d.session = some session → d.workers.length = c.workers.length + 1 ∧ session.isReady = true)
    (fun hs => by rw [hnone] at hs; cases hs) (fun _ _ _ _ hs => by rw [giveUp, hnone] at hs; cases hs)
    fun handle d ho hs => ?_
  obtain ⟨-, setup, registry, bus, -, -, -, rfl⟩ := tryOpen_eq_ok ho
  cases hs
  exact ⟨List.length_append, rfl⟩

/-! ### Steps of the workers -/

/-- The component after a message was handled against its session. -/
def withHandled (c : Component ρ) (kind : MessageKind) (payload : ByteArray) : Component ρ :=
  { c with session := c.session.map fun s => { s with bus := (s.bus.handle kind payload).value.2 } }

theorem keeps_withHandled (c : Component ρ) (kind : MessageKind) (payload : ByteArray) :
    c.Keeps (c.withHandled kind payload) := by
  refine ⟨rfl, rfl, ?_⟩
  rw [withHandled, Option.map_map]
  rfl

/-- A queue whose worker is done with the message that it held, or calls the receiver. -/
structure HandledQueue (q q' : Queue (Task ρ)) (call : Option (ρ × Handle × List UInt8)) : Prop where
  waiting : q'.waiting = q.waiting
  isOpen : q'.isOpen = q.isOpen
  held : q'.held = []
  running : q'.isStopped = false
  call : q'.call? = call

theorem handledQueue_finish (q : Queue (Task ρ)) : HandledQueue q q.finish none := ⟨rfl, rfl, rfl, rfl, rfl⟩

theorem handling?_of_holding {kind : MessageKind} {payload : ByteArray} (hq : c.workers[worker]? = some q)
    (hphase : q.phase = .busy (.holding kind payload)) :
    c.handling? worker = some (c.handling worker kind payload) := by
  rw [handling?, hq, Option.map_some, hphase]

/-- What handling a message comes to: the session changes its bus, and the worker is done or calls the receiver. -/
theorem dispatch_value (c : Component ρ) (worker : Nat) (q : Queue (Task ρ)) (kind : MessageKind)
    (payload : ByteArray) : ∃ q', HandledQueue q q' (c.handling worker kind payload).call? ∧
      (c.dispatch worker q kind payload).value = (c.withHandled kind payload).setWorker worker q' := by
  unfold dispatch Handling.call? handling
  cases hs : c.session with
  | none =>
    have hsame : c.withHandled kind payload = c := by
      rw [withHandled, hs, Option.map_none, ← hs]
    exact ⟨q.finish, handledQueue_finish q, by simp [hsame]⟩
  | some s =>
    have hbus : c.setBus (s.bus.handle kind payload).value.2 = c.withHandled kind payload := by
      simp [withHandled, setBus, hs]
    cases hf : (s.bus.handle kind payload).value.1 with
    | none =>
      refine ⟨q.finish, by cases s.receiver <;> simp [hf, handledQueue_finish], ?_⟩
      simp [hf, hbus]
    | some frame =>
      cases hr : s.receiver with
      | none => exact ⟨q.finish, by simp [hr, handledQueue_finish], by simp [hf, hr, hbus]⟩
      | some receiver =>
        exact ⟨{ q with phase := .busy (.calling receiver s.handle frame.bytes) },
          ⟨rfl, rfl, rfl, rfl, by simp [Queue.call?, hr, hf]⟩, by simp [hf, hr, hbus]⟩

theorem work?_eq_some {step : Logged (Component ρ)} (h : c.work? worker = some step) :
    ∃ q, c.workers[worker]? = some q ∧
      ((∃ kind payload, q.phase = .busy (.holding kind payload) ∧ step = c.dispatch worker q kind payload) ∨
        c.handling? worker = none ∧
          ∃ received, q.receive? Task.holding = some received ∧ step.value = c.setWorker worker received.value) := by
  unfold work? at h
  cases hq : c.workers[worker]? with
  | none => simp [hq] at h
  | some q =>
    refine ⟨q, rfl, ?_⟩
    simp only [hq] at h
    split at h
    · next kind payload hphase =>
      cases h
      exact .inl ⟨kind, payload, hphase, rfl⟩
    · next hphase =>
      obtain ⟨received, hreceived, rfl⟩ := Option.map_eq_some_iff.1 h
      refine .inr ⟨?_, received, hreceived, rfl⟩
      unfold handling?
      rw [hq, Option.map_some]
      split
      · next kind payload hp => exact absurd (Option.some.inj hp) (hphase kind payload)
      · rfl

theorem alike_work {step : Logged (Component ρ)} (h : c.work? worker = some step) : c.Alike step.value := by
  obtain ⟨q, hq, ⟨kind, payload, hphase, rfl⟩ | ⟨-, received, hreceived, hstep⟩⟩ := work?_eq_some h
  · obtain ⟨q', hhandled, hvalue⟩ := c.dispatch_value worker q kind payload
    rw [hvalue]
    refine (c.keeps_withHandled kind payload).alike.trans (alike_setWorker (q := q) hq fun hs => ?_)
    rw [Queue.isStopped_of_busy hphase] at hs
    cases hs
  · rw [hstep]
    obtain ⟨-, hphase, -⟩ := Queue.receive?_spec hreceived
    refine alike_setWorker hq fun hs => ?_
    rw [Queue.isStopped_of_idle hphase] at hs
    cases hs

theorem calling?_eq_some {call : ρ × Handle × List UInt8} :
    c.calling? worker = some call ↔ ∃ q, c.workers[worker]? = some q ∧ q.call? = some call := by
  unfold calling? Queue.call?
  cases hq : c.workers[worker]? with
  | none => simp
  | some q =>
    simp only [Option.map_some, Option.some.injEq, exists_eq_left']
    cases q.phase with
    | busy task => cases task <;> simp
    | idle => simp
    | stopped => simp

theorem resume_of_calling (hq : c.workers[worker]? = some q) (hcall : q.call?.isSome) :
    c.resume worker = c.setWorker worker q.finish := by
  obtain ⟨call, hcall⟩ := Option.isSome_iff_exists.1 hcall
  have hcalling := calling?_eq_some.2 ⟨q, hq, hcall⟩
  rw [resume, hcalling, hq]

theorem alike_resume (hq : c.workers[worker]? = some q) (hcall : q.call?.isSome) : c.Alike (c.resume worker) := by
  rw [resume_of_calling hq hcall]
  refine alike_setWorker hq fun hs => ?_
  rw [Queue.isStopped_of_call? hcall] at hs
  cases hs

theorem alike_of_closesTo (hq : c.workers[worker]? = some q) (h : q.ClosesTo q') : c.Alike (c.setWorker worker q') :=
  alike_setWorker hq fun hs => by rwa [Queue.isStopped_congr h.phase]

end Component

end CecBus
