import CecBus.Proofs.Component.Progress
import CecBus.Proofs.Component.Unfailing

/-! The phases of a component when calls are made one after the other and no receiver makes a call. Between calls a
component is in one of four phases, which tell whether it is initialized, has a set-up and has a session, and whose
handle is live. What a call comes to follows from the phase, from what is given to the call, from whether the queue is
full, and from whether a worker can be started (`Phase.verdict`); a call that succeeds leads to `Phase.after`, and a
refusal changes neither phase nor set-up.
Here this is shown of the calls that are done in one step: `System.Attainable.answer_eq`,
`Component.InPhase.after_of_ok` and `Component.after_of_error`. -/

namespace CecBus

variable {ρ : Type}

/-! ### Phases and verdicts -/

/-- How far a component has been brought. -/
inductive Phase where
  | uninitialized
  | initialized
  | loaded
  | ready
  deriving DecidableEq, Repr

/-- What holds of a component between calls in a phase. The handle of the session is live, and no other. -/
structure Component.InPhase (c : Component ρ) (phase : Phase) : Prop where
  isInitialized : c.isInitialized = true ↔ phase ≠ .uninitialized
  setup : c.setup.isSome = true ↔ phase = .loaded ∨ phase = .ready
  session : c.session.isSome = true ↔ phase = .ready
  state : c.sessionState = if phase = .ready then .ready else .closed
  live (handle : Handle) : c.registry.resolves handle = true ↔ c.session.map Session.handle = some handle

/-- A call that brings a component from one phase to another, or that hands a message in. -/
inductive Call where
  | activate
  | loadProfile (p : Profile)
  | loadFile (path : String) (content : Except FileFault ByteArray)
  | openSession (fault : Option String)
  | deliver (topic : String) (payload : ByteArray)
  | deliverDocument (payload : ByteArray)
  | close (closing : Closing)

/-- Why a call is refused. -/
inductive Refusal where
  | component (error : ComponentError)
  | driver (error : DriverError)
  | delivery (error : DeliveryError)

def CallError.refusal : CallError → Refusal
  | .component error => .component error
  | .driver error => .driver error

namespace Phase

/-- What loading comes to. Once there is a set-up, a profile only has to be readable. -/
def load (phase : Phase) (read : Except ProfileError Profile) : Except ComponentError Unit :=
  match phase, read with
  | .uninitialized, _ => .error .notInitialized
  | _, .error e => .error (.setup (.profile e))
  | .initialized, .ok p => ((outcome (Setup.ofProfile p)).mapError .setup).map fun _ => ()
  | _, .ok _ => .ok ()

def enqueue (phase : Phase) (isFull : Bool) (message : Message) : Except DeliveryError Unit :=
  if phase = .ready then if isFull then .error (.queue (.full message)) else .ok () else .error .notReady

/-- What opening a session comes to, when its worker starts or does not. -/
def openSession (phase : Phase) (starts : Bool) : Except DriverError Unit :=
  match phase with
  | uninitialized | initialized => .error .notOpened
  | loaded => if starts then .ok () else .error .generalError
  | ready => .error .alreadyOpen

/-- What closing comes to. -/
def close (phase : Phase) (live : Option Handle) : Closing → Except Refusal Unit
  | .session handle =>
    if phase = .ready then if live = some handle then .ok () else .error (.driver .invalidHandle)
    else .error (.driver .notOpened)
  | .component =>
    match phase with
    | uninitialized => .error (.component .notInitialized)
    | initialized => .error (.component .notOpened)
    | loaded | ready => .ok ()
  | .deactivate => if phase = .uninitialized then .error (.component .notInitialized) else .ok ()

/-- What a call comes to. Of the component it takes the phase, the handle that is live, and whether the queue is full;
of the system, whether it starts a worker. -/
def verdict (phase : Phase) (live : Option Handle) (isFull : Bool) : Call → Except Refusal Unit
  | .activate => if phase = .uninitialized then .ok () else .error (.component .alreadyInitialized)
  | .loadProfile p => (phase.load (.ok p)).mapError .component
  | .loadFile path content => (phase.load (Component.profileOfFile path content)).mapError .component
  | .openSession fault => (phase.openSession fault.isNone).mapError .driver
  | .deliver topic payload =>
    match MessageKind.ofTopic? topic with
    | none => .error (.delivery (.unknownTopic topic))
    | some kind => (phase.enqueue isFull (.control kind payload)).mapError .delivery
  | .deliverDocument payload =>
    match Component.kindOf payload with
    | .error e => .error (.delivery e)
    | .ok kind => (phase.enqueue isFull (.control kind payload)).mapError .delivery
  | .close closing => phase.close live closing

/-- The phase after a call that succeeds. -/
def after (phase : Phase) : Call → Phase
  | .activate | .close .component => initialized
  | .loadProfile _ | .loadFile .. => if phase = initialized then loaded else phase
  | .openSession _ => ready
  | .deliver .. | .deliverDocument _ => phase
  | .close (.session _) => loaded
  | .close .deactivate => uninitialized

/-- Whether a component in a phase is initialized, has a set-up and has a session. -/
def flags : Phase → Bool × Bool × Bool
  | uninitialized => (false, false, false)
  | initialized => (true, false, false)
  | loaded => (true, true, false)
  | ready => (true, true, true)

theorem flags_injective {phase other : Phase} (h : phase.flags = other.flags) : phase = other := by
  cases phase <;> cases other <;> first | rfl | cases h

end Phase

def Setup.ofProfile? (p : Profile) : Option Setup := (outcome (Setup.ofProfile p)).toOption

def Setup.ofFile? (path : String) (content : Except FileFault ByteArray) : Option Setup :=
  (Component.profileOfFile path content).toOption.bind ofProfile?

/-- The set-up after a call that succeeds. The first one that is loaded stays until the component is closed. -/
def Call.setupAfter (setup : Option Setup) : Call → Option Setup
  | .loadProfile p => setup.or (Setup.ofProfile? p)
  | .loadFile path content => setup.or (Setup.ofFile? path content)
  | .close .component | .close .deactivate => none
  | _ => setup

def Call.isLoad : Call → Bool
  | .loadProfile _ | .loadFile .. => true
  | _ => false

/-! ### What the caller is told -/

def verdictOf {ε α : Type} (refusal : ε → Refusal) (x : Attempt ε α) : Except Refusal Unit :=
  ((outcome x).map fun _ => ()).mapError refusal

/-- What the caller of an operation is told. -/
def Component.answer (c : Component ρ) : Operation ρ → Except Refusal Unit
  | .deliver topic payload => (c.deliver topic payload).value.1.mapError .delivery
  | .deliverDocument payload => (c.deliverDocument payload).value.1.mapError .delivery
  | .physical handle => verdictOf .driver (c.physical handle)
  | .logical handle => verdictOf .driver (c.logical handle)
  | .claim handle address => verdictOf .driver (c.claim handle address)
  | .unclaim handle address => verdictOf .driver (c.unclaim handle address)
  | .setReceiver handle receiver => verdictOf .driver (c.setReceiver handle receiver)
  | .setConfirmer handle isSet => verdictOf .driver (c.setConfirmer handle isSet)
  | .send handle frame => verdictOf .driver (c.send handle frame)
  | .sendAsync handle frame => verdictOf .driver (c.sendAsync handle frame)
  | .openSession fault => ((c.tryOpen fault).value.1.map fun _ => ()).mapError .driver
  | .activate => verdictOf .component c.activate
  | .loadProfile p => verdictOf .component (c.loadProfile p)
  | .loadFile path content => verdictOf .component (c.loadFile path content)

/-- The event with which a call begins. -/
def Call.event : Call → Event ρ
  | .activate => .request none .activate
  | .loadProfile p => .request none (.loadProfile p)
  | .loadFile path content => .request none (.loadFile path content)
  | .openSession fault => .request none (.openSession fault)
  | .deliver topic payload => .request none (.deliver topic payload)
  | .deliverDocument payload => .request none (.deliverDocument payload)
  | .close closing => .start none closing

def Component.isCrowded (c : Component ρ) : Bool := c.queue?.any Queue.isFull

/-! ### Components between calls -/

theorem Registry.resolves_atSession_iff {number : Nat} {isLive : Bool} {handle : Handle} :
    (atSession number isLive).resolves handle = true ↔ isLive = true ∧ handle = .ofSession number := by
  obtain ⟨index, generation⟩ := handle
  rw [Handle.ofSession, Handle.mk.injEq]
  by_cases hindex : index = 0
  · subst hindex
    show (isLive && decide (UInt32.ofNat number = generation)) = true ↔ _
    rw [Bool.and_eq_true, decide_eq_true_iff, eq_comm (a := generation)]
    exact and_congr_right fun _ => ⟨fun h => ⟨rfl, h⟩, And.right⟩
  · have hbeyond : ∃ n, index.toNat = n + 1 :=
      Nat.exists_eq_succ_of_ne_zero fun h => hindex (UInt32.toNat_inj.1 h)
    obtain ⟨n, hn⟩ := hbeyond
    have hfalse : (atSession number isLive).resolves ⟨index, generation⟩ = false := by
      show (([⟨UInt32.ofNat number, isLive⟩] : List Slot)[index.toNat]?).any _ = false
      rw [hn]
      rfl
    rw [hfalse]
    exact ⟨fun h => absurd h Bool.false_ne_true, fun h => absurd h.2.1 hindex⟩

namespace Component

variable {c d : Component ρ} {phase other : Phase} {stages : Option Nat → List Stage} {detached : List Nat}

def flags (c : Component ρ) : Bool × Bool × Bool := (c.isInitialized, c.setup.isSome, c.session.isSome)

theorem InPhase.flags_eq (h : c.InPhase phase) : c.flags = phase.flags := by
  have hinitialized := h.isInitialized
  have hsetup := h.setup
  have hsession := h.session
  rw [Component.flags]
  cases phase <;> simp_all [Phase.flags]

/-- The phases are told apart by what is there. -/
theorem InPhase.of_flags (h : c.InPhase phase) (hflags : c.flags = other.flags) : c.InPhase other := by
  have hsame : phase = other := Phase.flags_injective (h.flags_eq.symm.trans hflags)
  rwa [← hsame]

theorem exists_inPhase (hlayered : c.Layered) (hlife : Life c stages detached)
    (hcalm : ∀ thread, Calm (stages thread)) : ∃ phase, c.InPhase phase := by
  have hflags : ∃ phase : Phase, phase.flags = c.flags := by
    rw [flags]
    have hsetup := hlayered.setup
    have hinitialized := hlayered.initialized
    cases hi : c.isInitialized with
    | false =>
      refine ⟨.uninitialized, ?_⟩
      simp_all [Phase.flags]
    | true =>
      cases hs : c.setup.isSome with
      | false =>
        refine ⟨.initialized, ?_⟩
        simp_all [Phase.flags]
      | true =>
        cases hn : c.session.isSome with
        | false => exact ⟨.loaded, rfl⟩
        | true => exact ⟨.ready, rfl⟩
  obtain ⟨phase, hflags⟩ := hflags
  have hfits : (phase ≠ .uninitialized ↔ c.isInitialized = true) ∧
      (phase = .loaded ∨ phase = .ready ↔ c.setup.isSome = true) ∧ (phase = .ready ↔ c.session.isSome = true) := by
    rw [flags] at hflags
    cases phase <;> simp_all [Phase.flags]
  obtain ⟨hinitialized, hsetup, hsession⟩ := hfits
  refine ⟨phase, hinitialized.symm, hsetup.symm, hsession.symm, ?_, ?_⟩
  · cases hlife with
    | vacant h =>
      have hphase : phase ≠ .ready := fun he => by
        have hsome := hsession.1 he
        rw [h.session] at hsome
        cases hsome
      rw [sessionState, h.session, if_neg hphase]
    | ready number s h =>
      rw [sessionState, h.session, if_pos (hsession.2 (by rw [h.session]; rfl))]
      exact if_pos h.isReady
    | closing number s owner teardown rest h => exact absurd (hcalm owner) h.not_calm
  · intro handle
    cases hlife with
    | vacant h =>
      rw [h.registry, h.session, Registry.resolves_atSession_iff]
      exact ⟨fun h => absurd h.1 Bool.false_ne_true, nofun⟩
    | ready number s h =>
      rw [h.registry, h.session, Registry.resolves_atSession_iff, Option.map_some, h.handle, Option.some.injEq]
      exact ⟨fun h => h.2.symm, fun h => ⟨rfl, h.symm⟩⟩
    | closing number s owner teardown rest h => exact absurd (hcalm owner) h.not_calm

theorem Alike.handle_eq (h : c.Alike d) : d.session.map Session.handle = c.session.map Session.handle := by
  have houtline := congrArg (Option.map Prod.fst) h.session
  rwa [Option.map_map, Option.map_map] at houtline

theorem Alike.sessionState_eq (h : c.Alike d) : d.sessionState = c.sessionState := by
  cases hs : c.session with
  | none =>
    have hsession := h.session
    rw [hs, Option.map_none, Option.map_eq_none_iff] at hsession
    rw [sessionState, sessionState, hs, hsession]
  | some s =>
    obtain ⟨s', hs', -, hready, -⟩ := h.exists_session hs
    simp only [sessionState, hs, hs', hready]

theorem InPhase.alike (h : c.InPhase phase) (ha : c.Alike d) (hstanding : d.standing = c.standing) :
    d.InPhase phase := by
  obtain ⟨hinitialized, hsetup⟩ := Prod.mk.inj hstanding
  refine ⟨?_, ?_, ?_, ?_, ?_⟩
  · rw [hinitialized]
    exact h.isInitialized
  · rw [hsetup]
    exact h.setup
  · rw [ha.isSome_session]
    exact h.session
  · rw [ha.sessionState_eq]
    exact h.state
  · intro handle
    rw [ha.handle_eq, ha.registry]
    exact h.live handle

theorem exists_ready_of_sessionState (h : c.sessionState = .ready) : ∃ s, c.ready? = some s := by
  cases hs : c.session with
  | none => simp [sessionState, hs] at h
  | some s => exact ⟨s, ready?_eq_some.2 ⟨hs, by simpa [sessionState, hs] using h⟩⟩

theorem InPhase.exists_ready (h : c.InPhase .ready) : ∃ s, c.ready? = some s :=
  exists_ready_of_sessionState h.state

theorem InPhase.session_eq_none (h : c.InPhase phase) (hphase : phase ≠ .ready) : c.session = none := by
  rw [← Option.not_isSome_iff_eq_none, h.session]
  exact hphase

theorem InPhase.ready?_eq_none (h : c.InPhase phase) (hphase : phase ≠ .ready) : c.ready? = none := by
  rw [ready?, h.session_eq_none hphase]
  rfl

/-! ### What operations answer -/

theorem outcome_load (c : Component ρ) (source : String) (p : Profile) : outcome (c.load source p) =
    if c.isInitialized then
      if c.setup.isSome then .ok c
      else ((outcome (Setup.ofProfile p)).mapError .setup).map fun setup => { c with setup := some setup }
    else .error .notInitialized := by
  unfold load
  cases c.isInitialized with
  | false => simp
  | true =>
    cases c.setup with
    | some setup => simp
    | none =>
      cases hp : outcome (Setup.ofProfile p) <;> simp [outcome_bind, Except.bind, hp, Except.mapError, Except.map]

theorem outcome_loadFile (c : Component ρ) (path : String) (content : Except FileFault ByteArray) :
    outcome (c.loadFile path content) =
      if c.isInitialized then
        ((profileOfFile path content).mapError fun e => ComponentError.setup (.profile e)).bind fun p =>
          outcome (c.load path p)
      else .error .notInitialized := by
  unfold loadFile
  cases c.isInitialized with
  | false => simp
  | true => cases profileOfFile path content <;> simp [outcome_bind, Except.bind, Except.mapError]

theorem InPhase.each (h : c.InPhase phase) :
    c.isInitialized = phase.flags.1 ∧ c.setup.isSome = phase.flags.2.1 ∧ c.session.isSome = phase.flags.2.2 := by
  rw [← h.flags_eq]
  exact ⟨rfl, rfl, rfl⟩

theorem InPhase.answer_load (h : c.InPhase phase) (source : String) (p : Profile) :
    (outcome (c.load source p)).map (fun _ => ()) = phase.load (.ok p) := by
  obtain ⟨hinitialized, hsetup, -⟩ := h.each
  rw [outcome_load, hinitialized, hsetup]
  cases phase with
  | uninitialized | loaded | ready => rfl
  | initialized =>
    cases hp : outcome (Setup.ofProfile p) <;> simp [Phase.flags, Phase.load, hp, Except.mapError, Except.map]

theorem InPhase.answer_loadFile (h : c.InPhase phase) (path : String) (content : Except FileFault ByteArray) :
    (outcome (c.loadFile path content)).map (fun _ => ()) = phase.load (profileOfFile path content) := by
  obtain ⟨hinitialized, -, -⟩ := h.each
  rw [outcome_loadFile, hinitialized]
  cases profileOfFile path content with
  | error e => cases phase <;> rfl
  | ok p =>
    have hload := h.answer_load path p
    cases phase with
    | uninitialized => rfl
    | initialized | loaded | ready => exact hload

theorem InPhase.answer_openSession (h : c.InPhase phase) (hfounded : c.Founded)
    (hfree : c.session = none → c.registry.register?.isSome = true) (fault : Option String) :
    (c.tryOpen fault).value.1.map (fun _ => ()) = phase.openSession fault.isNone := by
  obtain ⟨hinitialized, hsetup, hsession⟩ := h.each
  have hloaded : c.isLoaded = (phase.flags.1 && phase.flags.2.1) := by rw [isLoaded, hinitialized, hsetup]
  rw [map_tryOpen hfounded hfree, hloaded, hsession]
  cases phase with
  | uninitialized | initialized | ready => rfl
  | loaded => cases fault <;> rfl

theorem enqueue_of_ready?_eq_none (hr : c.ready? = none) (message : Message) :
    (c.enqueue message).value = (.error .notReady, c) := by
  rw [enqueue, hr]
  rfl

theorem enqueue_of_ready {s : Session ρ} (hlife : Life c stages detached) (hr : c.ready? = some s)
    (hrunning : ∀ number, s.worker = some number → (c.queueOf number).isClosed = false) (message : Message) :
    (c.enqueue message).value.1 = if c.isCrowded then .error (.queue (.full message)) else .ok () := by
  obtain ⟨hs, hready⟩ := ready?_eq_some.1 hr
  obtain ⟨number, hopened⟩ := hlife.isOpened_of_ready hs hready
  have hlt : number < c.workers.length := by
    rw [hopened.length]
    exact Nat.lt_succ_self number
  have hq : c.workers[number]? = some c.workers[number] := List.getElem?_eq_getElem hlt
  have hclosed := hrunning number hopened.worker
  have hcrowded : c.isCrowded = (c.workers[number]).isFull := by
    rw [isCrowded, queue?, hs, Option.bind_some, hopened.worker, Option.bind_some, hq, Option.any_some]
  rw [queueOf_eq hq] at hclosed
  rw [hcrowded, enqueue, hr, Option.bind_some, hopened.worker]
  simp only [hq, Logged.value_bind, Logged.value_pure, Queue.enqueue, hclosed, Bool.false_eq_true, if_false]
  cases (c.workers[number]).isFull <;> rfl

/-! ### What operations change -/

theorem verdictOf_eq_ok {ε α : Type} {refusal : ε → Refusal} {x : Attempt ε α} :
    verdictOf refusal x = .ok () ↔ ∃ a, outcome x = .ok a := by
  rw [verdictOf]
  cases outcome x with
  | ok a => exact ⟨fun _ => ⟨a, rfl⟩, fun _ => rfl⟩
  | error e =>
    constructor
    · intro h
      cases h
    · rintro ⟨a, ha⟩
      cases ha

theorem exists_error_of_verdictOf {ε α : Type} {refusal : ε → Refusal} {x : Attempt ε α} {e : Refusal}
    (h : verdictOf refusal x = .error e) : ∃ e', outcome x = .error e' := by
  rw [verdictOf] at h
  cases hx : outcome x with
  | ok a =>
    rw [hx] at h
    cases h
  | error e' => exact ⟨e', rfl⟩

theorem orKeep_of_ok {ε : Type} {x : Attempt ε (Component ρ)} (h : outcome x = .ok d) : c.orKeep x = d := by
  rw [orKeep, h]

theorem orKeep_of_error {ε : Type} {x : Attempt ε (Component ρ)} {e : ε} (h : outcome x = .error e) :
    c.orKeep x = c := by
  rw [orKeep, h]

theorem InPhase.load (h : c.InPhase phase) {source : String} {p : Profile} (hd : outcome (c.load source p) = .ok d) :
    d.flags = (if phase = .initialized then Phase.loaded else phase).flags ∧
      d.setup = c.setup.or (Setup.ofProfile? p) := by
  obtain ⟨hinitialized, hsetup, hsession⟩ := h.each
  obtain ⟨hi, ⟨hs, rfl⟩ | ⟨hs, setup, hp, rfl⟩⟩ := load_eq_ok.1 hd
  · obtain ⟨setup, hsome⟩ := Option.isSome_iff_exists.1 hs
    refine ⟨?_, by rw [hsome, Option.some_or]⟩
    rw [h.flags_eq]
    cases phase with
    | uninitialized | initialized =>
      rw [hs] at hsetup
      cases hsetup
    | loaded | ready => rfl
  · rw [hs] at hsetup
    rw [hi] at hinitialized
    have hphase : phase = .initialized := by
      cases phase with
      | initialized => rfl
      | uninitialized => cases hinitialized
      | loaded | ready => cases hsetup
    subst hphase
    refine ⟨?_, by rw [hs, Setup.ofProfile?, hp]; rfl⟩
    rw [flags, if_pos rfl, hi, hsession]
    rfl

theorem flags_enqueue (c : Component ρ) (message : Message) :
    (c.enqueue message).value.2.flags = c.flags ∧ (c.enqueue message).value.2.setup = c.setup := by
  rcases c.enqueue_value message with h | ⟨s, number, queue, -, -, -, -, h⟩
  · rw [h]
    exact ⟨rfl, rfl⟩
  · rw [h]
    exact ⟨rfl, rfl⟩

theorem flags_deliver (c : Component ρ) (topic : String) (payload : ByteArray) :
    (c.after (.deliver topic payload)).flags = c.flags ∧ (c.after (.deliver topic payload)).setup = c.setup := by
  rw [after, deliver]
  cases MessageKind.ofTopic? topic with
  | none => exact ⟨rfl, rfl⟩
  | some kind => exact c.flags_enqueue _

theorem flags_deliverDocument (c : Component ρ) (payload : ByteArray) :
    (c.after (.deliverDocument payload)).flags = c.flags ∧
      (c.after (.deliverDocument payload)).setup = c.setup := by
  rw [after, deliverDocument]
  cases kindOf payload with
  | error e => exact ⟨rfl, rfl⟩
  | ok kind => exact c.flags_enqueue _

theorem flags_of_tryOpen {fault : Option String} {handle : Handle} (ho : (c.tryOpen fault).value = (.ok handle, d)) :
    d.flags = Phase.ready.flags ∧ d.setup = c.setup := by
  obtain ⟨hinitialized, hsetup⟩ := Bool.and_eq_true_iff.1 (isLoaded_of_tryOpen ho)
  obtain ⟨-, setup, registry, bus, -, -, -, rfl⟩ := tryOpen_eq_ok ho
  refine ⟨?_, rfl⟩
  rw [flags, hinitialized, hsetup]
  rfl

/-- An operation that is refused changes neither the flags nor the set-up. -/
theorem after_of_error {call : Call} {r : Operation ρ} (hr : call.event = .request none r) {e : Refusal}
    (herror : c.answer r = .error e) : (c.after r).flags = c.flags ∧ (c.after r).setup = c.setup := by
  cases call with
  | activate | loadProfile | loadFile =>
    cases hr
    obtain ⟨e', he⟩ := exists_error_of_verdictOf herror
    rw [after, orKeep_of_error he]
    exact ⟨rfl, rfl⟩
  | openSession fault =>
    cases hr
    rw [answer] at herror
    rw [after]
    cases ho : (c.tryOpen fault).value with
    | mk result d =>
      cases result with
      | ok handle =>
        rw [ho] at herror
        cases herror
      | error e =>
        obtain rfl | ⟨-, handle, registry, -, rfl⟩ := tryOpen_eq_error ho
        · exact ⟨rfl, rfl⟩
        · exact ⟨rfl, rfl⟩
  | deliver topic payload =>
    cases hr
    exact c.flags_deliver topic payload
  | deliverDocument payload =>
    cases hr
    exact c.flags_deliverDocument payload
  | close closing => cases hr

/-- What an operation that succeeds makes of the flags and the set-up. -/
theorem InPhase.after_of_ok (h : c.InPhase phase) {call : Call} {r : Operation ρ} (hr : call.event = .request none r)
    (hok : c.answer r = .ok ()) :
    (c.after r).flags = (phase.after call).flags ∧ (c.after r).setup = call.setupAfter c.setup := by
  obtain ⟨hinitialized, hsetup, hsession⟩ := h.each
  cases call with
  | activate =>
    cases hr
    obtain ⟨d, hd⟩ := verdictOf_eq_ok.1 hok
    obtain ⟨hi, rfl⟩ := activate_eq_ok.1 hd
    rw [hi] at hinitialized
    rw [after, orKeep_of_ok hd]
    refine ⟨?_, rfl⟩
    rw [flags, hsetup, hsession]
    cases phase with
    | uninitialized => rfl
    | initialized | loaded | ready => cases hinitialized
  | loadProfile p =>
    cases hr
    obtain ⟨d, hd⟩ := verdictOf_eq_ok.1 hok
    rw [after, orKeep_of_ok hd]
    exact h.load hd
  | loadFile path content =>
    cases hr
    obtain ⟨d, hd⟩ := verdictOf_eq_ok.1 hok
    obtain ⟨p, hp, hload⟩ := loadFile_eq_ok.1 hd
    rw [after, orKeep_of_ok hd, Call.setupAfter, Setup.ofFile?, hp]
    exact h.load hload
  | openSession fault =>
    cases hr
    rw [answer] at hok
    rw [after]
    cases ho : (c.tryOpen fault).value with
    | mk result d =>
      rw [ho] at hok
      cases result with
      | error e => cases hok
      | ok handle => exact flags_of_tryOpen ho
  | deliver topic payload =>
    cases hr
    obtain ⟨hflags, hsame⟩ := c.flags_deliver topic payload
    exact ⟨hflags.trans h.flags_eq, hsame⟩
  | deliverDocument payload =>
    cases hr
    obtain ⟨hflags, hsame⟩ := c.flags_deliverDocument payload
    exact ⟨hflags.trans h.flags_eq, hsame⟩
  | close closing => cases hr

end Component

namespace System

variable {s s' : System ρ} {event : Event ρ} {events : List (Event ρ)} {phase : Phase} {call : Call}

/-! ### Systems in which only the caller makes calls -/

/-- A run in which no receiver makes a call leads to a system. -/
def Attainable (s : System ρ) : Prop :=
  ∃ events : List (Event ρ), (∀ event ∈ events, event.isQuiet = true) ∧ initial.run? events = some s

namespace Attainable

theorem step (h : s.Attainable) (hquiet : event.isQuiet = true) (hstep : s.step? event = some s') : s'.Attainable := by
  obtain ⟨events, hevents, hrun⟩ := h
  refine ⟨events ++ [event], List.forall_mem_append.2 ⟨hevents, List.forall_mem_singleton.2 hquiet⟩, ?_⟩
  rw [run?_append, hrun, Option.bind_some, run?, hstep]
  rfl

theorem quiet (h : s.Attainable) : s.Quiet := by
  obtain ⟨events, hevents, hrun⟩ := h
  exact quiet_of_run hevents hrun

theorem doors (h : s.Attainable) : s.Doors := by
  obtain ⟨events, -, hrun⟩ := h
  exact doors_of_run hrun

theorem founded (h : s.Attainable) : s.component.Founded := by
  obtain ⟨events, -, hrun⟩ := h
  exact founded_of_run hrun

theorem layered (h : s.Attainable) : s.component.Layered := by
  obtain ⟨events, hevents, hrun⟩ := h
  exact layered_of_oneByOne (quiet_initial.oneByOne hevents) hrun

theorem calm (h : s.Attainable) (hrest : s.activity none = none) (thread : Option Nat) : Calm (s.stages thread) := by
  have hnone : s.activity thread = none := by
    cases thread with
    | none => exact hrest
    | some worker => exact h.quiet.idle worker
  rw [stages, hnone]
  exact calm_nil

theorem exists_inPhase (h : s.Attainable) (hrest : s.activity none = none) : ∃ phase, s.component.InPhase phase :=
  Component.exists_inPhase h.layered h.quiet.sound.life (h.calm hrest)

/-- The worker of a session that is ready has not stopped, and its queue is open. -/
theorem isClosed_of_ready (h : s.Attainable) {session : Session ρ} (hr : s.component.ready? = some session)
    (number : Nat) (hworker : session.worker = some number) : (s.component.queueOf number).isClosed = false := by
  have hopen : (s.component.queueOf number).isOpen = true := h.doors.opened session number hr hworker
  have hrunning : (s.component.queueOf number).isStopped = false := by
    rw [Bool.eq_false_iff]
    intro hstopped
    have hclosed := (h.quiet.sound.accounts number).tracks.closed_of_stopped hstopped
    rw [hopen] at hclosed
    cases hclosed
  rw [Queue.isClosed, hopen, hrunning]
  rfl

theorem enqueue_eq (h : s.Attainable) (hphase : s.component.InPhase phase) (message : Message) :
    (s.component.enqueue message).value.1 = phase.enqueue s.component.isCrowded message := by
  rw [Phase.enqueue]
  split
  · next hready =>
    subst hready
    obtain ⟨session, hr⟩ := hphase.exists_ready
    exact Component.enqueue_of_ready h.quiet.sound.life hr (h.isClosed_of_ready hr) message
  · next hready => rw [Component.enqueue_of_ready?_eq_none (hphase.ready?_eq_none hready)]

theorem answer_eq (h : s.Attainable) (hphase : s.component.InPhase phase) {r : Operation ρ}
    (hr : call.event = .request none r) :
    s.component.answer r = phase.verdict (s.component.session.map Session.handle) s.component.isCrowded call := by
  obtain ⟨hinitialized, -, -⟩ := hphase.each
  cases call with
  | activate =>
    cases hr
    rw [Component.answer, verdictOf, Component.activate, hinitialized]
    cases phase <;> rfl
  | loadProfile p =>
    cases hr
    rw [Component.answer, verdictOf, Component.loadProfile, hphase.answer_load]
    rfl
  | loadFile path content =>
    cases hr
    rw [Component.answer, verdictOf, hphase.answer_loadFile]
    rfl
  | openSession fault =>
    cases hr
    rw [Component.answer, hphase.answer_openSession h.founded h.quiet.sound.life.isSome_register?]
    rfl
  | deliver topic payload =>
    cases hr
    rw [Component.answer, Component.deliver, Phase.verdict]
    cases MessageKind.ofTopic? topic with
    | none => rfl
    | some kind =>
      dsimp only
      rw [h.enqueue_eq hphase]
  | deliverDocument payload =>
    cases hr
    rw [Component.answer, Component.deliverDocument, Phase.verdict]
    cases Component.kindOf payload with
    | error e => rfl
    | ok kind =>
      dsimp only
      rw [h.enqueue_eq hphase]
  | close closing => cases hr

end Attainable

end System

end CecBus
