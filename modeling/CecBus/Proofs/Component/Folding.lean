import CecBus.Proofs.Component.Order

/-! A session that only serves messages. From some moment on nothing but deliveries is asked of it until it is closed.
Then its bus and the frames it hands to its receiver are those of handling the messages one after the other. -/

namespace CecBus

variable {ρ : Type}

def Operation.isDelivery : Operation ρ → Bool
  | .deliver .. | .deliverDocument _ => true
  | _ => false

/-- Whether the caller does no more than deliver messages and close things in an event. -/
def Event.isDelivering : Event ρ → Bool
  | .request thread r => thread.isNone && r.isDelivery
  | .start thread _ | .advance thread | .finish thread => thread.isNone
  | .work _ | .resume _ => true

theorem Event.isQuiet_of_isDelivering {event : Event ρ} (h : event.isDelivering) : event.isQuiet := by
  cases event with
  | request thread r =>
    rw [isDelivering, Bool.and_eq_true] at h
    exact h.1
  | start | advance | finish => exact h
  | work | resume => rfl

namespace Component

variable {c d : Component ρ} {worker : Nat}

theorem session_enqueue (c : Component ρ) (message : Message) :
    (c.enqueue message).value.2.session = c.session ∧
      (c.enqueue message).value.2.workers.length = c.workers.length := by
  rcases c.enqueue_value message with h | ⟨s, number, queue, -, -, -, -, h⟩
  · rw [h]
    exact ⟨rfl, rfl⟩
  · rw [h]
    exact ⟨rfl, List.length_set⟩

theorem session_after {r : Operation ρ} (hr : r.isDelivery) :
    (c.after r).session = c.session ∧ (c.after r).workers.length = c.workers.length := by
  cases r with
  | deliver topic payload =>
    rw [after, deliver]
    split
    · exact ⟨rfl, rfl⟩
    · exact c.session_enqueue _
  | deliverDocument payload =>
    rw [after, deliverDocument]
    split
    · exact ⟨rfl, rfl⟩
    · exact c.session_enqueue _
  | _ => cases hr

theorem session_perform {thread : Option Nat} {stage : Stage} {more : List Stage} {s' : Session ρ}
    (hp : outcome (c.perform thread stage) = .ok (more, d)) (hs : d.session = some s') :
    ∃ s, c.session = some s ∧ s'.bus = s.bus ∧ s'.receiver = s.receiver := by
  cases performed hp with
  | retired nested h =>
    obtain ⟨s, registry, hsession, -, -, -, -, rfl⟩ := retire_eq_ok h
    cases hs
    exact ⟨s, hsession, rfl, rfl⟩
  | vacated => cases hs
  | checked | found | missing | refused | absent | detached | requested | joined | forgotten | cleared =>
    exact ⟨s', hs, rfl, rfl⟩

theorem session_work {step : Logged (Component ρ)} (hs : c.work? worker = some step) :
    c.handling? worker = none ∧ step.value.session = c.session ∨ ∃ kind payload,
      c.handling? worker = some (c.handling worker kind payload) ∧
        step.value.session = (c.withHandled kind payload).session := by
  obtain ⟨q, hq, ⟨kind, payload, hphase, rfl⟩ | ⟨hnone, received, -, hstep⟩⟩ := work?_eq_some hs
  · obtain ⟨q', -, hvalue⟩ := c.dispatch_value worker q kind payload
    refine .inr ⟨kind, payload, handling?_of_holding hq hphase, ?_⟩
    rw [hvalue]
    rfl
  · refine .inl ⟨hnone, ?_⟩
    rw [hstep]
    rfl

theorem call?_handling {s : Session ρ} {receiver : ρ} (worker : Nat) (kind : MessageKind) (payload : ByteArray)
    (hs : c.session = some s) (hr : s.receiver = some receiver) : (c.handling worker kind payload).call? =
      (s.bus.handle kind payload).value.1.map fun frame => (receiver, s.handle, frame.bytes) := by
  simp only [handling, Handling.call?, hs, Option.map_some, Option.bind_some, hr]
  cases (s.bus.handle kind payload).value.1 <;> rfl

end Component

theorem IsOpened.live {c : Component ρ} {stages : Option Nat → List Stage} {detached : List Nat} {number : Nat}
    {s : Session ρ} (h : IsOpened c stages detached number s) : c.live s.handle = .ok s := by
  refine Component.live_eq_ok.2 ⟨h.session, h.isReady, rfl, ?_⟩
  rw [h.registry, h.handle]
  exact Registry.resolves_atSession number

theorem IsOpened.after_setReceiver {c : Component ρ} {stages : Option Nat → List Stage} {detached : List Nat}
    {number : Nat} {s : Session ρ} (h : IsOpened c stages detached number s) (receiver : Option ρ) :
    c.after (.setReceiver s.handle receiver) = { c with session := some { s with receiver } } := by
  have hchange : outcome (c.setReceiver s.handle receiver) =
      .ok { c with session := some { s with receiver } } := by
    refine Component.change_eq_ok.2 ⟨s, { s with receiver }, h.live, ?_, rfl⟩
    simp
  rw [Component.after, Component.orKeep, hchange]

namespace System

variable {s s' : System ρ} {event : Event ρ} {events : List (Event ρ)} {number : Nat} {bus : Bus} {receiver : ρ}

/-- The frames of some messages that are handled one after the other, as calls of a receiver for a session. -/
def callsOf (bus : Bus) (number : Nat) (receiver : ρ) (messages : List Message) : List (ρ × Handle × List UInt8) :=
  (bus.handleAll messages).1.map fun frame => (receiver, .ofSession number, frame.bytes)

/-- What the session with a number did so far is what handling its messages one after the other does, from some bus on
and for one receiver. -/
structure Folds (s : System ρ) (number : Nat) (bus : Bus) (receiver : ρ) : Prop where
  quiet : s.Quiet
  length : s.component.workers.length = number + 1
  serving (session : Session ρ) : s.component.session = some session → session.receiver = some receiver ∧
    session.bus = (bus.handleAll ((s.history.handledBy number).map Handling.message)).2
  calls : (s.history.handledBy number).filterMap Handling.call? =
    callsOf bus number receiver ((s.history.handledBy number).map Handling.message)

namespace Folds

theorem congr (h : s.Folds number bus receiver) (hquiet : s'.Quiet)
    (hlength : s'.component.workers.length = s.component.workers.length)
    (hhandled : s'.history.handled = s.history.handled)
    (hsession : ∀ session', s'.component.session = some session' → ∃ session, s.component.session = some session ∧
      session'.bus = session.bus ∧ session'.receiver = session.receiver) :
    s'.Folds number bus receiver := by
  have hsame : s'.history.handledBy number = s.history.handledBy number := by
    rw [History.handledBy, hhandled, History.handledBy]
  refine ⟨hquiet, hlength.trans h.length, fun session' hs' => ?_, ?_⟩
  · obtain ⟨session, hs, hsameBus, hsameReceiver⟩ := hsession session' hs'
    rw [hsameBus, hsameReceiver, hsame]
    exact h.serving session hs
  · rw [hsame]
    exact h.calls

theorem work (h : s.Folds number bus receiver) {worker : Nat} {step : Logged (Component ρ)}
    (hs : s.component.work? worker = some step) : Folds
      { s with
        component := step.value
        history := { s.history with
          handled := s.history.handled ++ (s.component.handling? worker).toList } } number bus receiver := by
  have hlength := (Component.alike_work hs).length
  rcases Component.session_work hs with ⟨hnone, hsession⟩ | ⟨kind, payload, hhandling, hsession⟩
  · refine h.congr (h.quiet.work hs) hlength ?_ fun session hsame => ⟨session, hsession ▸ hsame, rfl, rfl⟩
    rw [hnone, Option.toList_none, List.append_nil]
  · obtain ⟨-, hown⟩ := h.quiet.session_of_handling hhandling
    obtain ⟨session, hcurrent, hnumber⟩ := Option.map_eq_some_iff.1 hown
    rw [h.length] at hnumber
    obtain ⟨hworker, hhandle⟩ := Prod.mk.inj hnumber
    obtain rfl : number = worker := hworker
    obtain ⟨hreceiver, hbus⟩ := h.serving session hcurrent
    have hhandled : ({ s.history with handled := s.history.handled ++ (s.component.handling? number).toList } :
        History ρ).handledBy number = s.history.handledBy number ++ [s.component.handling number kind payload] := by
      rw [hhandling, Option.toList_some, History.handledBy_append]
      simp [Component.handling]
    have hall : bus.handleAll ((s.history.handledBy number ++ [s.component.handling number kind payload]).map
        Handling.message) = ((bus.handleAll ((s.history.handledBy number).map Handling.message)).1 ++
          (session.bus.handle kind payload).value.1.toList, (session.bus.handle kind payload).value.2) := by
      rw [List.map_append, hbus]
      exact bus.handleAll_append _ _
    refine ⟨h.quiet.work hs, hlength.trans h.length, fun session' hs' => ?_, ?_⟩
    · rw [hhandled, hall]
      change step.value.session = some session' at hs'
      rw [hsession, Component.withHandled, hcurrent, Option.map_some] at hs'
      cases hs'
      exact ⟨hreceiver, rfl⟩
    · have hcall := Component.call?_handling number kind payload hcurrent hreceiver
      rw [hhandle] at hcall
      rw [hhandled, callsOf, hall, List.filterMap_append, h.calls, callsOf, List.map_append, List.filterMap_cons, hcall]
      cases (session.bus.handle kind payload).value.1 <;> rfl

theorem step (h : s.Folds number bus receiver) (hdelivering : event.isDelivering)
    (hstep : s.step? event = some s') : s'.Folds number bus receiver := by
  have hquiet := h.quiet.step (Event.isQuiet_of_isDelivering hdelivering) hstep
  cases step_of_step? hstep with
  | request r _ =>
    rw [Event.isDelivering, Bool.and_eq_true] at hdelivering
    obtain ⟨hsession, hlength⟩ := s.component.session_after hdelivering.2
    exact h.congr hquiet hlength rfl fun session hs => ⟨session, hsession ▸ hs, rfl, rfl⟩
  | start | finish => exact h.congr hquiet rfl rfl fun session hs => ⟨session, hs, rfl, rfl⟩
  | @advance thread closing stage rest =>
    unfold performStage at hquiet ⊢
    cases hp : outcome (s.component.perform thread stage) with
    | error e =>
      simp only [hp] at hquiet ⊢
      exact h.congr hquiet rfl rfl fun session hs => ⟨session, hs, rfl, rfl⟩
    | ok result =>
      simp only [hp] at hquiet ⊢
      exact h.congr hquiet (Component.length_perform hp) (handled_noteStage _ _ _) fun session hs =>
        Component.session_perform hp hs
  | work hs => exact h.work hs
  | resume _ hc =>
    obtain ⟨q, hq, hcall⟩ := Component.calling?_eq_some.1 hc
    have hresume := Component.resume_of_calling hq (by rw [hcall]; rfl)
    refine h.congr hquiet ?_ rfl fun session hs => ⟨session, ?_, rfl, rfl⟩
    · rw [hresume]
      exact List.length_set
    · rw [hresume] at hs
      exact hs

theorem run (h : s.Folds number bus receiver) (hdelivering : ∀ event ∈ events, event.isDelivering)
    (hrun : s.run? events = some s') : s'.Folds number bus receiver :=
  run?_induct (P := fun t => t.Folds number bus receiver)
    (fun _ _ _ hallowed hfolds hstep => hfolds.step hallowed hstep) hdelivering h hrun

/-- Once every message was handled, the calls are those of the accepted messages. -/
theorem calledBy_eq (h : s.Folds number bus receiver) (hdrained : s.Drained) :
    s.history.calledBy number = callsOf bus number receiver (s.history.acceptedBy number) := by
  rw [hdrained.called, ← hdrained.handled, h.calls]

end Folds

/-! ### From opening to closing -/

/-- A session is opened and given a receiver, and then messages are delivered until closing it returns. -/
def Serves (s : System ρ) (session : Session ρ) (receiver : ρ) (s' : System ρ) : Prop :=
  s.component.session = none ∧ ∃ opened given deliveries, s.step? (.request none (.openSession none)) = some opened ∧
    opened.component.session = some session ∧
    opened.step? (.request none (.setReceiver session.handle (some receiver))) = some given ∧
    (∀ event ∈ deliveries, event.isDelivering) ∧ given.run? deliveries = some s' ∧
    s'.isReturning none (.session session.handle)

theorem Sound.handledBy_eq_nil (h : s.Sound) : s.history.handledBy s.component.workers.length = [] := by
  have hnone : s.history.acceptedBy s.component.workers.length = [] := by
    rw [History.acceptedBy, List.map_eq_nil_iff, List.filter_eq_nil_iff]
    intro entry hentry
    have hlt := h.accepted_lt entry hentry
    simpa using Nat.ne_of_lt hlt
  have htracks := (h.accounts s.component.workers.length).tracks.accounted
  rw [hnone, List.append_assoc, eq_comm, List.append_eq_nil_iff, List.map_eq_nil_iff] at htracks
  exact htracks.1

theorem Quiet.isOpened_of_step (h : s.Quiet) (hnone : s.component.session = none) {opened : System ρ}
    {session : Session ρ} (hopen : s.step? (.request none (.openSession none)) = some opened)
    (hsession : opened.component.session = some session) : opened.history.handled = s.history.handled ∧
      IsOpened opened.component opened.stages opened.history.detached s.component.workers.length session := by
  have hlife := (h.sound.step hopen).life
  cases step_of_step? hopen
  refine ⟨rfl, ?_⟩
  change (s.component.after (.openSession none)).session = some session at hsession
  obtain ⟨hlength, hready⟩ := Component.length_of_session_openSession hnone hsession
  obtain ⟨number, h⟩ := hlife.isOpened_of_ready hsession hready
  obtain rfl := Nat.succ.inj (h.length.symm.trans hlength)
  exact h

theorem Quiet.folds_of_opening (h : s.Quiet) (hnone : s.component.session = none) {opened given : System ρ}
    {session : Session ρ} (hopen : s.step? (.request none (.openSession none)) = some opened)
    (hsession : opened.component.session = some session)
    (hset : opened.step? (.request none (.setReceiver session.handle (some receiver))) = some given) :
    given.Folds s.component.workers.length session.bus receiver := by
  obtain ⟨hhandled, hready⟩ := h.isOpened_of_step hnone hopen hsession
  have hgiven := (h.step rfl hopen).step rfl hset
  have hafter := hready.after_setReceiver (some receiver)
  cases step_of_step? hset
  have hnothing : opened.history.handledBy s.component.workers.length = [] := by
    rw [History.handledBy, hhandled]
    exact h.sound.handledBy_eq_nil
  refine ⟨hgiven, ?_, fun session' hs' => ?_, ?_⟩
  · change (opened.component.after (.setReceiver session.handle (some receiver))).workers.length = _
    rw [hafter]
    exact hready.length
  · change (opened.component.after (.setReceiver session.handle (some receiver))).session = some session' at hs'
    rw [hafter] at hs'
    cases hs'
    change _ ∧ _ = (session.bus.handleAll ((opened.history.handledBy _).map Handling.message)).2
    rw [hnothing]
    exact ⟨rfl, rfl⟩
  · change (opened.history.handledBy _).filterMap Handling.call? = callsOf session.bus _ receiver
      ((opened.history.handledBy _).map Handling.message)
    rw [hnothing]
    rfl

/-- As long as no receiver makes a call, every session handles its messages in order. When closing it returns they are
all handled, its receiver is not called again, and its handle is not told to a receiver before as many sessions were
opened as there are generations. If only messages were delivered to it, the frames are those of
handling the messages one after the other. -/
theorem quiet_run_in_order (hquiet : ∀ event ∈ events, event.isQuiet) (hrun : initial.run? events = some s) :
    s.Orderly ∧
      (∀ handle, s.isReturning none (.session handle) → s.Drained ∧ ∃ number,
        s.component.workers.length = number + 1 ∧ handle = .ofSession number ∧ s.SilentAfter number handle) ∧
      ∀ session receiver s', s.Serves session receiver s' →
        session.handle = .ofSession s.component.workers.length ∧
          s'.history.calledBy s.component.workers.length =
            (session.bus.handleAll (s'.history.acceptedBy s.component.workers.length)).1.map fun frame =>
              (receiver, session.handle, frame.bytes) := by
  have h := quiet_of_run hquiet hrun
  refine ⟨h.orderly, fun handle hreturning => ?_, fun session receiver s' hserves => ?_⟩
  · obtain ⟨-, number, hlength, rfl, hstopped⟩ := h.stopped_of_isReturning hreturning
    exact ⟨h.drained_of_stopped (by rwa [hlength]), number, hlength, rfl, h.silentAfter hstopped⟩
  · obtain ⟨hnone, opened, given, deliveries, hopen, hsession, hset, hdelivering, hdeliveries, hreturning⟩ := hserves
    have hhandle := (h.isOpened_of_step hnone hopen hsession).2.handle
    have hfolds := (h.folds_of_opening hnone hopen hsession hset).run hdelivering hdeliveries
    obtain ⟨-, number, hlength, -, hstopped⟩ := hfolds.quiet.stopped_of_isReturning hreturning
    rw [hhandle]
    exact ⟨rfl, hfolds.calledBy_eq (hfolds.quiet.drained_of_stopped (by rwa [hlength]))⟩

/-- Two messages are delivered. While the first one is with the receiver, the caller closes the session, and waits. -/
def serving : List (Event Unit) :=
  [.request none activeSource, .request none activeSource, .work 0, .work 0,
    .start none (.session (.ofSession 0)), .advance none, .advance none, .resume 0, .work 0, .work 0, .resume 0,
    .work 0, .advance none, .advance none]

theorem serving_in_order : ∃ (s s' : System Unit) (session : Session Unit),
    initial.run? loading = some s ∧ s.Serves session () s' ∧ s'.Drained ∧ (s'.history.acceptedBy 0).length = 2 ∧
      s'.history.calledBy 0 = (session.bus.handleAll (s'.history.acceptedBy 0)).1.map fun frame =>
        ((), .ofSession 0, frame.bytes) := by
  have hrun : ((initial.run? loading).bind fun s => (s.step? (.request none (.openSession none))).bind fun opened =>
      (opened.step? (.request none (.setReceiver (.ofSession 0) (some ())))).bind fun given =>
        (given.run? serving).map fun s' => decide (s.component.session.isNone ∧ s.component.workers.length = 0 ∧
          opened.component.session.map Session.handle = some (.ofSession 0) ∧
          s'.activity none = some (.session (.ofSession 0), []) ∧ (s'.history.acceptedBy 0).length = 2)) =
      some true := by decide +kernel
  obtain ⟨s, hs, hrun⟩ := Option.bind_eq_some_iff.1 hrun
  obtain ⟨opened, hopened, hrun⟩ := Option.bind_eq_some_iff.1 hrun
  obtain ⟨given, hgiven, hrun⟩ := Option.bind_eq_some_iff.1 hrun
  obtain ⟨s', hs', hrun⟩ := Option.map_eq_some_iff.1 hrun
  obtain ⟨hnone, hzero, hhandle, hreturning, haccepted⟩ := of_decide_eq_true hrun
  obtain ⟨session, hsession, hhandle⟩ := Option.map_eq_some_iff.1 hhandle
  have hwhole : initial.run? (loading ++ (openings 0 ++ serving)) = some s' := by
    rw [run?_append, hs, Option.bind_some, run?_append]
    simp only [openings, run?, hopened, hgiven, Option.bind_some, hs']
  have hdrained := ((quiet_run_in_order (by decide) hwhole).2.1 _ hreturning).1
  rw [← hhandle] at hgiven hreturning
  have hserves : s.Serves session () s' := ⟨Option.isNone_iff_eq_none.1 hnone, opened, given, serving, hopened,
    hsession, hgiven, by decide, hs', hreturning⟩
  obtain ⟨-, -, hfold⟩ := quiet_run_in_order (by decide) hs
  obtain ⟨-, hcalled⟩ := hfold session () s' hserves
  rw [hzero, hhandle] at hcalled
  exact ⟨s, s', session, hs, hserves, hdrained, haccepted, hcalled⟩

end System

end CecBus
