import CecBus.Proofs.Component.Calls

/-! Handles come around. A session that is opened and closed leaves a component as it was, but for the generation of its
slot, which goes on by one (`System.leads_openedAndClosing`). So the session that comes after as many others as there are
generations has the handle of the first one again (`Handle.ofSession_add_size`), and a receiver is called with a handle
that was closed long before. Main result: `System.exists_called_again`. -/

namespace CecBus

variable {ρ : Type}

theorem Handle.ofSession_add_size (number : Nat) : ofSession (number + UInt32.size) = ofSession number := by
  rw [ofSession, ofSession, UInt32.ofNat_add, UInt32.ofNat_size, UInt32.add_zero]

def Session.numbered (number : Nat) (bus : Bus) (receiver : Option ρ) : Session ρ :=
  { handle := .ofSession number, bus, receiver, worker := some number }

/-! ### A component with one session more -/

namespace Component

variable {c d : Component ρ} {setup : Setup} {bus : Bus} {number : Nat} {registry : Registry}
  {session : Option (Session ρ)} {queue queue' : Queue (Task ρ)}

/-- The component has a set-up and no session, and the next session is to have a number. -/
structure Awaits (c : Component ρ) (setup : Setup) (number : Nat) : Prop where
  isInitialized : c.isInitialized = true
  setup : c.setup = some setup
  session : c.session = none
  registry : c.registry = .atSession number false
  length : c.workers.length = number

/-- The component with one worker more, and with what has become of slot and session. -/
def withLast (c : Component ρ) (registry : Registry) (session : Option (Session ρ)) (queue : Queue (Task ρ)) :
    Component ρ :=
  { c with registry, session, workers := c.workers ++ [queue] }

theorem getElem?_withLast (hlength : c.workers.length = number) :
    (c.withLast registry session queue).workers[number]? = some queue := by
  subst hlength
  exact List.getElem?_concat_length

theorem setWorker_withLast (hlength : c.workers.length = number) :
    (c.withLast registry session queue).setWorker number queue' = c.withLast registry session queue' := by
  subst hlength
  simp [setWorker, withLast]

/-- The queue of a session to which nothing was handed in, once it is closed. -/
def exiting : Queue (Task ρ) := { capacity := Queue.usualCapacity, waiting := [.exit], isOpen := false }

def engaged (waiting : List Message) (phase : WorkerPhase (Task ρ)) : Queue (Task ρ) :=
  { capacity := Queue.usualCapacity, waiting, phase, counters := { enqueued := 1 } }

namespace Awaits

theorem next (h : c.Awaits setup number) :
    (c.withLast (.atSession (number + 1) false) none Queue.unstarted).Awaits setup (number + 1) where
  isInitialized := h.isInitialized
  setup := h.setup
  session := rfl
  registry := rfl
  length := by rw [withLast, List.length_append, h.length, List.length_singleton]

theorem after_openSession (h : c.Awaits setup number) (hb : (Bus.ofSetup setup).value = some bus) :
    c.after (.openSession none) = c.withLast (.atSession number true) (some (.numbered number bus none))
      (Queue.ofCapacity Queue.usualCapacity) := by
  have hset : (c.setup.filter fun _ => c.isInitialized) = some setup := by
    rw [h.setup, h.isInitialized]
    rfl
  rw [after, value_tryOpen, hset, h.session, h.registry, Registry.register?_atSession_false]
  simp [hb, withSession, withLast, Session.numbered, h.length]

end Awaits

theorem live_withLast (c : Component ρ) (number : Nat) (bus : Bus) (receiver : Option ρ) (queue : Queue (Task ρ)) :
    (c.withLast (.atSession number true) (some (.numbered number bus receiver)) queue).live (.ofSession number) =
      .ok (.numbered number bus receiver) :=
  live_eq_ok.2 ⟨rfl, rfl, rfl, Registry.resolves_atSession number⟩

theorem perform_retire_withLast (c : Component ρ) (number : Nat) (bus : Bus) (queue : Queue (Task ρ)) :
    outcome ((c.withLast (.atSession number true) (some (.numbered number bus none)) queue).perform none
      (.retire (.ofSession number) false)) = .ok ([.shutDown number, .vacate (.ofSession number)],
        c.withLast (.atSession (number + 1) false)
          (some { (Session.numbered number bus none : Session ρ) with isReady := false, worker := none }) queue) := by
  rw [perform, retireStage, outcome_bind, outcome_liftM_logged, outcome_run, outcome_retire, live_withLast,
    withLast, Registry.release?_atSession_true]
  rfl

theorem perform_shutDown_withLast (hlength : c.workers.length = number) :
    outcome ((c.withLast registry session (Queue.ofCapacity Queue.usualCapacity)).perform none (.shutDown number)) =
      .ok ([.join number], c.withLast registry session exiting) := by
  rw [outcome_perform_shutDown, shutDownStage, getElem?_withLast hlength]
  simp [setWorker_withLast hlength, Queue.requestExit, Queue.ofCapacity, Queue.isStopped, Queue.isFull, exiting,
    Queue.usualCapacity]

theorem work?_exiting (hlength : c.workers.length = number) :
    ((c.withLast registry session exiting).work? number).map Logged.value =
      some (c.withLast registry session Queue.unstarted) := by
  rw [work?, getElem?_withLast hlength]
  simp [setWorker_withLast hlength, exiting, Queue.receive?, Queue.stop, Queue.unstarted]

theorem blocks_join_withLast (hlength : c.workers.length = number) :
    (c.withLast registry session Queue.unstarted).blocks (.join number) = false := by
  rw [blocks, hasStopped, getElem?_withLast hlength]
  rfl

theorem after_setReceiver_withLast (c : Component ρ) (number : Nat) (bus : Bus) (queue : Queue (Task ρ))
    (receiver : Option ρ) : (c.withLast (.atSession number true) (some (.numbered number bus none)) queue).after
      (.setReceiver (.ofSession number) receiver) =
        c.withLast (.atSession number true) (some (.numbered number bus receiver)) queue := by
  have hchange : outcome ((c.withLast (.atSession number true) (some (.numbered number bus none)) queue).setReceiver
      (.ofSession number) receiver) =
        .ok (c.withLast (.atSession number true) (some (.numbered number bus receiver)) queue) :=
    change_eq_ok.2 ⟨_, .numbered number bus receiver, live_withLast c number bus none queue,
      by simp [Session.numbered], rfl⟩
  rw [after, orKeep, hchange]

theorem after_deliver_withLast (hlength : c.workers.length = number) {topic : String} {kind : MessageKind}
    (htopic : MessageKind.ofTopic? topic = some kind) (payload : ByteArray) (receiver : Option ρ) :
    (c.withLast registry (some (.numbered number bus receiver))
      (Queue.ofCapacity Queue.usualCapacity)).after (.deliver topic payload) =
        c.withLast registry (some (.numbered number bus receiver))
          (engaged [.control kind payload] .idle) := by
  have hworker : (c.withLast registry (some (.numbered number bus receiver))
      (Queue.ofCapacity Queue.usualCapacity)).ready?.bind Session.worker = some number := rfl
  rw [after, deliver, htopic]
  simp only [enqueue, hworker, getElem?_withLast hlength]
  simp [setWorker_withLast hlength, Queue.enqueue, Queue.isClosed, Queue.isStopped, Queue.isFull, Queue.ofCapacity,
    engaged, Queue.usualCapacity]

theorem work?_engaged (hlength : c.workers.length = number) {kind : MessageKind} {payload : ByteArray} :
    ((c.withLast registry session (engaged [.control kind payload] .idle)).work? number).map Logged.value =
      some (c.withLast registry session (engaged [] (.busy (.holding kind payload)))) := by
  rw [work?, getElem?_withLast hlength]
  simp [setWorker_withLast hlength, engaged, Queue.receive?]

theorem work?_holding (registry : Registry) (hlength : c.workers.length = number) {kind : MessageKind}
    {payload : ByteArray} {frame : Frame} {receiver : ρ}
    (hframe : (bus.handle kind payload).value.1 = some frame) :
    ∃ session', ((c.withLast registry (some (.numbered number bus (some receiver)))
      (engaged [] (.busy (.holding kind payload)))).work? number).map Logged.value =
        some (c.withLast registry session'
          (engaged [] (.busy (.calling receiver (.ofSession number) frame.bytes)))) := by
  refine ⟨some (.numbered number (bus.handle kind payload).value.2 (some receiver)), ?_⟩
  rw [work?, getElem?_withLast hlength]
  have hphase : (engaged [] (.busy (.holding kind payload)) : Queue (Task ρ)).phase =
      .busy (.holding kind payload) := rfl
  simp only [hphase, dispatch, withLast, Option.map_some, Logged.value_bind, hframe, Session.numbered,
    Logged.value_pure]
  exact congrArg some (setWorker_withLast hlength)

end Component

namespace System

variable {c d e : Component ρ} {call call' call'' : Option (Closing × List Stage)} {events more : List (Event ρ)}
  {closing : Closing} {stage : Stage} {front rest : List Stage} {setup : Setup} {bus : Bus} {number : Nat}

/-! ### What some events lead to -/

/-- The caller is in the middle of a call, or nobody is. -/
def onCaller (call : Option (Closing × List Stage)) (thread : Option Nat) : Option (Closing × List Stage) :=
  if thread = none then call else none

/-- Some events lead from one component to another, and from one point of a call of the caller to another. No receiver
is called on the way. -/
def Leads (c : Component ρ) (call : Option (Closing × List Stage)) (events : List (Event ρ)) (d : Component ρ)
    (call' : Option (Closing × List Stage)) : Prop :=
  ∀ s : System ρ, s.component = c → s.activity = onCaller call → ∃ s', s.run? events = some s' ∧ s'.component = d ∧
    s'.activity = onCaller call' ∧ s'.history.called = s.history.called

theorem Leads.refl (c : Component ρ) (call : Option (Closing × List Stage)) : Leads c call [] c call :=
  fun s hc ha => ⟨s, rfl, hc, ha, rfl⟩

theorem Leads.trans (h : Leads c call events d call') (h' : Leads d call' more e call'') :
    Leads c call (events ++ more) e call'' := by
  intro s hc ha
  obtain ⟨s', hrun, hc', ha', hcalled⟩ := h s hc ha
  obtain ⟨s'', hrun', hc'', ha'', hcalled'⟩ := h' s' hc' ha'
  exact ⟨s'', by rw [run?_append, hrun, Option.bind_some, hrun'], hc'', ha'', hcalled'.trans hcalled⟩

theorem Leads.of_step {event : Event ρ} (h : ∀ s : System ρ, s.component = c → s.activity = onCaller call →
    ∃ s', s.step? event = some s' ∧ s'.component = d ∧ s'.activity = onCaller call' ∧
      s'.history.called = s.history.called) : Leads c call [event] d call' := by
  intro s hc ha
  obtain ⟨s', hstep, hs'⟩ := h s hc ha
  exact ⟨s', by rw [run?, hstep]; rfl, hs'⟩

theorem activity_setActivity_none {s : System ρ} (ha : s.activity = onCaller call)
    (next : Option (Closing × List Stage)) : (s.setActivity none next).activity = onCaller next := by
  funext thread
  show (if thread = none then next else s.activity thread) = _
  rw [ha, onCaller, onCaller]
  split <;> rfl

theorem isFree_none {s : System ρ} (ha : s.activity = onCaller none) : s.isFree none = true := by
  rw [isFree, ha]
  rfl

theorem leads_request (r : Operation ρ) : Leads c none [.request none r] (c.after r) none :=
  .of_step fun s hc ha => by
    subst hc
    exact ⟨_, if_pos (isFree_none ha), rfl, ha, rfl⟩

theorem leads_start (closing : Closing) : Leads c none [.start none closing] c (some (closing, closing.stages)) :=
  .of_step fun _ hc ha => ⟨_, if_pos (isFree_none ha), hc, activity_setActivity_none ha _, rfl⟩

theorem leads_advance (hblocks : c.blocks stage = false) (hp : outcome (c.perform none stage) = .ok (front, d)) :
    Leads c (some (closing, stage :: rest)) [.advance none] d (some (closing, front ++ rest)) :=
  .of_step fun s hc ha => by
    subst hc
    have hcall : s.activity none = some (closing, stage :: rest) := by rw [ha]; rfl
    refine ⟨{ s.setActivity none (some (closing, front ++ rest)) with
      component := d, history := noteStage s.history none stage }, ?_, rfl, activity_setActivity_none ha _, ?_⟩
    · rw [step?, hcall]
      simp [hblocks, performStage, hp]
    · obtain ⟨detached, hnote⟩ := exists_noteStage_eq s.history none stage
      rw [hnote]

theorem leads_work {worker : Nat} (hwork : (c.work? worker).map Logged.value = some d) :
    Leads c call [.work worker] d call :=
  .of_step fun s hc ha => by
    subst hc
    obtain ⟨step, hstep, rfl⟩ := Option.map_eq_some_iff.1 hwork
    exact ⟨_, congrArg (Option.map _) hstep, rfl, ha, rfl⟩

theorem leads_finish : Leads c (some (closing, [])) [.finish none] c none :=
  .of_step fun s hc ha => by
    have hcall : s.activity none = some (closing, []) := by rw [ha]; rfl
    exact ⟨s.setActivity none none, by rw [step?, hcall], hc, activity_setActivity_none ha _, rfl⟩

/-- The receiver that a worker called returns, unless it makes a call itself. -/
theorem exists_step_resume {s : System ρ} {worker : Nat} {called : ρ × Handle × List UInt8}
    (ha : s.activity = onCaller none) (hcalling : s.component.calling? worker = some called) :
    ∃ s', s.step? (.resume worker) = some s' ∧ s'.history.called = s.history.called ++ [(worker, called)] := by
  have hidle : s.activity (some worker) = none := by rw [ha]; rfl
  rw [step?, hidle, hcalling]
  exact ⟨_, rfl, rfl⟩

/-! ### Opening and closing again and again -/

/-- The session with a number is opened, and closed until that is to return. -/
def openedAndClosing (number : Nat) : List (Event ρ) :=
  [.request none (.openSession none), .start none (.session (.ofSession number)), .advance none, .advance none,
    .work number, .advance none, .advance none]

/-- Some sessions are opened and closed one after the other, the first of them with a number. -/
def rounds (number : Nat) : Nat → List (Event ρ)
  | 0 => []
  | count + 1 => openedAndClosing number ++ .finish none :: rounds (number + 1) count

def handedIn (number : Nat) (receiver : ρ) (topic : String) (payload : ByteArray) : List (Event ρ) :=
  [.request none (.openSession none), .request none (.setReceiver (.ofSession number) (some receiver)),
    .request none (.deliver topic payload), .work number, .work number]

/-- When closing the session with a number is to return, it does, and then as many sessions are opened and closed as
there are generations but one. A message is handed in to the next session, and its receiver is called. -/
def comingAround (number : Nat) (receiver : ρ) (topic : String) (payload : ByteArray) : List (Event ρ) :=
  [.finish none] ++ rounds (number + 1) (UInt32.size - 1) ++ handedIn (number + UInt32.size) receiver topic payload ++
    [.resume (number + UInt32.size)]

theorem isQuiet_openedAndClosing (number : Nat) : ∀ event ∈ (openedAndClosing number : List (Event ρ)),
    event.isQuiet = true := by
  simp [openedAndClosing, Event.isQuiet]

theorem isQuiet_rounds (number count : Nat) : ∀ event ∈ (rounds number count : List (Event ρ)),
    event.isQuiet = true := by
  induction count generalizing number with
  | zero => exact List.forall_mem_nil _
  | succ count ih =>
    exact List.forall_mem_append.2 ⟨isQuiet_openedAndClosing number, List.forall_mem_cons.2 ⟨rfl, ih (number + 1)⟩⟩

theorem isQuiet_comingAround (number : Nat) (receiver : ρ) (topic : String) (payload : ByteArray) :
    ∀ event ∈ comingAround number receiver topic payload, event.isQuiet = true := by
  have hhanded : ∀ event ∈ handedIn (number + UInt32.size) receiver topic payload, event.isQuiet = true := by
    simp [handedIn, Event.isQuiet]
  exact List.forall_mem_append.2 ⟨List.forall_mem_append.2 ⟨List.forall_mem_append.2
    ⟨List.forall_mem_singleton.2 rfl, isQuiet_rounds _ _⟩, hhanded⟩, List.forall_mem_singleton.2 rfl⟩

/-- A session that is opened and closed leaves its worker and the next generation behind. -/
theorem leads_openedAndClosing (h : c.Awaits setup number) (hb : (Bus.ofSetup setup).value = some bus) :
    Leads c none (openedAndClosing number) (c.withLast (.atSession (number + 1) false) none Queue.unstarted)
      (some (.session (.ofSession number), [])) := by
  have hopen : Leads c none [.request none (.openSession none)] _ none := leads_request _
  have hvacate (session : Option (Session ρ)) :
      Leads (c.withLast (.atSession (number + 1) false) session Queue.unstarted)
        (some (.session (.ofSession number), [.vacate (.ofSession number)])) [.advance none]
        (c.withLast (.atSession (number + 1) false) none Queue.unstarted)
        (some (.session (.ofSession number), [] ++ [])) := leads_advance rfl rfl
  rw [h.after_openSession hb] at hopen
  exact hopen.trans <| (leads_start (.session (.ofSession number))).trans <|
    (leads_advance rfl (Component.perform_retire_withLast c number bus _)).trans <|
    (leads_advance rfl (Component.perform_shutDown_withLast h.length)).trans <|
    (leads_work (Component.work?_exiting h.length)).trans <|
    (leads_advance (Component.blocks_join_withLast h.length) rfl).trans (hvacate _)

/-- Any number of sessions can be opened and closed, and their numbers go on. -/
theorem exists_leads_rounds (h : c.Awaits setup number) (hb : (Bus.ofSetup setup).value = some bus) (count : Nat) :
    ∃ d : Component ρ, Leads c none (rounds number count) d none ∧ d.Awaits setup (number + count) := by
  induction count generalizing c number with
  | zero => exact ⟨c, .refl c none, h⟩
  | succ count ih =>
    obtain ⟨d, hleads, hd⟩ := ih h.next
    refine ⟨d, (leads_openedAndClosing h hb).trans (leads_finish.trans hleads), ?_⟩
    rwa [Nat.add_assoc, Nat.add_comm 1] at hd

/-- The worker of a session calls the receiver, with the handle that goes with the number. -/
theorem exists_leads_handedIn (h : c.Awaits setup number) (hb : (Bus.ofSetup setup).value = some bus) (receiver : ρ)
    {topic : String} {kind : MessageKind} (htopic : MessageKind.ofTopic? topic = some kind) {payload : ByteArray}
    {frame : Frame} (hframe : (bus.handle kind payload).value.1 = some frame) :
    ∃ d : Component ρ, Leads c none (handedIn number receiver topic payload) d none ∧
      d.calling? number = some (receiver, .ofSession number, frame.bytes) := by
  obtain ⟨session, hwork⟩ := Component.work?_holding (.atSession number true) h.length hframe
  have hopen : Leads c none [.request none (.openSession none)] _ none := leads_request _
  rw [h.after_openSession hb] at hopen
  have hset := leads_request (c := c.withLast (.atSession number true) (some (.numbered number bus none))
    (Queue.ofCapacity Queue.usualCapacity)) (.setReceiver (.ofSession number) (some receiver))
  rw [Component.after_setReceiver_withLast] at hset
  have hdeliver := leads_request (c := c.withLast (.atSession number true) (some (.numbered number bus (some receiver)))
    (Queue.ofCapacity Queue.usualCapacity)) (.deliver topic payload)
  rw [Component.after_deliver_withLast h.length htopic] at hdeliver
  refine ⟨_, hopen.trans <| hset.trans <| hdeliver.trans <| (leads_work (Component.work?_engaged h.length)).trans
    (leads_work hwork), ?_⟩
  rw [Component.calling?, Component.getElem?_withLast h.length]
  rfl

/-- When closing a session is to return, no receiver has been called for it; and after as many openings as there are
generations one is called with its handle. -/
theorem exists_called_again {s : System ρ} (ha : s.activity = onCaller none) (h : s.component.Awaits setup number)
    (hb : (Bus.ofSetup setup).value = some bus) (receiver : ρ) {topic : String} {kind : MessageKind}
    (htopic : MessageKind.ofTopic? topic = some kind) {payload : ByteArray} {frame : Frame}
    (hframe : (bus.handle kind payload).value.1 = some frame) :
    ∃ closed again, s.run? (openedAndClosing number) = some closed ∧
      closed.isReturning none (.session (.ofSession number)) ∧ closed.history.called = s.history.called ∧
      closed.run? (comingAround number receiver topic payload) = some again ∧ again.history.called =
        s.history.called ++ [(number + UInt32.size, receiver, .ofSession number, frame.bytes)] := by
  obtain ⟨closed, hclosed, hc, hcall, hcalled⟩ := leads_openedAndClosing h hb s rfl ha
  have hpositive : 0 < UInt32.size := by decide
  have hnext : number + 1 + (UInt32.size - 1) = number + UInt32.size := by omega
  obtain ⟨d, hrounds, hd⟩ := exists_leads_rounds h.next hb (UInt32.size - 1)
  rw [hnext] at hd
  obtain ⟨e, hhanded, hcalling⟩ := exists_leads_handedIn hd hb receiver htopic hframe
  obtain ⟨last, hlast, rfl, hidle, hsame⟩ := ((leads_finish.trans hrounds).trans hhanded) closed hc hcall
  rw [Handle.ofSession_add_size] at hcalling
  obtain ⟨again, hresume, hagain⟩ := exists_step_resume hidle hcalling
  refine ⟨closed, again, hclosed, by rw [isReturning, hcall]; rfl, hcalled, ?_, by rw [hagain, hsame, hcalled]⟩
  rw [comingAround, run?_append, hlast, Option.bind_some, run?, hresume]
  rfl

/-- A television is opened and closed. Closing it is to return without an error, and still its receiver's handle is
told to a receiver again. -/
theorem exists_called_after_closing : ∃ (closed again : System Unit) (frame : List UInt8),
    (∀ event ∈ loading ++ openedAndClosing 0 ++ comingAround 0 () MessageKind.command.topic announcement,
      event.isQuiet = true) ∧
    initial.run? (loading ++ openedAndClosing 0) = some closed ∧
    closed.isReturning none (.session (.ofSession 0)) ∧ closed.history.called = [] ∧
    closed.run? (comingAround 0 () MessageKind.command.topic announcement) = some again ∧
    again.history.called = [(UInt32.size, (), .ofSession 0, frame)] := by
  have hrun : (initial.run? loading).map (fun s : System Unit => decide (s.component.isInitialized = true ∧
      s.component.session.isNone ∧ s.component.registry = .atSession 0 false ∧ s.component.workers.length = 0 ∧
      (s.activity none).isNone ∧ s.history.called = [] ∧ (s.component.setup.bind fun setup =>
        (Bus.ofSetup setup).value.bind fun bus => (bus.handle .command announcement).value.1).isSome)) =
      some true := by decide +kernel
  obtain ⟨s, hs, hend⟩ := Option.map_eq_some_iff.1 hrun
  obtain ⟨hi, hnone, hregistry, hlength, hrest, hcalled, hframe⟩ := of_decide_eq_true hend
  obtain ⟨frame, hframe⟩ := Option.isSome_iff_exists.1 hframe
  obtain ⟨setup, hsetup, hframe⟩ := Option.bind_eq_some_iff.1 hframe
  obtain ⟨bus, hb, hframe⟩ := Option.bind_eq_some_iff.1 hframe
  have hquiet : ∀ event ∈ (loading : List (Event Unit)), event.isQuiet = true := by decide
  have ha : s.activity = onCaller none := by
    funext thread
    cases thread with
    | none => exact Option.isNone_iff_eq_none.1 hrest
    | some worker => exact (quiet_of_run hquiet hs).idle worker
  have hawaits : s.component.Awaits setup 0 := ⟨hi, hsetup, Option.isNone_iff_eq_none.1 hnone, hregistry, hlength⟩
  have htopic : MessageKind.ofTopic? MessageKind.command.topic = some .command := rfl
  obtain ⟨closed, again, hclosed, hreturning, hnever, hagain, hlast⟩ :=
    exists_called_again ha hawaits hb () htopic hframe
  rw [hcalled] at hnever hlast
  refine ⟨closed, again, frame.bytes, ?_, by rw [run?_append, hs, Option.bind_some, hclosed], hreturning, hnever,
    hagain, by rw [hlast, Nat.zero_add]; rfl⟩
  exact List.forall_mem_append.2 ⟨List.forall_mem_append.2 ⟨hquiet, isQuiet_openedAndClosing 0⟩,
    isQuiet_comingAround 0 () _ _⟩

end System

end CecBus
