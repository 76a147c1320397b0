import CecBus.Proofs.Queue.Draining

/-! What a queue counts while its threads go on in any order: the calls that it accepted, the calls that found no room,
and the messages that its handler is done with. What was accepted has been handled, or is with the handler, or was not
received yet; so a queue has no room when as many messages as its capacity were accepted and not received, and once it
is shut down all were handled. The request to exit that a shutdown puts in is none of the accepted messages and is
counted nowhere. Main result: `counters_balance`. -/

namespace CecBus

variable {τ : Type}

namespace Queue

/-- A message is refused because the queue is closed, or handed back for lack of room, or accepted. -/
theorem enqueue_cases (q : Queue τ) (message : Message) :
    (q.isClosed = true ∧ (q.enqueue message).value = (.error .closed, q)) ∨
      (q.isClosed = false ∧ q.isFull = true ∧ (q.enqueue message).value = (.error (.full message),
        { q with counters := { q.counters with dropped := q.counters.dropped + 1 } })) ∨
      q.isClosed = false ∧ q.isFull = false ∧ (q.enqueue message).value = (.ok (),
        { q with
          waiting := q.waiting ++ [message]
          counters := { q.counters with enqueued := q.counters.enqueued + 1 } }) := by
  unfold enqueue
  cases q.isClosed with
  | true => exact .inl ⟨rfl, rfl⟩
  | false =>
    cases q.isFull with
    | true => exact .inr (.inl ⟨rfl, rfl, rfl⟩)
    | false => exact .inr (.inr ⟨rfl, rfl, rfl⟩)

theorem isClosed_eq_false {q : Queue τ} : q.isClosed = false ↔ q.isOpen = true ∧ q.isStopped = false := by
  simp [isClosed]

/-- Asking the worker to exit counts nothing, and keeps to the room there is. -/
theorem requestExit_counters (q : Queue τ) : q.requestExit.value.counters = q.counters ∧
    q.requestExit.value.capacity = q.capacity ∧
    (q.waiting.length ≤ q.capacity → q.requestExit.value.waiting.length ≤ q.capacity) := by
  unfold requestExit
  split
  · exact ⟨rfl, rfl, id⟩
  · split
    · exact ⟨rfl, rfl, id⟩
    · refine ⟨rfl, rfl, fun hfits => ?_⟩
      cases hfull : q.isFull with
      | true => simpa [hfull] using hfits
      | false =>
        have hroom : q.waiting.length < q.capacity := by simpa [isFull] using hfull
        simpa [hfull, Nat.succ_le_iff] using hroom

end Queue

theorem Message.beforeExit_of_not_mem {messages : List Message} (h : .exit ∉ messages) :
    Message.beforeExit messages = messages := by
  have hall := Message.beforeExit_append_of_not_mem h []
  rwa [List.append_nil, show Message.beforeExit [] = [] from rfl, List.append_nil] at hall

namespace QueueSystem

def handedBack? : Except QueueError Unit → Option Message
  | .error (.full message) => some message
  | _ => none

def dropped (s : QueueSystem τ) : List Message := s.calls.filterMap fun call => handedBack? call.2

/-- The messages that the worker took out. It takes no more after an exit message. -/
def received (s : QueueSystem τ) : List Message := s.given ++ if s.isLeaving then [.exit] else []

def unreceived (s : QueueSystem τ) : List Message := s.accepted.drop s.received.length

/-- How many messages the handler has at the moment. -/
def inHand (s : QueueSystem τ) : Nat :=
  match s.queue.phase with
  | .busy _ => 1
  | _ => 0

variable {start : MessageKind → ByteArray → τ} {s s' : QueueSystem τ} {event : QueueEvent} {events : List QueueEvent}
  {capacity : Nat}

/-- The handler is given messages that are due, in order. -/
theorem Accounts.given_prefix (h : s.Accounts) : s.given <+: s.due := by
  rcases h.due_eq with ⟨-, hdue⟩ | ⟨-, hdue⟩ <;> simp [hdue]

/-- A worker that is done has given all messages to the handler, unless an exit message was accepted. -/
theorem Accounts.given_eq (h : s.Accounts) (hnone : .exit ∉ s.accepted) (hover : s.isOver = true) :
    s.given = s.accepted := by
  rw [(h.ended hover).1, due, Message.beforeExit_of_not_mem hnone]

theorem inHand_congr {queue : Queue τ} (h : queue.phase = s.queue.phase) :
    inHand { s with queue } = s.inHand := by
  rw [inHand, h, inHand]

theorem dropped_call (s : QueueSystem τ) (message : Message) (result : Except QueueError Unit) (queue : Queue τ) :
    dropped { s with queue, calls := s.calls ++ [(message, result)] } =
      s.dropped ++ (handedBack? result).toList := by
  cases h : handedBack? result <;> simp [dropped, h]

/-- The books of a system. What the worker took out and what waits are the accepted messages, perhaps with the request
to exit behind them. -/
structure Ledger (capacity : Nat) (s : QueueSystem τ) : Prop where
  capacity_eq : s.queue.capacity = max capacity 1
  fits : s.queue.waiting.length ≤ s.queue.capacity
  enqueued_eq : s.queue.counters.enqueued = s.accepted.length
  dropped_eq : s.queue.counters.dropped = s.dropped.length
  given_length : s.given.length = s.queue.counters.handled + s.inHand
  running : s.queue.isStopped = false → ∃ request, s.received ++ s.queue.waiting = s.accepted ++ request ∧
    (request = [] ∨ request = [.exit] ∧ s.queue.isOpen = false)

theorem ledger_ofCapacity (capacity : Nat) : (ofCapacity capacity : QueueSystem τ).Ledger capacity where
  capacity_eq := rfl
  fits := Nat.zero_le _
  enqueued_eq := rfl
  dropped_eq := rfl
  given_length := rfl
  running := fun _ => ⟨[], rfl, .inl rfl⟩

namespace Ledger

/-- As long as the queue is not shut down there is no request to exit. -/
theorem running_of_isOpen (h : s.Ledger capacity) (hopen : s.queue.isOpen = true)
    (hgoes : s.queue.isStopped = false) : s.received ++ s.queue.waiting = s.accepted := by
  obtain ⟨request, hsame, rfl | ⟨-, hclosed⟩⟩ := h.running hgoes
  · rw [hsame, List.append_nil]
  · rw [hopen] at hclosed
    cases hclosed

theorem refuse (h : s.Ledger capacity) (message : Message) (e : QueueError) : Ledger capacity
    { s with
      queue := { s.queue with counters :=
        { s.queue.counters with dropped := s.queue.counters.dropped + (handedBack? (.error e)).toList.length } }
      calls := s.calls ++ [(message, .error e)] } := by
  have haccepted : ∀ queue, accepted { s with queue, calls := s.calls ++ [(message, .error e)] } = s.accepted :=
    fun queue => by simpa [Except.isOk, Except.toBool] using s.accepted_call message (.error e) queue
  refine ⟨h.capacity_eq, h.fits, ?_, ?_, h.given_length, ?_⟩
  · rw [haccepted]
    exact h.enqueued_eq
  · rw [dropped_call, List.length_append, ← h.dropped_eq]
  · rw [haccepted]
    exact h.running

theorem enqueue (h : s.Ledger capacity) (message : Message) : Ledger capacity
    { s with
      queue := (s.queue.enqueue message).value.2
      calls := s.calls ++ [(message, (s.queue.enqueue message).value.1)] } := by
  rcases s.queue.enqueue_cases message with ⟨-, hvalue⟩ | ⟨-, -, hvalue⟩ | ⟨hclosed, hroom, hvalue⟩
  · rw [hvalue]
    exact h.refuse message .closed
  · rw [hvalue]
    exact h.refuse message (.full message)
  · have haccepted := s.accepted_call message (s.queue.enqueue message).value.1 (s.queue.enqueue message).value.2
    have hdropped := s.dropped_call message (s.queue.enqueue message).value.1 (s.queue.enqueue message).value.2
    rw [hvalue] at haccepted hdropped ⊢
    simp only [Except.isOk, Except.toBool, if_true, handedBack?, Option.toList_none, List.append_nil]
      at haccepted hdropped
    refine ⟨h.capacity_eq, ?_, ?_, ?_, h.given_length, fun hgoes => ?_⟩
    · simp only [Queue.isFull, decide_eq_false_iff_not, Nat.not_le] at hroom
      simpa [Nat.succ_le_iff] using hroom
    · rw [haccepted, List.length_append, ← h.enqueued_eq, List.length_singleton]
    · rw [hdropped]
      exact h.dropped_eq
    · refine ⟨[], ?_, .inl rfl⟩
      rw [haccepted, List.append_nil]
      change s.received ++ (s.queue.waiting ++ [message]) = _
      rw [← List.append_assoc, h.running_of_isOpen (Queue.isClosed_eq_false.1 hclosed).1 hgoes]

theorem takeExit (h : s.Ledger capacity) {rest : List Message} (hstays : s.isLeaving = false)
    (hphase : s.queue.phase = .idle) (hwaiting : s.queue.waiting = .exit :: rest) : Ledger capacity
    { s with queue := { s.queue with waiting := rest }, isLeaving := true } := by
  obtain ⟨request, hsame, hrequest⟩ := h.running (by rw [Queue.isStopped, hphase])
  have hfits := h.fits
  rw [hwaiting, List.length_cons] at hfits
  refine ⟨h.capacity_eq, Nat.le_of_succ_le hfits, h.enqueued_eq, h.dropped_eq, h.given_length,
    fun _ => ⟨request, ?_, hrequest⟩⟩
  change s.given ++ [.exit] ++ rest = s.accepted ++ request
  rw [received, hstays, hwaiting] at hsame
  simpa using hsame

theorem give (h : s.Ledger capacity) {kind : MessageKind} {payload : ByteArray} {rest : List Message} {task : τ}
    (hstays : s.isLeaving = false) (hphase : s.queue.phase = .idle)
    (hwaiting : s.queue.waiting = .control kind payload :: rest) : Ledger capacity
    { s with
      queue := { s.queue with waiting := rest, phase := .busy task }
      given := s.given ++ [.control kind payload] } := by
  obtain ⟨request, hsame, hrequest⟩ := h.running (by rw [Queue.isStopped, hphase])
  have hfits := h.fits
  have hgiven := h.given_length
  rw [hwaiting, List.length_cons] at hfits
  rw [inHand, hphase] at hgiven
  refine ⟨h.capacity_eq, Nat.le_of_succ_le hfits, h.enqueued_eq, h.dropped_eq, ?_, fun _ => ⟨request, ?_, hrequest⟩⟩
  · rw [List.length_append, hgiven]
    rfl
  · rw [received, hstays, hwaiting] at hsame
    change (s.given ++ [_] ++ if s.isLeaving then [.exit] else []) ++ rest = s.accepted ++ request
    rw [hstays]
    simpa using hsame

theorem stop (h : s.Ledger capacity) (hphase : s.queue.phase = .idle) (isLeaving : Bool) :
    Ledger capacity { s with queue := s.queue.stop, isLeaving } := by
  have hgiven := h.given_length
  rw [inHand, hphase] at hgiven
  exact ⟨h.capacity_eq, Nat.zero_le _, h.enqueued_eq, h.dropped_eq, hgiven, nofun⟩

theorem finish (h : s.Ledger capacity) {task : τ} (hphase : s.queue.phase = .busy task) :
    Ledger capacity { s with queue := s.queue.finish } := by
  have hgiven := h.given_length
  rw [inHand, hphase] at hgiven
  exact ⟨h.capacity_eq, h.fits, h.enqueued_eq, h.dropped_eq, hgiven,
    fun _ => h.running (by rw [Queue.isStopped, hphase])⟩

theorem shutDown (h : s.Ledger capacity) (shutdown : Shutdown) :
    Ledger capacity { s with queue := s.queue.requestExit.value, shutdown } := by
  obtain ⟨hcounters, hcapacity, hfits⟩ := s.queue.requestExit_counters
  obtain ⟨hclosed, hphase, hwaiting⟩ := s.queue.value_requestExit
  refine ⟨?_, ?_, ?_, ?_, ?_, fun hgoes => ?_⟩
  · rw [hcapacity]
    exact h.capacity_eq
  · rw [hcapacity]
    exact hfits h.fits
  · rw [hcounters]
    exact h.enqueued_eq
  · rw [hcounters]
    exact h.dropped_eq
  · rw [hcounters]
    exact h.given_length.trans (congrArg _ (inHand_congr hphase).symm)
  · rw [Queue.isStopped_congr hphase] at hgoes
    rcases hwaiting with hwaiting | ⟨hopen, -, hwaiting⟩
    · obtain ⟨request, hsame, hrequest⟩ := h.running hgoes
      exact ⟨request, by rw [hwaiting]; exact hsame, hrequest.imp_right fun hexit => ⟨hexit.1, hclosed⟩⟩
    · refine ⟨[.exit], ?_, .inr ⟨rfl, hclosed⟩⟩
      change s.received ++ _ = s.accepted ++ _
      rw [hwaiting, ← List.append_assoc, h.running_of_isOpen hopen hgoes]

/-- Every step keeps the books. -/
theorem step (h : s.Ledger capacity) (ha : s.Accounts) (hstep : s.step? start event = some s') :
    s'.Ledger capacity := by
  cases step_of_step? hstep with
  | enqueue message => exact h.enqueue message
  | takeExit hstays hphase hwaiting => exact h.takeExit hstays hphase hwaiting
  | give hstays hphase hwaiting => exact h.give hstays hphase hwaiting
  | stop _ hphase => exact h.stop hphase s.isLeaving
  | leave hleaves => exact h.stop (ha.idle_of_leaving hleaves) false
  | finish hphase => exact h.finish hphase
  | shutDown => exact h.shutDown _
  | join => exact ⟨h.capacity_eq, h.fits, h.enqueued_eq, h.dropped_eq, h.given_length, h.running⟩

theorem run (h : s.Ledger capacity) (ha : s.Accounts) (hrun : s.run? start events = some s') :
    s'.Ledger capacity := by
  induction events generalizing s with
  | nil =>
    cases hrun
    exact h
  | cons event rest ih =>
    obtain ⟨next, hnext, hrest⟩ := Option.bind_eq_some_iff.1 hrun
    exact ih (h.step ha hnext) (ha.step hnext) hrest

/-- What waits was accepted and not received yet, but for the request to exit. -/
theorem exists_waiting_eq (h : s.Ledger capacity) (hgoes : s.queue.isStopped = false) :
    ∃ request, s.queue.waiting = s.unreceived ++ request ∧
      (request = [] ∨ request = [.exit] ∧ s.queue.isOpen = false) := by
  obtain ⟨request, hsame, hrequest⟩ := h.running hgoes
  have hdrop := congrArg (List.drop s.received.length) hsame
  rw [List.drop_left, List.drop_append] at hdrop
  refine ⟨_, hdrop, ?_⟩
  rcases hrequest with rfl | ⟨rfl, hclosed⟩
  · exact .inl List.drop_nil
  · cases s.received.length - s.accepted.length with
    | zero => exact .inr ⟨rfl, hclosed⟩
    | succ n => exact .inl List.drop_nil

/-- As long as the queue is not shut down, what waits is what was accepted and not received. -/
theorem waiting_eq (h : s.Ledger capacity) (hopen : s.queue.isOpen = true) (hgoes : s.queue.isStopped = false) :
    s.queue.waiting = s.unreceived := by
  rw [unreceived, ← h.running_of_isOpen hopen hgoes, List.drop_left]

/-- A message is handed back when the worker has not stopped and there is no room, and it is the message itself. -/
theorem enqueue_eq_full (h : s.Ledger capacity) (ha : s.Accounts) {message other : Message} :
    (s.queue.enqueue message).value.1 = .error (.full other) ↔
      other = message ∧ s.shutdown = .notCalled ∧ s.queue.isStopped = false ∧
        s.unreceived.length = max capacity 1 := by
  constructor
  · intro hfull
    rcases s.queue.enqueue_cases message with ⟨-, hvalue⟩ | ⟨hclosed, hroom, hvalue⟩ | ⟨-, -, hvalue⟩
    · rw [hvalue] at hfull
      cases hfull
    · rw [hvalue] at hfull
      cases hfull
      obtain ⟨hopen, hgoes⟩ := Queue.isClosed_eq_false.1 hclosed
      have hlength : s.queue.capacity ≤ s.queue.waiting.length := by simpa [Queue.isFull] using hroom
      rw [← h.waiting_eq hopen hgoes, ← h.capacity_eq]
      exact ⟨rfl, ha.isOpen_iff.1 hopen, hgoes, Nat.le_antisymm h.fits hlength⟩
    · rw [hvalue] at hfull
      cases hfull
  · rintro ⟨rfl, hcalled, hgoes, hlength⟩
    have hopen := ha.isOpen_iff.2 hcalled
    rw [← h.waiting_eq hopen hgoes, ← h.capacity_eq] at hlength
    rcases s.queue.enqueue_cases other with ⟨hclosed, -⟩ | ⟨-, -, hvalue⟩ | ⟨-, hroom, -⟩
    · rw [Queue.isClosed_eq_false.2 ⟨hopen, hgoes⟩] at hclosed
      cases hclosed
    · rw [hvalue]
    · simp [Queue.isFull, hlength] at hroom

/-- Once the worker has stopped, all accepted messages were handled, unless an exit message was among them. -/
theorem handled_eq_of_isStopped (h : s.Ledger capacity) (ha : s.Accounts) (hnone : .exit ∉ s.accepted)
    (hstopped : s.queue.isStopped = true) : s.queue.counters.handled = s.queue.counters.enqueued := by
  have hgiven := h.given_length
  rw [ha.given_eq hnone (by rw [isOver, hstopped, Bool.or_true]), inHand, Queue.isStopped_iff.1 hstopped] at hgiven
  rw [h.enqueued_eq]
  exact hgiven.symm

/-- As long as no exit message was accepted, every accepted message was handled, or is with the handler, or was not
received yet. -/
theorem balance (h : s.Ledger capacity) (ha : s.Accounts) (hnone : .exit ∉ s.accepted) :
    s.queue.counters.handled + s.unreceived.length + s.inHand = s.queue.counters.enqueued := by
  have hgiven := h.given_length
  rw [h.enqueued_eq, unreceived, List.length_drop]
  cases hover : s.isOver with
  | true =>
    rw [received, List.length_append]
    rw [ha.given_eq hnone hover] at hgiven ⊢
    omega
  | false =>
    have hprefix := ha.given_prefix.length_le
    rw [due, Message.beforeExit_of_not_mem hnone] at hprefix
    have hstays : s.isLeaving = false := (Bool.or_eq_false_iff.1 hover).1
    simp only [received, hstays, Bool.false_eq_true, if_false, List.append_nil]
    omega

end Ledger

/-- One more message is handled when the handler is done with one, and at no other step. -/
theorem handled_step (hstep : s.step? start event = some s') :
    s'.queue.counters.handled = s.queue.counters.handled + [event].count .finish := by
  cases step_of_step? hstep with
  | enqueue message =>
    rcases s.queue.enqueue_cases message with ⟨-, hvalue⟩ | ⟨-, -, hvalue⟩ | ⟨-, -, hvalue⟩ <;> rw [hvalue] <;> rfl
  | shutDown => exact congrArg QueueCounters.handled s.queue.requestExit_counters.1
  | takeExit | give | stop | leave | finish | join => rfl

theorem handled_run (hrun : s.run? start events = some s') :
    s'.queue.counters.handled = s.queue.counters.handled + events.count .finish := by
  induction events generalizing s with
  | nil =>
    cases hrun
    rfl
  | cons event rest ih =>
    obtain ⟨next, hnext, hrest⟩ := Option.bind_eq_some_iff.1 hrun
    rw [ih hrest, handled_step hnext, Nat.add_assoc, ← List.count_append, List.singleton_append]

/-- A shutdown that nobody has asked for yet can be carried out, and returns. -/
theorem Accounts.exists_run_of_notCalled (h : s.Accounts) (start : MessageKind → ByteArray → τ)
    (hcalled : s.shutdown = .notCalled) : ∃ more s', (∀ event ∈ more, event.isOfWorker) ∧
      s.run? start (.shutDown :: (more ++ [.join])) = some s' ∧ s'.shutdown = .returned := by
  have hopen := h.isOpen_iff.2 hcalled
  have hstep : s.step? start .shutDown =
      some { s with queue := s.queue.requestExit.value, shutdown := .waiting } := by
    simp [step?, hcalled, hopen]
  obtain ⟨more, s', hall, hrun, hreturned⟩ := (h.step hstep).exists_run_of_waiting start rfl
  refine ⟨more, s', hall, ?_, hreturned⟩
  rw [run?, hstep, Option.bind_some]
  exact hrun

/-- However the threads of a queue are interleaved, its counters are those of its history. A message finds no room
exactly if the worker goes on and as many messages as the capacity were accepted and not received; it is handed back,
and only the counter of dropped messages changes. What waits in the channel are those messages, with at most the request
to exit behind them. The counters are the numbers of accepted calls, of calls that found no room and of times that the
handler came back. As long as no exit message was accepted, each accepted message was handled, or is with the handler,
or was not received yet, and when shutting the queue down returns, as it always can, all were handled. -/
theorem counters_balance (hrun : (ofCapacity capacity).run? start events = some s) :
    (∀ message other, (s.queue.enqueue message).value.1 = .error (.full other) ↔
        other = message ∧ s.shutdown = .notCalled ∧ s.queue.isStopped = false ∧
          s.unreceived.length = max capacity 1) ∧
      (∀ message, (s.queue.enqueue message).value.1 = .error (.full message) →
        (s.queue.enqueue message).value.2 =
          { s.queue with counters := { s.queue.counters with dropped := s.queue.counters.dropped + 1 } }) ∧
      (s.queue.isStopped = false → ∃ request, s.queue.waiting = s.unreceived ++ request ∧
        (request = [] ∨ request = [.exit] ∧ s.shutdown ≠ .notCalled)) ∧
      s.queue.counters.enqueued = s.accepted.length ∧
      s.queue.counters.dropped = s.dropped.length ∧
      s.queue.counters.handled = events.count .finish ∧
      (.exit ∉ s.accepted →
        s.queue.counters.handled + s.unreceived.length + s.inHand = s.queue.counters.enqueued ∧
          (s.shutdown = .returned → s.queue.counters.handled = s.queue.counters.enqueued)) ∧
      (s.shutdown = .notCalled → ∃ more s', (∀ event ∈ more, event.isOfWorker) ∧
        s.run? start (.shutDown :: (more ++ [.join])) = some s' ∧ s'.shutdown = .returned) := by
  have ha := (accounts_ofCapacity capacity).run hrun
  have h := (ledger_ofCapacity capacity).run (accounts_ofCapacity capacity) hrun
  refine ⟨fun message other => h.enqueue_eq_full ha, fun message hfull => ?_, fun hgoes => ?_, h.enqueued_eq,
    h.dropped_eq, ?_, fun hnone => ⟨h.balance ha hnone, fun hreturned => ?_⟩, fun hcalled => ?_⟩
  · rcases s.queue.enqueue_cases message with ⟨-, hvalue⟩ | ⟨-, -, hvalue⟩ | ⟨-, -, hvalue⟩
    · rw [hvalue] at hfull
      cases hfull
    · rw [hvalue]
    · rw [hvalue] at hfull
      cases hfull
  · obtain ⟨request, hwaiting, hrequest⟩ := h.exists_waiting_eq hgoes
    refine ⟨request, hwaiting, hrequest.imp_right fun ⟨hexit, hclosed⟩ => ⟨hexit, fun hcalled => ?_⟩⟩
    rw [ha.isOpen_iff.2 hcalled] at hclosed
    cases hclosed
  · rw [handled_run hrun]
    exact Nat.zero_add _
  · exact h.handled_eq_of_isStopped ha hnone (ha.stopped_of_returned hreturned)
  · exact ha.exists_run_of_notCalled start hcalled

/-- When the handler holds the first message and the second waits, there is no room for a third; in the end both were
handled and one was dropped. -/
theorem fullRun_balanced : ∃ s s' : QueueSystem Unit,
    (ofCapacity 0).run? (fun _ _ => ()) (fullRun.take 3) = some s ∧ s.unreceived = [numbered 2] ∧
      (s.queue.enqueue (numbered 3)).value.1 = .error (.full (numbered 3)) ∧
      s.queue.counters.handled + 1 + s.inHand = s.queue.counters.enqueued ∧
      (ofCapacity 0).run? (fun _ _ => ()) fullRun = some s' ∧ s'.shutdown = .returned ∧
      s'.queue.counters.handled = s'.queue.counters.enqueued ∧ s'.queue.counters = ⟨2, 1, 2⟩ := by
  have hheld : ((ofCapacity 0 : QueueSystem Unit).run? (fun _ _ => ()) (fullRun.take 3)).map (fun s =>
      (s.accepted, s.unreceived, s.shutdown, s.queue.isStopped)) =
      some ([numbered 1, numbered 2], [numbered 2], .notCalled, false) := by
    decide +kernel
  have hover : ((ofCapacity 0 : QueueSystem Unit).run? (fun _ _ => ()) fullRun).map (fun s =>
      (s.accepted, s.shutdown, s.queue.counters)) =
      some ([numbered 1, numbered 2], .returned, ⟨2, 1, 2⟩) := by
    decide +kernel
  obtain ⟨s, hs, hsame⟩ := Option.map_eq_some_iff.1 hheld
  obtain ⟨s', hs', hsame'⟩ := Option.map_eq_some_iff.1 hover
  simp only [Prod.mk.injEq] at hsame hsame'
  obtain ⟨haccepted, hunreceived, hcalled, hgoes⟩ := hsame
  obtain ⟨haccepted', hreturned, hcounters⟩ := hsame'
  obtain ⟨hfull, -, -, -, -, -, hbalance, -⟩ := counters_balance hs
  obtain ⟨-, -, -, -, -, -, hbalance', -⟩ := counters_balance hs'
  have hnone : .exit ∉ s.accepted := by
    rw [haccepted]
    decide
  have hnone' : .exit ∉ s'.accepted := by
    rw [haccepted']
    decide
  refine ⟨s, s', hs, hunreceived, (hfull _ _).2 ⟨rfl, hcalled, hgoes, ?_⟩, ?_, hs', hreturned,
    (hbalance' hnone').2 hreturned, hcounters⟩
  · rw [hunreceived]
    rfl
  · have hsum := (hbalance hnone).1
    rwa [hunreceived] at hsum

end QueueSystem

end CecBus
