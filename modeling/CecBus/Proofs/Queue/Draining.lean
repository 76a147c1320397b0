import CecBus.Proofs.Component.Queues

/-! A queue among its threads. Producers hand messages in, the worker takes them out and gives them to its handler one
after the other, and another thread shuts the queue down and waits for the worker. Every operation on the channel is one
step, and the steps of the threads come in any order. A worker that takes an exit message lets go of the channel in a
step of its own, and what is accepted in between is lost. Main result: `given_in_order`. -/

namespace CecBus

variable {τ : Type}

namespace Message

def beforeExit (messages : List Message) : List Message := messages.takeWhile (· ≠ .exit)

theorem beforeExit_append_of_not_mem {messages : List Message} (h : .exit ∉ messages) (rest : List Message) :
    beforeExit (messages ++ rest) = messages ++ beforeExit rest := by
  apply List.takeWhile_append_of_pos
  intro message hmem
  have hne : message ≠ .exit := fun he => h (he ▸ hmem)
  simpa using hne

theorem beforeExit_append_of_mem {messages : List Message} (h : .exit ∈ messages) (rest : List Message) :
    beforeExit (messages ++ rest) = beforeExit messages := by
  obtain ⟨before, after, rfl, hnot⟩ := List.eq_append_cons_of_mem h
  rw [List.append_assoc, beforeExit_append_of_not_mem hnot, beforeExit_append_of_not_mem hnot]
  rfl

/-- An exit message at the end does not matter. -/
theorem beforeExit_append_exit (messages : List Message) : beforeExit (messages ++ [.exit]) = beforeExit messages := by
  by_cases h : .exit ∈ messages
  · exact beforeExit_append_of_mem h _
  · have hself := beforeExit_append_of_not_mem h []
    rw [List.append_nil] at hself
    rw [beforeExit_append_of_not_mem h, hself]
    rfl

end Message

namespace Queue

/-- The worker takes an exit message out, and is about to stop. -/
def takeExit? (q : Queue τ) : Option (Queue τ) :=
  match q.phase, q.waiting with
  | .idle, .exit :: rest => some { q with waiting := rest }
  | _, _ => none

/-- The message that the worker is about to give to its handler. -/
def next? (q : Queue τ) : Option Message :=
  match q.phase, q.waiting with
  | .idle, .control kind payload :: _ => some (.control kind payload)
  | _, _ => none

theorem takeExit?_eq_some {q q' : Queue τ} : q.takeExit? = some q' ↔
    q.phase = .idle ∧ ∃ rest, q.waiting = .exit :: rest ∧ q' = { q with waiting := rest } := by
  unfold takeExit?
  split
  · next rest hphase hwaiting =>
    simp only [Option.some.injEq, hphase, hwaiting, true_and, List.cons.injEq, exists_eq_left', @eq_comm _ q']
  · next hneither =>
    refine ⟨nofun, ?_⟩
    rintro ⟨hphase, rest, hwaiting, -⟩
    exact absurd hwaiting (hneither rest hphase)

/-- A worker that does not receive an exit message gives a message to its handler, or stops because nothing can come any
more. -/
theorem receive?_of_takeExit?_eq_none {q : Queue τ} {start : MessageKind → ByteArray → τ} {step : Logged (Queue τ)}
    (hnone : q.takeExit? = none) (hs : q.receive? start = some step) :
    (q.phase = .idle ∧ ∃ kind payload rest, q.waiting = .control kind payload :: rest ∧
        q.next? = some (.control kind payload) ∧
        step.value = { q with waiting := rest, phase := .busy (start kind payload) }) ∨
      q.phase = .idle ∧ q.waiting = [] ∧ q.isOpen = false ∧ q.next? = none ∧ step.value = q.stop := by
  unfold receive? at hs
  split at hs
  · next rest hphase hwaiting =>
    rw [takeExit?_eq_some.2 ⟨hphase, rest, hwaiting, rfl⟩] at hnone
    cases hnone
  · next kind payload rest hphase hwaiting =>
    cases hs
    exact .inl ⟨hphase, kind, payload, rest, hwaiting, by rw [next?, hphase, hwaiting], rfl⟩
  · next hphase hwaiting =>
    split at hs
    · cases hs
    · next hclosed =>
      cases hs
      exact .inr ⟨hphase, hwaiting, by simpa using hclosed, by rw [next?, hphase, hwaiting], rfl⟩
  · cases hs

end Queue

/-- How far shutting a queue down has come: the caller has exclusive access to the queue while it waits. -/
inductive Shutdown where
  | notCalled
  | waiting
  | returned
  deriving DecidableEq

/-- A queue with its worker and the thread that shuts it down. A system keeps the calls of its producers, with what they
returned, and what the handler was given. -/
structure QueueSystem (τ : Type) where
  queue : Queue τ
  isLeaving : Bool := false
  shutdown : Shutdown := .notCalled
  calls : List (Message × Except QueueError Unit) := []
  given : List Message := []

/-- What happens next. -/
inductive QueueEvent where
  | enqueue (message : Message)
  | receive
  | leave
  | finish
  | shutDown
  | join
  deriving DecidableEq

def QueueEvent.isOfWorker : QueueEvent → Bool
  | .receive | .leave | .finish => true
  | .enqueue _ | .shutDown | .join => false

namespace QueueSystem

def ofCapacity (capacity : Nat) : QueueSystem τ := { queue := .ofCapacity capacity }

def accepted (s : QueueSystem τ) : List Message := (s.calls.filter (·.2.isOk)).map Prod.fst

/-- The accepted messages up to the first exit message. -/
def due (s : QueueSystem τ) : List Message := Message.beforeExit s.accepted

/-- The system after an event, if that can happen. -/
def step? (start : MessageKind → ByteArray → τ) (s : QueueSystem τ) : QueueEvent → Option (QueueSystem τ)
  | .enqueue message =>
    let (result, queue) := (s.queue.enqueue message).value
    some { s with queue, calls := s.calls ++ [(message, result)] }
  | .receive =>
    if s.isLeaving then none
    else
      match s.queue.takeExit? with
      | some queue => some { s with queue, isLeaving := true }
      | none =>
        (s.queue.receive? start).map fun step =>
          { s with queue := step.value, given := s.given ++ s.queue.next?.toList }
  | .leave => if s.isLeaving then some { s with queue := s.queue.stop, isLeaving := false } else none
  | .finish =>
    match s.queue.phase with
    | .busy _ => some { s with queue := s.queue.finish }
    | _ => none
  | .shutDown =>
    if s.shutdown = .waiting then none
    else
      some
        { s with
          queue := s.queue.requestExit.value
          shutdown := if s.queue.isOpen then .waiting else .returned }
  | .join => if s.shutdown = .waiting ∧ s.queue.isStopped then some { s with shutdown := .returned } else none

def run? (start : MessageKind → ByteArray → τ) (s : QueueSystem τ) : List QueueEvent → Option (QueueSystem τ)
  | [] => some s
  | event :: rest => (s.step? start event).bind (·.run? start rest)

variable {start : MessageKind → ByteArray → τ} {s s' : QueueSystem τ} {event : QueueEvent} {events : List QueueEvent}

/-- What an event needs, and what it leads to. -/
inductive Step (start : MessageKind → ByteArray → τ) (s : QueueSystem τ) : QueueEvent → QueueSystem τ → Prop
  | enqueue (message : Message) : Step start s (.enqueue message)
      { s with
        queue := (s.queue.enqueue message).value.2
        calls := s.calls ++ [(message, (s.queue.enqueue message).value.1)] }
  | takeExit {rest : List Message} (hstays : s.isLeaving = false) (hphase : s.queue.phase = .idle)
      (hwaiting : s.queue.waiting = .exit :: rest) : Step start s .receive
      { s with queue := { s.queue with waiting := rest }, isLeaving := true }
  | give {kind : MessageKind} {payload : ByteArray} {rest : List Message} (hstays : s.isLeaving = false)
      (hphase : s.queue.phase = .idle) (hwaiting : s.queue.waiting = .control kind payload :: rest) :
      Step start s .receive
      { s with
        queue := { s.queue with waiting := rest, phase := .busy (start kind payload) }
        given := s.given ++ [.control kind payload] }
  | stop (hstays : s.isLeaving = false) (hphase : s.queue.phase = .idle) (hwaiting : s.queue.waiting = [])
      (hclosed : s.queue.isOpen = false) : Step start s .receive { s with queue := s.queue.stop }
  | leave (hleaves : s.isLeaving = true) : Step start s .leave { s with queue := s.queue.stop, isLeaving := false }
  | finish {task : τ} (hphase : s.queue.phase = .busy task) : Step start s .finish { s with queue := s.queue.finish }
  | shutDown (hcaller : s.shutdown ≠ .waiting) : Step start s .shutDown
      { s with
        queue := s.queue.requestExit.value
        shutdown := if s.queue.isOpen then .waiting else .returned }
  | join (hwaits : s.shutdown = .waiting) (hstopped : s.queue.isStopped) : Step start s .join
      { s with shutdown := .returned }

theorem step_of_step? (h : s.step? start event = some s') : Step start s event s' := by
  cases event with
  | enqueue message =>
    cases h
    exact .enqueue message
  | receive =>
    rw [step?] at h
    split at h
    · cases h
    · next hstays =>
      have hstays : s.isLeaving = false := by simpa using hstays
      split at h
      · next queue htake =>
        cases h
        obtain ⟨hphase, rest, hwaiting, rfl⟩ := Queue.takeExit?_eq_some.1 htake
        exact .takeExit hstays hphase hwaiting
      · next htake =>
        obtain ⟨received, hreceived, rfl⟩ := Option.map_eq_some_iff.1 h
        rcases Queue.receive?_of_takeExit?_eq_none htake hreceived with
          ⟨hphase, kind, payload, rest, hwaiting, hnext, hvalue⟩ | ⟨hphase, hwaiting, hclosed, hnext, hvalue⟩
        · rw [hnext, hvalue]
          exact .give hstays hphase hwaiting
        · rw [hnext, hvalue, Option.toList_none, List.append_nil]
          exact .stop hstays hphase hwaiting hclosed
  | leave =>
    rw [step?] at h
    split at h
    · next hleaves =>
      cases h
      exact .leave hleaves
    · cases h
  | finish =>
    rw [step?] at h
    split at h
    · next hphase =>
      cases h
      exact .finish hphase
    · cases h
  | shutDown =>
    rw [step?] at h
    split at h
    · cases h
    · next hcaller =>
      cases h
      exact .shutDown hcaller
  | join =>
    rw [step?] at h
    split at h
    · next hjoin =>
      cases h
      exact .join hjoin.1 hjoin.2
    · cases h

/-! ### Accounts -/

/-- Whether the worker takes no more messages out. -/
def isOver (s : QueueSystem τ) : Bool := s.isLeaving || s.queue.isStopped

/-- What was accepted is accounted for. As long as the worker goes on it was given to the handler or waits, perhaps with
the request to exit behind it; after that, the handler was given what was due. -/
structure Accounts (s : QueueSystem τ) : Prop where
  no_exit : .exit ∉ s.given
  running : s.isOver = false → ∃ request, s.given ++ s.queue.waiting = s.accepted ++ request ∧
    (request = [] ∨ request = [.exit] ∧ s.queue.isOpen = false)
  ended : s.isOver = true → s.given = s.due ∧ (.exit ∈ s.accepted ∨ s.queue.isOpen = false)
  idle_of_leaving : s.isLeaving = true → s.queue.phase = .idle
  isOpen_iff : s.queue.isOpen = true ↔ s.shutdown = .notCalled
  stopped_of_returned : s.shutdown = .returned → s.queue.isStopped = true

theorem accounts_ofCapacity (capacity : Nat) : (ofCapacity capacity : QueueSystem τ).Accounts where
  no_exit := List.not_mem_nil
  running := fun _ => ⟨[], rfl, .inl rfl⟩
  ended := nofun
  idle_of_leaving := nofun
  isOpen_iff := ⟨fun _ => rfl, fun _ => rfl⟩
  stopped_of_returned := nofun

theorem accepted_call (s : QueueSystem τ) (message : Message) (result : Except QueueError Unit) (queue : Queue τ) :
    accepted { s with queue, calls := s.calls ++ [(message, result)] } =
      s.accepted ++ if result.isOk then [message] else [] := by
  cases h : result.isOk <;> simp [accepted, h]

namespace Accounts

/-- The handler was given what was due, or what is due next waits for it. -/
theorem due_eq (h : s.Accounts) : s.isOver = true ∧ s.due = s.given ∨
    s.isOver = false ∧ s.due = s.given ++ Message.beforeExit s.queue.waiting := by
  cases hover : s.isOver with
  | true => exact .inl ⟨rfl, (h.ended hover).1.symm⟩
  | false =>
    obtain ⟨request, hsame, hrequest⟩ := h.running hover
    refine .inr ⟨rfl, ?_⟩
    calc s.due = Message.beforeExit (s.accepted ++ request) := by
          rcases hrequest with rfl | ⟨rfl, -⟩
          · rw [List.append_nil, due]
          · rw [Message.beforeExit_append_exit, due]
      _ = s.given ++ Message.beforeExit s.queue.waiting := by
          rw [← hsame, Message.beforeExit_append_of_not_mem h.no_exit]

theorem enqueue (h : s.Accounts) (message : Message) : Accounts
    { s with
      queue := (s.queue.enqueue message).value.2
      calls := s.calls ++ [(message, (s.queue.enqueue message).value.1)] } := by
  obtain ⟨hok, hwaiting, hopen, hphase⟩ := s.queue.value_enqueue message
  have hstopped := Queue.isStopped_congr hphase
  have haccepted := s.accepted_call message (s.queue.enqueue message).value.1 (s.queue.enqueue message).value.2
  refine ⟨h.no_exit, fun hover => ?_, fun hover => ?_, fun hleaves => ?_, ?_, fun hreturned => ?_⟩
  · rw [isOver, hstopped] at hover
    obtain ⟨request, hsame, hrequest⟩ := h.running hover
    rw [haccepted, hwaiting, hopen]
    by_cases hk : (s.queue.enqueue message).value.1.isOk
    · have hopened : s.queue.isOpen = true := by
        have hclosed := (hok.1 hk).1
        simp only [Queue.isClosed, Bool.or_eq_false_iff, Bool.not_eq_false'] at hclosed
        exact hclosed.1
      obtain rfl : request = [] := by
        rcases hrequest with hnil | ⟨-, hclosed⟩
        · exact hnil
        · rw [hopened] at hclosed
          cases hclosed
      refine ⟨[], ?_, .inl rfl⟩
      simp only [hk, if_true]
      rw [← List.append_assoc, hsame, List.append_nil, List.append_nil]
    · refine ⟨request, ?_, hrequest⟩
      simpa only [hk, Bool.false_eq_true, if_false, List.append_nil] using hsame
  · rw [isOver, hstopped] at hover
    obtain ⟨hgiven, hend⟩ := h.ended hover
    rw [due, haccepted, hopen]
    by_cases hk : (s.queue.enqueue message).value.1.isOk
    · have hexit : .exit ∈ s.accepted := by
        refine hend.resolve_right fun hclosed => ?_
        have hnot := (hok.1 hk).1
        rw [Queue.isClosed, hclosed] at hnot
        cases hnot
      simp only [hk, if_true]
      exact ⟨by rw [Message.beforeExit_append_of_mem hexit, hgiven, due], .inl (List.mem_append_left _ hexit)⟩
    · simp only [hk, Bool.false_eq_true, if_false, List.append_nil]
      exact ⟨hgiven, hend⟩
  · rw [hphase]
    exact h.idle_of_leaving hleaves
  · rw [hopen]
    exact h.isOpen_iff
  · rw [hstopped]
    exact h.stopped_of_returned hreturned

theorem takeExit (h : s.Accounts) {rest : List Message} (hstays : s.isLeaving = false)
    (hphase : s.queue.phase = .idle) (hwaiting : s.queue.waiting = .exit :: rest) : Accounts
    { s with queue := { s.queue with waiting := rest }, isLeaving := true } := by
  have hover : s.isOver = false := by rw [isOver, hstays, Queue.isStopped, hphase]; rfl
  obtain ⟨request, hsame, hrequest⟩ := h.running hover
  have hdue := (h.due_eq.resolve_left fun hcase => by rw [hcase.1] at hover; cases hover).2
  refine ⟨h.no_exit, fun hruns => ?_, fun _ => ⟨?_, ?_⟩, fun _ => hphase, h.isOpen_iff, h.stopped_of_returned⟩
  · simp [isOver] at hruns
  · change s.given = s.due
    rw [hdue, hwaiting]
    simp [Message.beforeExit]
  · have hmem : .exit ∈ s.accepted ++ request := by
      rw [← hsame, hwaiting]
      exact List.mem_append_right _ List.mem_cons_self
    rcases hrequest with rfl | ⟨-, hclosed⟩
    · rw [List.append_nil] at hmem
      exact .inl hmem
    · exact .inr hclosed

theorem give (h : s.Accounts) {kind : MessageKind} {payload : ByteArray} {rest : List Message} {task : τ}
    (hstays : s.isLeaving = false) (hphase : s.queue.phase = .idle)
    (hwaiting : s.queue.waiting = .control kind payload :: rest) : Accounts
    { s with
      queue := { s.queue with waiting := rest, phase := .busy task }
      given := s.given ++ [.control kind payload] } := by
  have hover : s.isOver = false := by rw [isOver, hstays, Queue.isStopped, hphase]; rfl
  obtain ⟨request, hsame, hrequest⟩ := h.running hover
  refine ⟨?_, fun _ => ⟨request, ?_, hrequest⟩, fun hbusy => ?_, fun hleaves => ?_, h.isOpen_iff, fun hreturned => ?_⟩
  · simpa using h.no_exit
  · change s.given ++ [_] ++ rest = s.accepted ++ request
    rw [← hsame, hwaiting, List.append_assoc, List.singleton_append]
  · rw [isOver, hstays] at hbusy
    cases hbusy
  · change s.isLeaving = true at hleaves
    rw [hstays] at hleaves
    cases hleaves
  · have hstopped := h.stopped_of_returned hreturned
    rw [Queue.isStopped, hphase] at hstopped
    cases hstopped

/-- A worker that finds the queue closed and empty has given everything to its handler. -/
theorem stop (h : s.Accounts) (hstays : s.isLeaving = false) (hphase : s.queue.phase = .idle)
    (hwaiting : s.queue.waiting = []) (hclosed : s.queue.isOpen = false) :
    Accounts { s with queue := s.queue.stop } := by
  have hover : s.isOver = false := by rw [isOver, hstays, Queue.isStopped, hphase]; rfl
  have hdue := (h.due_eq.resolve_left fun hcase => by rw [hcase.1] at hover; cases hover).2
  refine ⟨h.no_exit, fun hrunning => ?_, fun _ => ⟨?_, .inr hclosed⟩, fun hleaves => ?_, h.isOpen_iff, fun _ => rfl⟩
  · rw [isOver, hstays] at hrunning
    cases hrunning
  · change s.given = s.due
    rw [hdue, hwaiting]
    simp [Message.beforeExit]
  · change s.isLeaving = true at hleaves
    rw [hstays] at hleaves
    cases hleaves

theorem leave (h : s.Accounts) (hleaves : s.isLeaving = true) :
    Accounts { s with queue := s.queue.stop, isLeaving := false } := by
  have hover := h.ended (by rw [isOver, hleaves, Bool.true_or])
  exact ⟨h.no_exit, nofun, fun _ => hover, nofun, h.isOpen_iff, fun _ => rfl⟩

theorem finish (h : s.Accounts) {task : τ} (hphase : s.queue.phase = .busy task) :
    Accounts { s with queue := s.queue.finish } := by
  have hstays : s.isLeaving = false := by
    rw [Bool.eq_false_iff]
    intro hleaves
    have hidle := h.idle_of_leaving hleaves
    rw [hphase] at hidle
    cases hidle
  have hover : s.isOver = false := by rw [isOver, hstays, Queue.isStopped, hphase]; rfl
  refine ⟨h.no_exit, fun _ => h.running hover, fun hend => ?_, fun _ => rfl, h.isOpen_iff, fun hreturned => ?_⟩
  · rw [isOver, hstays] at hend
    cases hend
  · have hstopped := h.stopped_of_returned hreturned
    rw [Queue.isStopped, hphase] at hstopped
    cases hstopped

theorem shutDown (h : s.Accounts) (hcaller : s.shutdown ≠ .waiting) : Accounts
    { s with
      queue := s.queue.requestExit.value
      shutdown := if s.queue.isOpen then .waiting else .returned } := by
  obtain ⟨hclosed, hphase, hwaiting⟩ := s.queue.value_requestExit
  have hstopped := Queue.isStopped_congr hphase
  refine ⟨h.no_exit, fun hover => ?_, fun hover => ?_, fun hleaves => ?_, ?_, fun hreturned => ?_⟩
  · rw [isOver, hstopped] at hover
    obtain ⟨request, hsame, hrequest⟩ := h.running hover
    rcases hwaiting with hwaiting | ⟨hopen, -, hwaiting⟩
    · exact ⟨request, by rw [hwaiting]; exact hsame, hrequest.imp_right fun hexit => ⟨hexit.1, hclosed⟩⟩
    · obtain rfl : request = [] := by
        rcases hrequest with hnil | ⟨-, hshut⟩
        · exact hnil
        · rw [hopen] at hshut
          cases hshut
      refine ⟨[.exit], ?_, .inr ⟨rfl, hclosed⟩⟩
      change s.given ++ _ = s.accepted ++ _
      rw [hwaiting, ← List.append_assoc, hsame, List.append_nil]
  · rw [isOver, hstopped] at hover
    exact ⟨(h.ended hover).1, .inr hclosed⟩
  · rw [hphase]
    exact h.idle_of_leaving hleaves
  · rw [hclosed]
    cases s.queue.isOpen <;> simp
  · cases hopen : s.queue.isOpen with
    | true => simp [hopen] at hreturned
    | false =>
      have hcalled : s.shutdown ≠ .notCalled := fun hnot => by
        rw [h.isOpen_iff.2 hnot] at hopen
        cases hopen
      rw [hstopped]
      refine h.stopped_of_returned ?_
      cases hs : s.shutdown with
      | notCalled => exact absurd hs hcalled
      | waiting => exact absurd hs hcaller
      | returned => rfl

theorem join (h : s.Accounts) (hwaits : s.shutdown = .waiting) (hstopped : s.queue.isStopped) :
    Accounts { s with shutdown := .returned } := by
  refine ⟨h.no_exit, h.running, h.ended, h.idle_of_leaving, ?_, fun _ => hstopped⟩
  have hopen := h.isOpen_iff
  rw [hwaits] at hopen
  simpa using hopen

theorem step (h : s.Accounts) (hstep : s.step? start event = some s') : s'.Accounts := by
  cases step_of_step? hstep with
  | enqueue message => exact h.enqueue message
  | takeExit hstays hphase hwaiting => exact h.takeExit hstays hphase hwaiting
  | give hstays hphase hwaiting => exact h.give hstays hphase hwaiting
  | stop hstays hphase hwaiting hclosed => exact h.stop hstays hphase hwaiting hclosed
  | leave hleaves => exact h.leave hleaves
  | finish hphase => exact h.finish hphase
  | shutDown hcaller => exact h.shutDown hcaller
  | join hwaits hstopped => exact h.join hwaits hstopped

theorem run (h : s.Accounts) (hrun : s.run? start events = some s') : s'.Accounts := by
  induction events generalizing s with
  | nil =>
    cases hrun
    exact h
  | cons event rest ih =>
    obtain ⟨next, hnext, hrest⟩ := Option.bind_eq_some_iff.1 hrun
    exact ih (h.step hnext) hrest

end Accounts

/-! ### A shutdown that waits -/

/-- A bound on the steps that the worker takes until it stops, once nothing comes any more. -/
def remaining (s : QueueSystem τ) : Nat :=
  2 * s.queue.waiting.length +
    match s.queue.phase with
    | .stopped => 0
    | .idle => 1
    | .busy _ => 2

/-- While another thread waits for the worker, the worker can go on until it has stopped. -/
theorem Accounts.exists_step_of_waiting (h : s.Accounts) (start : MessageKind → ByteArray → τ)
    (hwaits : s.shutdown = .waiting) (hstopped : s.queue.isStopped = false) :
    ∃ event s', event.isOfWorker ∧ s.step? start event = some s' ∧ s'.shutdown = .waiting ∧
      s'.remaining < s.remaining := by
  have hclosed : s.queue.isOpen = false := by
    rw [Bool.eq_false_iff]
    intro hopen
    rw [h.isOpen_iff.1 hopen] at hwaits
    cases hwaits
  cases hleaves : s.isLeaving with
  | true =>
    have hphase := h.idle_of_leaving hleaves
    refine ⟨.leave, { s with queue := s.queue.stop, isLeaving := false }, rfl, ?_, hwaits, ?_⟩
    · rw [step?, if_pos hleaves]
    · simp [remaining, Queue.stop, hphase]
  | false =>
    cases hphase : s.queue.phase with
    | stopped =>
      rw [Queue.isStopped, hphase] at hstopped
      cases hstopped
    | busy task =>
      refine ⟨.finish, { s with queue := s.queue.finish }, rfl, ?_, hwaits, ?_⟩
      · rw [step?, hphase]
      · simp [remaining, Queue.finish, hphase]
    | idle =>
      cases hwaiting : s.queue.waiting with
      | nil =>
        refine ⟨.receive, { s with queue := s.queue.stop }, rfl, ?_, hwaits, ?_⟩
        · simp [step?, hleaves, Queue.takeExit?, Queue.receive?, Queue.next?, hphase, hwaiting, hclosed]
        · simp [remaining, Queue.stop, hphase]
      | cons message rest =>
        cases message with
        | exit =>
          refine ⟨.receive, { s with queue := { s.queue with waiting := rest }, isLeaving := true }, rfl, ?_, hwaits,
            ?_⟩
          · have htake : s.queue.takeExit? = some { s.queue with waiting := rest } :=
              Queue.takeExit?_eq_some.2 ⟨hphase, rest, hwaiting, rfl⟩
            simp [step?, hleaves, htake]
          · simp [remaining, hphase, hwaiting]
        | control kind payload =>
          refine ⟨.receive,
            { s with
              queue := { s.queue with waiting := rest, phase := .busy (start kind payload) }
              given := s.given ++ [.control kind payload] }, rfl, ?_, hwaits, ?_⟩
          · simp [step?, hleaves, Queue.takeExit?, Queue.receive?, Queue.next?, hphase, hwaiting]
          · simp only [remaining, hphase, hwaiting, List.length_cons]
            omega

/-- A shutdown that waits can return when the worker has gone on. -/
theorem Accounts.exists_run_of_waiting (h : s.Accounts) (start : MessageKind → ByteArray → τ)
    (hwaits : s.shutdown = .waiting) : ∃ more s', (∀ event ∈ more, event.isOfWorker) ∧
      s.run? start (more ++ [.join]) = some s' ∧ s'.shutdown = .returned := by
  induction hn : s.remaining using Nat.strongRecOn generalizing s with
  | ind n ih =>
    cases hstopped : s.queue.isStopped with
    | true =>
      refine ⟨[], { s with shutdown := .returned }, nofun, ?_, rfl⟩
      simp [run?, step?, hwaits, hstopped]
    | false =>
      obtain ⟨event, next, hworker, hstep, hnext, hless⟩ := h.exists_step_of_waiting start hwaits hstopped
      obtain ⟨more, s', hall, hrun, hreturned⟩ := ih next.remaining (hn ▸ hless) (h.step hstep) hnext rfl
      refine ⟨event :: more, s', List.forall_mem_cons.2 ⟨hworker, hall⟩, ?_, hreturned⟩
      rw [List.cons_append, run?, hstep, Option.bind_some]
      exact hrun

/-- However the threads of a queue are interleaved, the handler is given the accepted messages in order up to the first
exit message, each once, and none that was refused. When shutting the queue down returns it was given all of them, with
or without room for the request to exit; from the beginning of the shutdown on the queue is closed, and the shutdown
does not wait for ever. -/
theorem given_in_order {capacity : Nat} (hrun : (ofCapacity capacity).run? start events = some s) :
    s.given <+: s.due ∧
      (s.shutdown = .returned → s.given = s.due) ∧
      (∀ message, s.given.count message ≤ s.accepted.count message) ∧
      (s.shutdown ≠ .notCalled → ∀ message, (s.queue.enqueue message).value = (.error .closed, s.queue)) ∧
      (s.shutdown = .waiting → ∃ more s', (∀ event ∈ more, event.isOfWorker) ∧
        s.run? start (more ++ [.join]) = some s' ∧ s'.shutdown = .returned) := by
  have h := (accounts_ofCapacity capacity).run hrun
  have hgiven : s.given <+: s.due := by
    rcases h.due_eq with ⟨-, hdue⟩ | ⟨-, hdue⟩ <;> simp [hdue]
  refine ⟨hgiven, fun hreturned => ?_, fun message => ?_, fun hcalled message => ?_, h.exists_run_of_waiting start⟩
  · have hover : s.isOver = true := by rw [isOver, h.stopped_of_returned hreturned, Bool.or_true]
    exact (h.ended hover).1
  · have hdue : s.due <+: s.accepted := List.takeWhile_prefix _
    exact (hgiven.trans hdue).sublist.count_le message
  · have hclosed : s.queue.isOpen = false := by
      rw [Bool.eq_false_iff]
      exact fun hopen => hcalled (h.isOpen_iff.1 hopen)
    simp [Queue.enqueue, Queue.isClosed, hclosed]

def numbered (n : UInt8) : Message := .control .command ⟨#[n]⟩

/-- The handler holds the first message and the second fills the queue, so the third is refused and there is no room for
the request to exit. -/
def fullRun : List QueueEvent :=
  [.enqueue (numbered 1), .receive, .enqueue (numbered 2), .enqueue (numbered 3), .shutDown, .finish, .receive, .finish,
    .receive, .join]

theorem fullRun_given_in_order : ∃ s : QueueSystem Unit, (ofCapacity 0).run? (fun _ _ => ()) fullRun = some s ∧
    s.calls = [(numbered 1, .ok ()), (numbered 2, .ok ()), (numbered 3, .error (.full (numbered 3)))] ∧
    s.shutdown = .returned ∧ s.given = s.due ∧ s.due = [numbered 1, numbered 2] := by
  have hrun : ((ofCapacity 0 : QueueSystem Unit).run? (fun _ _ => ()) fullRun).map (fun s => (s.calls, s.shutdown)) =
      some ([(numbered 1, .ok ()), (numbered 2, .ok ()), (numbered 3, .error (.full (numbered 3)))], .returned) := by
    decide +kernel
  obtain ⟨s, hs, hsame⟩ := Option.map_eq_some_iff.1 hrun
  obtain ⟨hcalls, hreturned⟩ := Prod.mk.inj hsame
  obtain ⟨-, hgiven, -⟩ := given_in_order hs
  refine ⟨s, hs, hcalls, hreturned, hgiven hreturned, ?_⟩
  rw [due, accepted, hcalls]
  decide +kernel

end QueueSystem

end CecBus
