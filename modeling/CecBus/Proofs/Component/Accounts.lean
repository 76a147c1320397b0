import CecBus.Proofs.Component.Sessions

/-! The messages of every worker. `Accounts` ties the queues of a component to the history: what the session with a
number accepted went through the worker of that number, in order, and every frame that came of it was handed to the
receiver or is just being handed over. Every event keeps the accounts. -/

namespace CecBus

variable {ρ : Type}

namespace Component

/-- The queue of a worker; one that is not there yet will start with an empty queue. -/
def queueOf (c : Component ρ) (worker : Nat) : Queue (Task ρ) :=
  (c.workers[worker]?).getD (Queue.ofCapacity Queue.usualCapacity)

variable {c d : Component ρ} {worker : Nat} {q : Queue (Task ρ)}

theorem queueOf_eq (h : c.workers[worker]? = some q) :
    c.queueOf worker = q := by
  rw [queueOf, h]
  rfl

theorem queueOf_congr (h : d.workers = c.workers) (worker : Nat) :
    d.queueOf worker = c.queueOf worker := by
  rw [queueOf, h, queueOf]

theorem queueOf_setWorker (q' : Queue (Task ρ))
    (h : c.workers[worker]? = some q) (other : Nat) :
    (c.setWorker worker q').queueOf other = if worker = other then q' else c.queueOf other := by
  rw [queueOf, workers_setWorker]
  by_cases hw : worker = other
  · subst hw
    rw [if_pos rfl, if_pos rfl, h]
    rfl
  · rw [if_neg hw, if_neg hw, queueOf]

theorem queueOf_append (h : d.workers = c.workers ++ [q]) (worker : Nat) :
    d.queueOf worker = if worker = c.workers.length then q else c.queueOf worker := by
  simp only [queueOf, h]
  rcases Nat.lt_trichotomy worker c.workers.length with hlt | heq | hgt
  · rw [List.getElem?_append_left hlt, if_neg (Nat.ne_of_lt hlt)]
  · simp [heq]
  · rw [List.getElem?_eq_none (by simp; omega), List.getElem?_eq_none (by omega), if_neg (Nat.ne_of_gt hgt)]

theorem queueOf_length (c : Component ρ) : c.queueOf c.workers.length = Queue.ofCapacity Queue.usualCapacity := by
  rw [queueOf, List.getElem?_eq_none (Nat.le_refl _)]
  rfl

theorem queueOf_of_tryOpen {fault : Option String} {handle : Handle} (ho : (c.tryOpen fault).value = (.ok handle, d))
    (worker : Nat) : d.queueOf worker = c.queueOf worker := by
  obtain ⟨-, setup, registry, bus, -, -, -, rfl⟩ := tryOpen_eq_ok ho
  rw [queueOf_append rfl]
  split
  · next heq => rw [heq, queueOf_length]
  · rfl

theorem calling?_eq_queueOf (c : Component ρ) (worker : Nat) : c.calling? worker = (c.queueOf worker).call? := by
  cases hq : c.workers[worker]? with
  | none => simp [calling?, hq, queueOf, Queue.call?, Queue.ofCapacity]
  | some q =>
    rw [queueOf_eq hq]
    cases hc : q.call? with
    | none =>
      rw [Option.eq_none_iff_forall_ne_some]
      intro call hcalling
      obtain ⟨q', hq', hcall⟩ := calling?_eq_some.1 hcalling
      rw [hq] at hq'
      cases hq'
      rw [hc] at hcall
      cases hcall
    | some call => exact calling?_eq_some.2 ⟨q, hq, hc⟩

end Component

namespace History

variable {h : History ρ} {worker session : Nat}

theorem acceptedBy_append (more : List (Nat × Message)) :
    ({ h with accepted := h.accepted ++ more } : History ρ).acceptedBy session =
      h.acceptedBy session ++ (more.filter (·.1 = session)).map Prod.snd := by
  simp [acceptedBy]

theorem handledBy_append (more : List (Handling ρ)) :
    ({ h with handled := h.handled ++ more } : History ρ).handledBy worker =
      h.handledBy worker ++ more.filter (·.worker = worker) := by
  simp [handledBy]

theorem calledBy_append (more : List (Nat × ρ × Handle × List UInt8)) :
    ({ h with called := h.called ++ more } : History ρ).calledBy worker =
      h.calledBy worker ++ (more.filter (·.1 = worker)).map Prod.snd := by
  simp [calledBy]

end History

/-- What one worker has done, and what is left for it to do. -/
structure Account (q : Queue (Task ρ)) (accepted : List Message) (handled : List (Handling ρ))
    (called : List (ρ × Handle × List UInt8)) : Prop where
  tracks : q.Tracks accepted (handled.map Handling.message)
  calls : handled.filterMap Handling.call? = called ++ q.call?.toList

def Accounts (c : Component ρ) (h : History ρ) : Prop :=
  ∀ worker, Account (c.queueOf worker) (h.acceptedBy worker) (h.handledBy worker) (h.calledBy worker)

namespace Accounts

variable {c d : Component ρ} {h h' : History ρ} {worker : Nat} {q q' : Queue (Task ρ)}

theorem of_workers (ha : Accounts c h) (hworkers : d.workers = c.workers) : Accounts d h :=
  fun worker => by rw [Component.queueOf_congr hworkers]; exact ha worker

/-- One worker goes on, and the history of the others is the same. -/
theorem setWorker (ha : Accounts c h) (hq : c.workers[worker]? = some q)
    (hother : ∀ other, worker ≠ other → h'.acceptedBy other = h.acceptedBy other ∧
      h'.handledBy other = h.handledBy other ∧ h'.calledBy other = h.calledBy other)
    (hw : Account q (h.acceptedBy worker) (h.handledBy worker) (h.calledBy worker) →
      Account q' (h'.acceptedBy worker) (h'.handledBy worker) (h'.calledBy worker)) :
    Accounts (c.setWorker worker q') h' := by
  intro other
  rw [Component.queueOf_setWorker q' hq]
  by_cases hne : worker = other
  · subst hne
    rw [if_pos rfl]
    have := ha worker
    rw [Component.queueOf_eq hq] at this
    exact hw this
  · obtain ⟨haccepted, hhandled, hcalled⟩ := hother other hne
    rw [if_neg hne, haccepted, hhandled, hcalled]
    exact ha other

theorem giveUp (ha : Accounts c h) (handle : Handle) (registry : Registry) :
    Accounts (c.giveUp handle registry) h := by
  intro worker
  rw [Component.queueOf_append rfl]
  split
  · next heq =>
    have hnew := ha worker
    rw [heq, Component.queueOf_length] at hnew
    rw [heq]
    exact ⟨⟨hnew.tracks.accounted, nofun, nofun, fun _ => rfl, fun _ => rfl⟩, hnew.calls⟩
  · exact ha worker

theorem openSession (ha : Accounts c h) (fault : Option String) : Accounts (c.after (.openSession fault)) h := by
  refine Component.after_openSession_induct (P := fun d => Accounts d h) ha
    (fun handle registry _ _ => ha.giveUp handle registry) fun handle d ho worker => ?_
  rw [Component.queueOf_of_tryOpen ho]
  exact ha worker

theorem request (ha : Accounts c h) {stages : Option Nat → List Stage} {detached : List Nat}
    (hlife : Life c stages detached) (r : Operation ρ) :
    Accounts (c.after r) { h with accepted := h.accepted ++ (c.accepted? r).toList } := by
  cases hm : r.message? with
  | none =>
    have hnone : c.accepted? r = none := by rw [Component.accepted?, hm]
    rw [hnone, Option.toList_none, List.append_nil]
    by_cases hr : ∃ fault, r = .openSession fault
    · obtain ⟨fault, rfl⟩ := hr
      exact ha.openSession fault
    · exact ha.of_workers (Component.keeps_after hm (not_exists.1 hr)).workers
  | some message =>
    obtain ⟨hafter, hexit⟩ := Component.after_of_message? hm (c := c)
    rw [hafter]
    rcases c.enqueue_value message with hvalue | ⟨s, worker, queue, hs, hready, hworker, hq, hvalue⟩
    · have hnone : c.accepted? r = none := by
        rw [Component.accepted?, hm]
        cases c.current? <;> simp [hvalue, Except.isOk, Except.toBool]
      rw [hnone, hvalue, Option.toList_none, List.append_nil]
      exact ha
    · have hnumber : c.current? = some worker := hlife.current?_eq hs hready hworker
      have haccepted : (c.accepted? r).toList =
          if (queue.enqueue message).value.1.isOk then [(worker, message)] else [] := by
        unfold Component.accepted?
        simp only [hm, hnumber, hvalue]
        cases (queue.enqueue message).value.1 <;> rfl
      rw [hvalue, haccepted]
      refine ha.setWorker hq (fun other hne => ⟨?_, rfl, rfl⟩) fun hw => ⟨?_, ?_⟩
      · rw [History.acceptedBy_append]
        split <;> simp [hne]
      · rw [History.acceptedBy_append]
        change Queue.Tracks _ _ ((h.handledBy worker).map Handling.message)
        have htracks := hw.tracks.enqueue hexit
        by_cases hk : (queue.enqueue message).value.1.isOk
        · simp only [hk, if_true] at htracks ⊢
          simpa using htracks
        · simp only [hk, Bool.false_eq_true, if_false] at htracks ⊢
          simpa using htracks
      · obtain ⟨-, -, -, hphase⟩ := queue.value_enqueue message
        rw [Queue.call?_congr hphase]
        exact hw.calls

theorem work (ha : Accounts c h) {step : Logged (Component ρ)} (hs : c.work? worker = some step) :
    Accounts step.value { h with handled := h.handled ++ (c.handling? worker).toList } := by
  obtain ⟨q, hq, ⟨kind, payload, hphase, rfl⟩ | ⟨hnone, received, hreceived, hstep⟩⟩ := Component.work?_eq_some hs
  · obtain ⟨q', hhandled, hvalue⟩ := c.dispatch_value worker q kind payload
    rw [hvalue, Component.handling?_of_holding hq hphase, Option.toList_some]
    have hq' : (c.withHandled kind payload).workers[worker]? = some q := hq
    refine (ha.of_workers (c.keeps_withHandled kind payload).workers).setWorker hq'
      (fun other hne => ⟨rfl, ?_, rfl⟩) fun hw => ⟨?_, ?_⟩
    · rw [History.handledBy_append]
      simp [Component.handling, hne]
    · rw [History.handledBy_append]
      change Queue.Tracks _ (h.acceptedBy worker) _
      have htracks := hw.tracks.handle hphase hhandled.waiting hhandled.isOpen hhandled.held hhandled.running
      simpa [Component.handling] using htracks
    · have hcalls := hw.calls
      have hidle : q.call? = none := by rw [Queue.call?, hphase]
      rw [hidle, Option.toList_none, List.append_nil] at hcalls
      have hsame : [c.handling worker kind payload].filter (·.worker = worker) = [c.handling worker kind payload] := by
        simp [Component.handling]
      rw [History.handledBy_append, List.filterMap_append, hcalls, hsame, hhandled.call]
      cases hcall : (c.handling worker kind payload).call? with
      | none => rw [List.filterMap_cons_none hcall]; rfl
      | some call => rw [List.filterMap_cons_some hcall]; rfl
  · rw [hnone, hstep, Option.toList_none, List.append_nil]
    obtain ⟨-, hphase, hcall⟩ := Queue.receive?_spec hreceived
    refine ha.setWorker hq (fun _ _ => ⟨rfl, rfl, rfl⟩) fun hw => ⟨hw.tracks.receive hreceived, ?_⟩
    have hidle : q.call? = none := by rw [Queue.call?, hphase]
    rw [hcall, ← hidle]
    exact hw.calls

theorem resume (ha : Accounts c h) {call : ρ × Handle × List UInt8} (hc : c.calling? worker = some call) :
    Accounts (c.resume worker) { h with called := h.called ++ [(worker, call)] } := by
  obtain ⟨q, hq, hcall⟩ := Component.calling?_eq_some.1 hc
  rw [Component.resume_of_calling hq (by rw [hcall]; rfl)]
  refine ha.setWorker hq (fun other hne => ⟨rfl, rfl, ?_⟩) fun hw => ⟨?_, ?_⟩
  · rw [History.calledBy_append]
    simp [hne]
  · refine hw.tracks.congr rfl id ?_ fun hs => by cases hs
    unfold Queue.call? at hcall
    unfold Queue.held
    split at hcall
    · next hphase => rw [hphase]; rfl
    · cases hcall
  · have hcalls := hw.calls
    rw [hcall, Option.toList_some] at hcalls
    rw [History.calledBy_append]
    change (h.handledBy worker).filterMap Handling.call? = _
    simpa [Queue.finish, Queue.call?] using hcalls

theorem noteStage (ha : Accounts c h) (thread : Option Nat) (stage : Stage) :
    Accounts c (System.noteStage h thread stage) := by
  obtain ⟨detached, hnote⟩ := System.exists_noteStage_eq h thread stage
  rw [hnote]
  exact ha

theorem advance (ha : Accounts c h) {thread : Option Nat} {stage : Stage} {more : List Stage}
    (hp : outcome (c.perform thread stage) = .ok (more, d)) : Accounts d (System.noteStage h thread stage) := by
  refine Accounts.noteStage ?_ thread stage
  rcases Component.workers_perform hp with hworkers | ⟨number, q, q', hq, hclosed, hworkers⟩
  · exact ha.of_workers hworkers
  · refine of_workers (c := c.setWorker number q') ?_ hworkers
    refine ha.setWorker hq (fun _ _ => ⟨rfl, rfl, rfl⟩) fun hw => ⟨hclosed.tracks hw.tracks, ?_⟩
    rw [Queue.call?_congr hclosed.phase]
    exact hw.calls

end Accounts

end CecBus
