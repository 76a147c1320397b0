import Mathlib.Algebra.GroupWithZero.Nat
import CecBus.Proofs.Component.OneByOne

/-! Calls that close something come to an end. While a session is ready its queue is open, and a thread that waits for a
worker has closed the queue of that worker before, so the worker will stop: `Doors` says so, and every event keeps it.
When no receiver makes a call, something can happen as long as a call is under way (`exists_onward`), and whatever
happens brings the end nearer (`effort_lt`). -/

namespace CecBus

variable {ρ : Type}

/-! ### Open queues -/

namespace Component

variable {c d : Component ρ} {worker other : Nat} {q q' : Queue (Task ρ)}

def isAdmitting (c : Component ρ) (worker : Nat) : Bool := (c.queueOf worker).isOpen

theorem isAdmitting_congr (h : d.workers = c.workers) (worker : Nat) : d.isAdmitting worker = c.isAdmitting worker := by
  rw [isAdmitting, queueOf_congr h, isAdmitting]

theorem isAdmitting_setWorker (hq : c.workers[worker]? = some q) (hopen : q'.isOpen = q.isOpen) (other : Nat) :
    (c.setWorker worker q').isAdmitting other = c.isAdmitting other := by
  rw [isAdmitting, queueOf_setWorker q' hq, isAdmitting]
  split
  · next hw =>
    subst hw
    rw [queueOf_eq hq, hopen]
  · rfl

theorem isAdmitting_after {r : Operation ρ} (hr : ∀ fault, r ≠ .openSession fault) (worker : Nat) :
    (c.after r).isAdmitting worker = c.isAdmitting worker := by
  cases hm : r.message? with
  | none => exact isAdmitting_congr (keeps_after hm hr).workers worker
  | some message =>
    rw [(after_of_message? hm).1]
    rcases c.enqueue_value message with h | ⟨s, number, queue, -, -, -, hq, h⟩
    · rw [h]
    · rw [h]
      obtain ⟨-, -, hopen, -⟩ := queue.value_enqueue message
      exact isAdmitting_setWorker hq hopen worker

theorem isAdmitting_of_tryOpen {fault : Option String} {handle : Handle}
    (ho : (c.tryOpen fault).value = (.ok handle, d)) (worker : Nat) : d.isAdmitting worker = c.isAdmitting worker := by
  rw [isAdmitting, queueOf_of_tryOpen ho, isAdmitting]

/-- No operation opens a queue that was closed. -/
theorem isAdmitting_of_after {r : Operation ρ} (h : (c.after r).isAdmitting worker = true) :
    c.isAdmitting worker = true := by
  by_cases hr : ∃ fault, r = .openSession fault
  · obtain ⟨fault, rfl⟩ := hr
    revert h
    refine after_openSession_induct (P := fun d => d.isAdmitting worker = true → c.isAdmitting worker = true) id
      (fun handle registry _ _ h => ?_) fun handle d ho h => isAdmitting_of_tryOpen ho worker ▸ h
    rw [isAdmitting, queueOf_append rfl] at h
    split at h
    · cases h
    · exact h
  · rwa [isAdmitting_after (not_exists.1 hr)] at h

theorem isAdmitting_work {step : Logged (Component ρ)} (h : c.work? worker = some step) (other : Nat) :
    step.value.isAdmitting other = c.isAdmitting other := by
  obtain ⟨q, hq, ⟨kind, payload, -, rfl⟩ | ⟨-, received, hreceived, hstep⟩⟩ := work?_eq_some h
  · obtain ⟨q', hhandled, hvalue⟩ := c.dispatch_value worker q kind payload
    have hq' : (c.withHandled kind payload).workers[worker]? = some q := hq
    rw [hvalue, isAdmitting_setWorker hq' hhandled.isOpen]
    exact isAdmitting_congr rfl other
  · obtain ⟨hopen, -, -⟩ := Queue.receive?_spec hreceived
    rw [hstep]
    exact isAdmitting_setWorker hq hopen other

theorem isAdmitting_resume {call : ρ × Handle × List UInt8} (h : c.calling? worker = some call) (other : Nat) :
    (c.resume worker).isAdmitting other = c.isAdmitting other := by
  obtain ⟨q, hq, hcall⟩ := calling?_eq_some.1 h
  have hopen : q.finish.isOpen = q.isOpen := rfl
  rw [resume_of_calling hq (by rw [hcall]; rfl)]
  exact isAdmitting_setWorker hq hopen other

/-- Only the stage that shuts a queue down closes it. -/
theorem isAdmitting_perform {thread : Option Nat} {stage : Stage} {more : List Stage}
    (hp : outcome (c.perform thread stage) = .ok (more, d)) (hstage : stage ≠ .shutDown worker) :
    d.isAdmitting worker = c.isAdmitting worker := by
  have hother : ∀ {number q}, stage = .shutDown number → c.workers[number]? = some q → ∀ q',
      (c.setWorker number q').isAdmitting worker = c.isAdmitting worker := by
    intro number q hs hq q'
    have hne : number ≠ worker := fun he => hstage (he ▸ hs)
    rw [isAdmitting, queueOf_setWorker q' hq, if_neg hne, isAdmitting]
  cases performed hp with
  | retired nested h =>
    obtain ⟨s, registry, -, -, -, -, -, rfl⟩ := retire_eq_ok h
    exact isAdmitting_congr rfl worker
  | detached hq => exact hother rfl hq _
  | requested hq => exact hother rfl hq _
  | checked | found | missing | refused | absent | joined | vacated | forgotten | cleared =>
    exact isAdmitting_congr rfl worker

theorem isAdmitting_of_join {thread : Option Nat} {stage : Stage} {more : List Stage}
    (hp : outcome (c.perform thread stage) = .ok (.join worker :: more, d)) : d.isAdmitting worker = false := by
  generalize hmore : Stage.join worker :: more = stages at hp
  cases performed hp with
  | requested hq =>
    cases hmore
    rw [isAdmitting, queueOf_setWorker _ hq, if_pos rfl]
    exact (Queue.value_requestExit _).1
  | found =>
    unfold afterFinding at hmore
    split at hmore
    · cases hmore
    · cases hmore
  | @retired _ _ number =>
    cases number <;> cases hmore
  | _ => cases hmore

theorem isAdmitting_perform_of_closed {thread : Option Nat} {stage : Stage} {more : List Stage}
    (hp : outcome (c.perform thread stage) = .ok (more, d)) (hclosed : c.isAdmitting worker = false) :
    d.isAdmitting worker = false := by
  by_cases hstage : stage = .shutDown worker
  · subst hstage
    cases performed hp with
    | absent => exact hclosed
    | detached hq =>
      rw [isAdmitting, queueOf_setWorker _ hq, if_pos rfl]
      exact (Queue.value_detach _).1
    | requested hq =>
      rw [isAdmitting, queueOf_setWorker _ hq, if_pos rfl]
      exact (Queue.value_requestExit _).1
  · rw [isAdmitting_perform hp hstage]
    exact hclosed

end Component

/-! ### What is ready and what is waited for -/

namespace Life

variable {c d : Component ρ} {stages : Option Nat → List Stage} {detached : List Nat} {thread : Option Nat}
  {stage : Stage} {more rest : List Stage} {worker : Nat}

/-- A worker is waited for right after its queue was shut down, so the stage to wait for it is never the second. -/
theorem not_join_second (h : Life c stages detached) (hs : stages thread = stage :: .join worker :: rest) : False := by
  cases hstage : stage.isTeardown with
  | false =>
    have hcalm := h.calm_of_head hs hstage
    rw [hs] at hcalm
    have hsecond := (calm_cons.1 (calm_cons.1 hcalm).2).1
    cases hsecond
  | true =>
    obtain ⟨number, s, phase, others, hclosing⟩ := h.isClosing_of_head hs hstage
    have howned := hclosing.owned
    rw [hs] at howned
    cases phase with
    | begun | waiting => cases (List.cons.inj (List.cons.inj howned).2).1
    | last =>
      have hothers : Stage.join worker :: rest = others := (List.cons.inj howned).2
      have hcalm := hclosing.calm_rest
      rw [← hothers] at hcalm
      cases (calm_cons.1 hcalm).1

/-- A session that is ready after a stage was ready before, and no queue was shut down. -/
theorem ready?_of_perform (h : Life c stages detached) (hs : stages thread = stage :: rest)
    (hp : outcome (c.perform thread stage) = .ok (more, d)) {s : Session ρ} (hready : d.ready? = some s) :
    c.ready? = some s ∧ ∀ number, stage ≠ .shutDown number := by
  obtain ⟨hbefore, -⟩ := Component.ready?_of_perform hp hready
  refine ⟨hbefore, fun number hstage => ?_⟩
  subst hstage
  obtain ⟨_, session, _, _, hclosing⟩ := h.isClosing_of_head hs rfl
  obtain ⟨hsession, hisReady⟩ := Component.ready?_eq_some.1 hbefore
  rw [hclosing.session] at hsession
  cases hsession
  rw [hclosing.isReady] at hisReady
  cases hisReady

end Life

namespace System

variable {s s' : System ρ} {event : Event ρ} {events : List (Event ρ)} {thread : Option Nat} {closing : Closing}
  {stage : Stage} {rest : List Stage} {worker : Nat}

/-- The queue of a session that is ready is open, and the queue of a worker that is waited for is closed. -/
structure Doors (s : System ρ) : Prop where
  opened (session : Session ρ) (number : Nat) : s.component.ready? = some session → session.worker = some number →
    s.component.isAdmitting number = true
  closed (thread : Option Nat) (worker : Nat) (rest : List Stage) : s.stages thread = .join worker :: rest →
    s.component.isAdmitting worker = false

theorem doors_initial : (initial : System ρ).Doors := ⟨nofun, nofun⟩

namespace Doors

/-- An operation opens a new queue or leaves the doors as they are. -/
theorem request (h : s.Doors) (r : Operation ρ) {history : History ρ} :
    Doors { s with component := s.component.after r, history } where
  opened session number hready hworker := by
    by_cases hr : ∃ fault, r = .openSession fault
    · obtain ⟨fault, rfl⟩ := hr
      change (s.component.after (.openSession fault)).ready? = some session at hready
      revert hready
      refine Component.after_openSession_induct
        (P := fun d => d.ready? = some session → d.isAdmitting number = true)
        (fun hready => h.opened session number hready hworker) (fun _ _ hnone _ hready => ?_)
        fun handle d ho hready => ?_
      · rw [Component.ready?_giveUp hnone] at hready
        cases hready
      · rw [Component.isAdmitting_of_tryOpen ho]
        obtain ⟨-, setup, registry, bus, -, -, -, rfl⟩ := Component.tryOpen_eq_ok ho
        cases hready
        cases hworker
        rw [Component.isAdmitting, Component.queueOf_length]
        rfl
    · obtain ⟨session', hready', -, hworker'⟩ := (Component.alike_after (not_exists.1 hr)).exists_ready? hready
      rw [Component.isAdmitting_after (not_exists.1 hr)]
      exact h.opened session' number hready' (hworker'.trans hworker)
  closed thread worker rest hs := by
    have hclosed := h.closed thread worker rest hs
    rw [Bool.eq_false_iff] at hclosed ⊢
    exact fun hadmitting => hclosed (Component.isAdmitting_of_after hadmitting)

theorem setActivity (h : s.Doors) {activity : Option (Closing × List Stage)}
    (hhead : ∀ closing worker rest, activity ≠ some (closing, .join worker :: rest)) :
    (s.setActivity thread activity).Doors where
  opened := h.opened
  closed other worker rest hs := by
    rw [stages_setActivity] at hs
    by_cases ht : other = thread
    · rw [ht, Function.update_self] at hs
      cases activity with
      | none => cases hs
      | some under =>
        obtain ⟨closing, stages⟩ := under
        change stages = _ at hs
        exact absurd (congrArg (fun stages => some (closing, stages)) hs) (hhead closing worker rest)
    · rw [Function.update_of_ne ht] at hs
      exact h.closed other worker rest hs

theorem performStage (h : s.Doors) (hsound : s.Sound) (ha : s.activity thread = some (closing, stage :: rest)) :
    (s.performStage thread closing stage rest).Doors := by
  unfold System.performStage
  split
  · exact h.setActivity (fun _ _ _ => nofun)
  · next more d hp =>
    have hs := stages_of_activity ha
    refine ⟨fun session number hready hworker => ?_, fun other worker left hleft => ?_⟩
    · obtain ⟨hready', hstage⟩ := hsound.life.ready?_of_perform hs hp hready
      show d.isAdmitting number = true
      rw [Component.isAdmitting_perform hp (hstage number)]
      exact h.opened session number hready' hworker
    · show d.isAdmitting worker = false
      change (s.setActivity thread _).stages other = _ at hleft
      rw [stages_setActivity] at hleft
      by_cases ht : other = thread
      · rw [ht, Function.update_self, Option.map_some, Option.getD_some] at hleft
        cases more with
        | nil =>
          change rest = _ at hleft
          rw [hleft] at hs
          exact (hsound.life.not_join_second hs).elim
        | cons first others =>
          obtain ⟨rfl, -⟩ := List.cons.inj hleft
          exact Component.isAdmitting_of_join hp
      · rw [Function.update_of_ne ht] at hleft
        exact Component.isAdmitting_perform_of_closed hp (h.closed other worker left hleft)

theorem alike (h : s.Doors) {d : Component ρ} {history : History ρ} (ha : s.component.Alike d)
    (hadmitting : ∀ worker, d.isAdmitting worker = s.component.isAdmitting worker) :
    Doors { s with component := d, history } where
  opened session number hready hworker := by
    obtain ⟨session', hready', -, hworker'⟩ := ha.exists_ready? hready
    rw [hadmitting]
    exact h.opened session' number hready' (hworker'.trans hworker)
  closed thread worker rest hs := by
    rw [hadmitting]
    exact h.closed thread worker rest hs

/-- Every event keeps the doors, whoever makes the calls. -/
theorem step (h : s.Doors) (hsound : s.Sound) (hstep : s.step? event = some s') : s'.Doors := by
  cases step_of_step? hstep with
  | request r _ => exact h.request r
  | start closing _ =>
    refine h.setActivity fun _ _ _ he => ?_
    cases closing <;> cases he
  | advance ha _ => exact h.performStage hsound ha
  | finish _ => exact h.setActivity fun _ _ _ => nofun
  | work hs => exact h.alike (Component.alike_work hs) (Component.isAdmitting_work hs)
  | resume _ hc =>
    obtain ⟨q, hq, hcall⟩ := Component.calling?_eq_some.1 hc
    exact h.alike (Component.alike_resume hq (by rw [hcall]; rfl)) (Component.isAdmitting_resume hc)

end Doors

theorem doors_of_run (hrun : initial.run? events = some s) : s.Doors := by
  have hboth : s.Sound ∧ s.Doors :=
    run?_induct (P := fun t => t.Sound ∧ t.Doors) (fun _ _ _ _ h hs => ⟨h.1.step hs, h.2.step h.1 hs⟩)
      (fun _ _ => trivial) ⟨sound_initial, doors_initial⟩ hrun
  exact hboth.2

end System

/-! ### What is left to do -/

namespace Queue

variable {q : Queue (Task ρ)}

/-- How far a worker is from having stopped, with nothing waiting. -/
def distance : WorkerPhase (Task ρ) → Nat
  | .busy (.holding ..) => 3
  | .busy (.calling ..) => 2
  | .idle => 1
  | .stopped => 0

/-- A bound on the steps that a worker can take. A message that waits is taken out, handled, and perhaps handed to the
receiver. -/
def burden (q : Queue (Task ρ)) : Nat := 3 * q.waiting.length + distance q.phase

theorem burden_receive {step : Logged (Queue (Task ρ))} (hs : q.receive? Task.holding = some step) :
    step.value.burden < q.burden := by
  unfold receive? at hs
  split at hs
  · next hphase _ =>
    cases hs
    rw [burden, burden, hphase]
    simp only [Logged.value_bind, Logged.value_pure, stop, distance, List.length_nil]
    omega
  · next hphase hwaiting =>
    cases hs
    rw [burden, burden, hphase, hwaiting]
    simp only [Logged.value_pure, distance, List.length_cons]
    omega
  · next hphase _ =>
    split at hs
    · cases hs
    · cases hs
      rw [burden, burden, hphase]
      simp only [Logged.value_pure, stop, distance, List.length_nil]
      omega
  · cases hs

theorem burden_closesTo {q' : Queue (Task ρ)} (h : q.ClosesTo q') : q'.burden ≤ q.burden + 3 := by
  have hlength : q'.waiting.length ≤ q.waiting.length + 1 := by
    rcases h with rfl | rfl
    · rw [q.value_detach.2.2]
      exact Nat.le_succ _
    · obtain ⟨-, -, hwaiting | ⟨-, -, hwaiting⟩⟩ := q.value_requestExit
      · rw [hwaiting]
        exact Nat.le_succ _
      · rw [hwaiting, List.length_append]
        exact Nat.le_refl _
  rw [burden, burden, h.phase]
  omega

end Queue

namespace Stage

theorem cost_pos (stage : Stage) : 0 < stage.cost := by
  cases stage <;> simp [cost]

theorem totalCost_append (stages others : List Stage) :
    totalCost (stages ++ others) = totalCost stages + totalCost others := by
  induction stages with
  | nil => simp [totalCost]
  | cons stage stages ih =>
    simp only [totalCost, List.cons_append, List.foldr_cons] at ih ⊢
    omega

end Stage

namespace Component

variable {c d : Component ρ} {worker : Nat} {q q' : Queue (Task ρ)}

/-- A bound on the steps that the workers can take. -/
def burden (c : Component ρ) : Nat := (c.workers.map Queue.burden).sum

theorem burden_congr (h : d.workers = c.workers) : d.burden = c.burden := by rw [burden, h, burden]

theorem sum_map_set {α : Type} (f : α → Nat) {l : List α} {i : Nat} {a : α} (h : l[i]? = some a) (b : α) :
    ((l.set i b).map f).sum + f a = (l.map f).sum + f b := by
  induction l generalizing i with
  | nil => cases h
  | cons x l ih =>
    cases i with
    | zero =>
      rw [List.getElem?_cons_zero] at h
      cases h
      rw [List.set_cons_zero, List.map_cons, List.sum_cons, List.map_cons, List.sum_cons]
      omega
    | succ i =>
      rw [List.getElem?_cons_succ] at h
      have hrest := ih h
      rw [List.set_cons_succ, List.map_cons, List.sum_cons, List.map_cons, List.sum_cons]
      omega

theorem burden_setWorker (hq : c.workers[worker]? = some q) (q' : Queue (Task ρ)) :
    (c.setWorker worker q').burden + q.burden = c.burden + q'.burden := sum_map_set Queue.burden hq q'

theorem burden_work {step : Logged (Component ρ)} (h : c.work? worker = some step) : step.value.burden < c.burden := by
  obtain ⟨q, hq, ⟨kind, payload, hphase, rfl⟩ | ⟨-, received, hreceived, hstep⟩⟩ := work?_eq_some h
  · obtain ⟨q', hhandled, hvalue⟩ := c.dispatch_value worker q kind payload
    have hq' : (c.withHandled kind payload).workers[worker]? = some q := hq
    have hsum := burden_setWorker hq' q'
    have hsame : (c.withHandled kind payload).burden = c.burden := burden_congr rfl
    have hless : q'.burden < q.burden := by
      have hdistance : Queue.distance q'.phase ≤ 2 := by
        have hheld := hhandled.held
        unfold Queue.held at hheld
        split at hheld
        · cases hheld
        · next hne =>
          cases hp : q'.phase with
          | idle => exact Nat.le_succ 1
          | stopped => exact Nat.zero_le 2
          | busy task =>
            cases task with
            | holding kind payload => exact absurd hp (hne kind payload)
            | calling => exact Nat.le_refl 2
      have hholding : Queue.distance (.busy (.holding kind payload) : WorkerPhase (Task ρ)) = 3 := rfl
      rw [Queue.burden, Queue.burden, hhandled.waiting, hphase, hholding]
      omega
    rw [hvalue]
    omega
  · have hsum := burden_setWorker hq received.value
    have hless := Queue.burden_receive hreceived
    rw [hstep]
    omega

theorem burden_resume {call : ρ × Handle × List UInt8} (h : c.calling? worker = some call) :
    (c.resume worker).burden < c.burden := by
  obtain ⟨q, hq, hcall⟩ := calling?_eq_some.1 h
  have hsum := burden_setWorker hq q.finish
  have hless : q.finish.burden < q.burden := by
    unfold Queue.call? at hcall
    split at hcall
    · next hphase =>
      rw [Queue.burden, Queue.burden, hphase]
      simp only [Queue.finish, Queue.distance]
      omega
    · cases hcall
  rw [resume_of_calling hq (by rw [hcall]; rfl)]
  omega

/-- A stage at most sends an exit message. -/
theorem burden_perform {thread : Option Nat} {stage : Stage} {more : List Stage}
    (hp : outcome (c.perform thread stage) = .ok (more, d)) : d.burden ≤ c.burden + 3 := by
  rcases workers_perform hp with h | ⟨number, q, q', hq, hclosed, hd⟩
  · rw [burden_congr h]
    omega
  · have hsum := burden_setWorker hq q'
    have hexit := Queue.burden_closesTo hclosed
    rw [burden_congr hd]
    omega

/-- A stage costs more than what it puts in its place. -/
theorem totalCost_perform {thread : Option Nat} {stage : Stage} {more : List Stage}
    (hp : outcome (c.perform thread stage) = .ok (more, d)) : Stage.totalCost more < stage.cost := by
  cases performed hp with
  | found nested =>
    unfold afterFinding
    cases c.ready? <;> simp [Stage.totalCost, Stage.cost]
  | @retired handle nested number =>
    cases number <;> simp [afterRetiring, Stage.totalCost, Stage.cost]
  | checked | missing | refused | absent | detached | requested | joined | vacated | forgotten | cleared =>
    simp [Stage.totalCost, Stage.cost]

end Component

/-- Whether a call of the caller or a worker goes on in an event, and none begins. -/
def Event.isOnward (event : Event ρ) : Bool := event.isQuiet && !event.isCall

namespace System

variable {s s' : System ρ} {event : Event ρ} {closing : Closing} {stages : List Stage}

/-- A bound on what can happen before the call of the caller returns. -/
def effort (s : System ρ) : Nat := 4 * Stage.totalCost (s.stages none) + s.component.burden

/-- Whatever goes on brings the end of a call nearer, unless it is the end. -/
theorem effort_lt (honward : event.isOnward = true) (hstep : s.step? event = some s') (hend : event ≠ .finish none) :
    s'.effort < s.effort := by
  obtain ⟨hquiet, hcall⟩ := Bool.and_eq_true_iff.1 honward
  cases step_of_step? hstep with
  | request | start => cases hcall
  | finish =>
    obtain rfl := Option.isNone_iff_eq_none.1 hquiet
    exact absurd rfl hend
  | @advance thread closing stage rest ha =>
    obtain rfl := Option.isNone_iff_eq_none.1 hquiet
    have hbefore : 4 * Stage.totalCost (s.stages none) = 4 * stage.cost + 4 * Stage.totalCost rest := by
      rw [stages_of_activity ha, Stage.totalCost, List.foldr_cons]
      exact Nat.mul_add _ _ _
    unfold performStage
    cases hp : outcome (s.component.perform none stage) with
    | error e =>
      have hpos := stage.cost_pos
      have hafter : Stage.totalCost ((s.setActivity none none).stages none) = 0 := by
        rw [stages_setActivity, Function.update_self]
        rfl
      rw [effort, effort, hbefore]
      simp only [hafter]
      change 4 * 0 + s.component.burden < _
      omega
    | ok result =>
      obtain ⟨more, d⟩ := result
      have hcost := Component.totalCost_perform hp
      have hburden := Component.burden_perform hp
      have hafter : Stage.totalCost ((s.setActivity none (some (closing, more ++ rest))).stages none) =
          Stage.totalCost more + Stage.totalCost rest := by
        rw [stages_setActivity, Function.update_self]
        exact Stage.totalCost_append more rest
      rw [effort, effort, hbefore]
      change 4 * Stage.totalCost ((s.setActivity none (some (closing, more ++ rest))).stages none) + d.burden < _
      rw [hafter]
      omega
  | work hs =>
    have hless := Component.burden_work hs
    exact Nat.add_lt_add_left hless _
  | resume _ hc =>
    have hless := Component.burden_resume hc
    exact Nat.add_lt_add_left hless _

/-- A worker that has not stopped and whose queue is closed can go on. -/
theorem exists_onward_of_closed (h : s.Quiet) {worker : Nat} {q : Queue (Task ρ)}
    (hq : s.component.workers[worker]? = some q) (hstopped : q.isStopped = false) (hclosed : q.isOpen = false) :
    ∃ event : Event ρ, event.isOnward = true ∧ (s.step? event).isSome = true := by
  have hwork : (s.component.work? worker).isSome = true →
      ∃ event : Event ρ, event.isOnward = true ∧ (s.step? event).isSome = true := by
    intro hsome
    refine ⟨.work worker, rfl, ?_⟩
    rw [step?, Option.isSome_map]
    exact hsome
  cases hphase : q.phase with
  | stopped =>
    rw [Queue.isStopped_iff.2 hphase] at hstopped
    cases hstopped
  | idle =>
    refine hwork ?_
    have hreceive : (q.receive? Task.holding).isSome = true := by
      unfold Queue.receive?
      cases hwaiting : q.waiting with
      | nil => simp [hphase, hclosed]
      | cons message rest =>
        cases message with
        | control => simp [hphase]
        | exit => simp [hphase]
    rw [Component.work?, hq]
    simp only [hphase, Option.isSome_map]
    exact hreceive
  | busy task =>
    cases task with
    | holding kind payload =>
      refine hwork ?_
      rw [Component.work?, hq]
      simp only [hphase, Option.isSome_some]
    | calling receiver handle frame =>
      have hcalling : s.component.calling? worker = some (receiver, handle, frame) :=
        Component.calling?_eq_some.2 ⟨q, hq, by rw [Queue.call?, hphase]⟩
      refine ⟨.resume worker, rfl, ?_⟩
      rw [step?, h.idle worker, hcalling]
      rfl

/-- As long as the call of the caller is under way, something can happen. -/
theorem exists_onward (h : s.Quiet) (hdoors : s.Doors) (ha : s.activity none = some (closing, stages)) :
    ∃ event : Event ρ, event.isOnward = true ∧ (s.step? event).isSome = true := by
  cases stages with
  | nil =>
    refine ⟨.finish none, rfl, ?_⟩
    rw [step?, ha]
    rfl
  | cons stage rest =>
    cases hblocks : s.component.blocks stage with
    | false =>
      refine ⟨.advance none, rfl, ?_⟩
      rw [step?, ha]
      simp [hblocks]
    | true =>
      obtain ⟨worker, rfl⟩ : ∃ worker, stage = .join worker := by
        cases stage with
        | join worker => exact ⟨worker, rfl⟩
        | _ => cases hblocks
      have hclosed := hdoors.closed none worker rest (stages_of_activity ha)
      cases hq : s.component.workers[worker]? with
      | none => simp [Component.blocks, Component.hasStopped, hq] at hblocks
      | some q =>
        rw [Component.isAdmitting, Component.queueOf_eq hq] at hclosed
        refine exists_onward_of_closed h hq ?_ hclosed
        simpa [Component.blocks, Component.hasStopped, hq] using hblocks

end System

end CecBus
