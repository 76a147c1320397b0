import CecBus.Proofs.Component.Accounts

/-! Runs of a system. `Sound` collects what holds of a system at every moment, whoever makes the calls: the life of
its sessions, the accounts of its workers, and that a worker makes calls only while it calls a receiver. Every event
keeps it, so every run does. -/

namespace CecBus

variable {ρ : Type}

namespace Component

variable {c d : Component ρ} {worker other : Nat} {q : Queue (Task ρ)}

/-! ### Calls of receivers under way -/

theorem calling?_congr (h : d.workers = c.workers) (worker : Nat) : d.calling? worker = c.calling? worker := by
  rw [calling?_eq_queueOf, queueOf_congr h, calling?_eq_queueOf]

theorem calling?_setWorker (q' : Queue (Task ρ)) (hq : c.workers[worker]? = some q) (other : Nat) :
    (c.setWorker worker q').calling? other = if worker = other then q'.call? else c.calling? other := by
  rw [calling?_eq_queueOf, queueOf_setWorker q' hq, calling?_eq_queueOf]
  split <;> rfl

theorem calling?_setWorker_of_phase {q' : Queue (Task ρ)} (hq : c.workers[worker]? = some q)
    (hphase : q'.phase = q.phase) (other : Nat) : (c.setWorker worker q').calling? other = c.calling? other := by
  rw [calling?_setWorker q' hq]
  split
  · next hw =>
    subst hw
    rw [calling?_eq_queueOf, queueOf_eq hq, Queue.call?_congr hphase]
  · rfl

theorem calling?_append {more : List (Queue (Task ρ))} (h : d.workers = c.workers ++ more)
    (hmore : ∀ q ∈ more, q.call? = none) (worker : Nat) : d.calling? worker = c.calling? worker := by
  ext call
  rw [calling?_eq_some, calling?_eq_some, h]
  rcases Nat.lt_or_ge worker c.workers.length with hlt | hge
  · rw [List.getElem?_append_left hlt]
  · rw [List.getElem?_append_right hge, List.getElem?_eq_none hge]
    refine iff_of_false ?_ (by simp)
    rintro ⟨q, hq, hcall⟩
    rw [hmore q (List.mem_of_getElem? hq)] at hcall
    cases hcall

theorem calling?_after (r : Operation ρ) (worker : Nat) : (c.after r).calling? worker = c.calling? worker := by
  cases hm : r.message? with
  | none =>
    by_cases hr : ∃ fault, r = .openSession fault
    · obtain ⟨fault, rfl⟩ := hr
      obtain ⟨more, hworkers, hmore⟩ := c.exists_workers_openSession fault
      exact calling?_append hworkers hmore worker
    · exact calling?_congr (keeps_after hm (not_exists.1 hr)).workers worker
  | some message =>
    rw [(after_of_message? hm).1]
    rcases c.enqueue_value message with h | ⟨s, number, queue, -, -, -, hq, h⟩
    · rw [h]
    · rw [h]
      obtain ⟨-, -, -, hphase⟩ := queue.value_enqueue message
      exact calling?_setWorker_of_phase hq hphase worker

theorem calling?_perform {thread : Option Nat} {stage : Stage} {more : List Stage}
    (hp : outcome (c.perform thread stage) = .ok (more, d)) (worker : Nat) : d.calling? worker = c.calling? worker := by
  rcases workers_perform hp with h | ⟨number, q, q', hq, hclosed, hd⟩
  · exact calling?_congr h worker
  · rw [calling?_congr hd]
    exact calling?_setWorker_of_phase hq hclosed.phase worker

/-- A worker that takes a step calls no receiver yet, and the others go on with what they were doing. -/
theorem calling?_work {step : Logged (Component ρ)} (h : c.work? worker = some step) :
    c.calling? worker = none ∧ ∀ other, worker ≠ other → step.value.calling? other = c.calling? other := by
  obtain ⟨q, hq, ⟨kind, payload, hphase, rfl⟩ | ⟨-, received, hreceived, hstep⟩⟩ := work?_eq_some h
  · refine ⟨by rw [calling?_eq_queueOf, queueOf_eq hq, Queue.call?, hphase], fun other hne => ?_⟩
    obtain ⟨q', -, hvalue⟩ := c.dispatch_value worker q kind payload
    have hq' : (c.withHandled kind payload).workers[worker]? = some q := hq
    rw [hvalue, calling?_setWorker q' hq', if_neg hne]
    exact calling?_congr (c.keeps_withHandled kind payload).workers other
  · obtain ⟨-, hphase, -⟩ := Queue.receive?_spec hreceived
    refine ⟨by rw [calling?_eq_queueOf, queueOf_eq hq, Queue.call?, hphase], fun other hne => ?_⟩
    rw [hstep, calling?_setWorker _ hq, if_neg hne]

theorem calling?_resume {call : ρ × Handle × List UInt8} (h : c.calling? worker = some call) (hne : worker ≠ other) :
    (c.resume worker).calling? other = c.calling? other := by
  obtain ⟨q, hq, hcall⟩ := calling?_eq_some.1 h
  rw [resume_of_calling hq (by rw [hcall]; rfl), calling?_setWorker _ hq, if_neg hne]

theorem length_le_after (r : Operation ρ) : c.workers.length ≤ (c.after r).workers.length := by
  by_cases hr : ∃ fault, r = .openSession fault
  · obtain ⟨fault, rfl⟩ := hr
    obtain ⟨more, hworkers, -⟩ := c.exists_workers_openSession fault
    rw [hworkers, List.length_append]
    exact Nat.le_add_right _ _
  · exact Nat.le_of_eq (alike_after (not_exists.1 hr)).length.symm

theorem length_perform {thread : Option Nat} {stage : Stage} {more : List Stage}
    (hp : outcome (c.perform thread stage) = .ok (more, d)) : d.workers.length = c.workers.length := by
  rcases workers_perform hp with h | ⟨number, q, q', -, -, h⟩
  · rw [h]
  · rw [h, setWorker, List.length_set]

/-! ### Workers that have stopped -/

theorem stopped_after (r : Operation ρ) (hs : c.Stopped worker) : (c.after r).Stopped worker := by
  by_cases hr : ∃ fault, r = .openSession fault
  · obtain ⟨fault, rfl⟩ := hr
    obtain ⟨more, hworkers, -⟩ := c.exists_workers_openSession fault
    exact hs.append hworkers
  · exact (alike_after (not_exists.1 hr)).stopped hs

theorem stopped_perform {thread : Option Nat} {stage : Stage} {more : List Stage}
    (hp : outcome (c.perform thread stage) = .ok (more, d)) (hs : c.Stopped worker) : d.Stopped worker := by
  rcases workers_perform hp with h | ⟨number, q, q', hq, hclosed, hd⟩
  · rwa [Stopped, h]
  · rw [Stopped, hd]
    exact (alike_of_closesTo hq hclosed).stopped hs

end Component

namespace System

variable {s s' : System ρ} {event : Event ρ} {events : List (Event ρ)} {thread : Option Nat} {worker : Nat}

def stages (s : System ρ) (thread : Option Nat) : List Stage := ((s.activity thread).map Prod.snd).getD []

theorem stages_setActivity (s : System ρ) (thread : Option Nat) (activity : Option (Closing × List Stage)) :
    (s.setActivity thread activity).stages = Function.update s.stages thread ((activity.map Prod.snd).getD []) := by
  funext other
  by_cases ht : other = thread
  · subst ht
    simp [stages, setActivity]
  · simp [stages, setActivity, ht]

theorem stages_of_activity {closing : Closing} {rest : List Stage} (h : s.activity thread = some (closing, rest)) :
    s.stages thread = rest := by
  rw [stages, h]
  rfl

theorem stages_of_isFree (h : s.isFree thread) : s.stages thread = [] := by
  rw [isFree, Bool.and_eq_true, Option.isNone_iff_eq_none] at h
  rw [stages, h.1]
  rfl

theorem mem_detached_noteStage {h : History ρ} {stage : Stage} : worker ∈ (noteStage h thread stage).detached ↔
    worker ∈ h.detached ∨ thread = some worker ∧ stage = .shutDown worker := by
  cases stage with
  | shutDown number =>
    by_cases ht : thread = some number
    · subst ht
      simp only [noteStage, if_true, List.mem_append, List.mem_singleton, Option.some.injEq, Stage.shutDown.injEq]
      exact or_congr_right ⟨fun hw => ⟨hw.symm, hw.symm⟩, fun hw => hw.1.symm⟩
    · rw [noteStage, if_neg ht]
      refine ⟨.inl, fun hw => hw.resolve_right ?_⟩
      rintro ⟨ht', hs⟩
      exact ht (ht'.trans (congrArg some (Stage.shutDown.inj hs).symm))
  | _ => simp [noteStage]

theorem handled_noteStage (h : History ρ) (thread : Option Nat) (stage : Stage) :
    (noteStage h thread stage).handled = h.handled := by
  obtain ⟨detached, hnote⟩ := exists_noteStage_eq h thread stage
  rw [hnote]

theorem accepted_noteStage (h : History ρ) (thread : Option Nat) (stage : Stage) :
    (noteStage h thread stage).accepted = h.accepted := by
  obtain ⟨detached, hnote⟩ := exists_noteStage_eq h thread stage
  rw [hnote]

theorem called_performStage (s : System ρ) (thread : Option Nat) (closing : Closing) (stage : Stage)
    (rest : List Stage) : (s.performStage thread closing stage rest).history.called = s.history.called := by
  unfold performStage
  split
  · rfl
  · obtain ⟨detached, hnote⟩ := exists_noteStage_eq s.history thread stage
    rw [hnote]

/-- What holds of a system at every moment. -/
structure Sound (s : System ρ) : Prop where
  life : Life s.component s.stages s.history.detached
  accounts : Accounts s.component s.history
  accepted_lt : ∀ entry ∈ s.history.accepted, entry.1 < s.component.workers.length
  detached_lt : ∀ worker ∈ s.history.detached, worker < s.component.workers.length
  calling (worker : Nat) : (s.activity (some worker)).isSome → (s.component.calling? worker).isSome

def initial : System ρ := { component := .empty }

theorem sound_initial : (initial : System ρ).Sound where
  life := .vacant ⟨rfl, rfl, fun _ => calm_nil, nofun⟩
  accounts := fun _ => ⟨Queue.tracks_ofCapacity _, rfl⟩
  accepted_lt := nofun
  detached_lt := nofun
  calling := nofun

namespace Sound

theorem request (h : s.Sound) (r : Operation ρ) : Sound
    { s with
      component := s.component.after r
      history := { s.history with accepted := s.history.accepted ++ (s.component.accepted? r).toList } } where
  life := by
    by_cases hr : ∃ fault, r = .openSession fault
    · obtain ⟨fault, rfl⟩ := hr
      exact h.life.openSession fault h.detached_lt
    · exact h.life.alike (Component.alike_after (not_exists.1 hr))
  accounts := h.accounts.request h.life r
  accepted_lt := fun entry hentry => by
    refine Nat.lt_of_lt_of_le ?_ (Component.length_le_after r)
    rcases List.mem_append.1 hentry with hentry | hentry
    · exact h.accepted_lt entry hentry
    · exact h.life.lt_length_of_accepted? (Option.mem_toList.1 hentry)
  detached_lt := fun worker hw => Nat.lt_of_lt_of_le (h.detached_lt worker hw) (Component.length_le_after r)
  calling := fun worker hw => by
    rw [Component.calling?_after]
    exact h.calling worker hw

theorem lt_length_of_mem_noteStage (h : s.Sound) {stage : Stage} {rest : List Stage}
    (hs : s.stages thread = stage :: rest) (hw : worker ∈ (noteStage s.history thread stage).detached) :
    worker < s.component.workers.length := by
  obtain hw | ⟨-, rfl⟩ := mem_detached_noteStage.1 hw
  · exact h.detached_lt worker hw
  · obtain ⟨number, session, phase, others, hclosing⟩ := h.life.isClosing_of_head hs rfl
    have howned := hclosing.owned
    rw [hs] at howned
    cases phase with
    | begun =>
      obtain rfl := Stage.shutDown.inj (List.cons.inj howned).1
      rw [hclosing.length]
      exact Nat.lt_succ_self _
    | waiting | last => cases (List.cons.inj howned).1

theorem setActivity (h : s.Sound) {activity : Option (Closing × List Stage)}
    (hlife : Life s.component (s.setActivity thread activity).stages s.history.detached)
    (hcalling : ∀ worker, thread = some worker → activity.isSome → (s.component.calling? worker).isSome) :
    (s.setActivity thread activity).Sound where
  life := hlife
  accounts := h.accounts
  accepted_lt := h.accepted_lt
  detached_lt := h.detached_lt
  calling := fun worker hw => by
    by_cases ht : some worker = thread
    · refine hcalling worker ht.symm ?_
      simpa [System.setActivity, ht] using hw
    · refine h.calling worker ?_
      simpa [System.setActivity, ht] using hw

theorem start (h : s.Sound) (hfree : s.isFree thread) (closing : Closing) :
    (s.setActivity thread (some (closing, closing.stages))).Sound := by
  refine h.setActivity ?_ fun worker ht _ => ?_
  · rw [stages_setActivity]
    exact h.life.update (stages_of_isFree hfree ▸ calm_nil) (calm_closing closing)
  · subst ht
    rw [isFree, Bool.and_eq_true] at hfree
    exact hfree.2

theorem finish (h : s.Sound) {closing : Closing} (hs : s.activity thread = some (closing, [])) :
    (s.setActivity thread none).Sound := by
  refine h.setActivity ?_ nofun
  rw [stages_setActivity]
  exact h.life.update (stages_of_activity hs ▸ calm_nil) calm_nil

theorem performStage (h : s.Sound) {closing : Closing} {stage : Stage} {rest : List Stage}
    (hs : s.activity thread = some (closing, stage :: rest)) (hblocks : s.component.blocks stage = false) :
    (s.performStage thread closing stage rest).Sound := by
  have hstages := stages_of_activity hs
  unfold System.performStage
  split
  · next e hp =>
    refine h.setActivity ?_ nofun
    rw [stages_setActivity]
    exact h.life.abort hstages hp
  · next more d hp =>
    have hcalling : ∀ worker, ((s.setActivity thread (some (closing, more ++ rest))).activity (some worker)).isSome →
        (s.component.calling? worker).isSome := by
      intro worker hw
      refine h.calling worker ?_
      by_cases ht : some worker = thread
      · rw [ht, hs]
        rfl
      · simpa [System.setActivity, ht] using hw
    refine ⟨?_, h.accounts.advance hp, fun entry hentry => ?_, fun worker hw => ?_, fun worker hw => ?_⟩
    · have hlife := h.life.advance hstages hblocks s.history rfl hp
      have hupdate := stages_setActivity s thread (some (closing, more ++ rest))
      exact hupdate ▸ hlife
    · rw [accepted_noteStage] at hentry
      rw [Component.length_perform hp]
      exact h.accepted_lt entry hentry
    · rw [Component.length_perform hp]
      exact lt_length_of_mem_noteStage h hstages hw
    · rw [Component.calling?_perform hp]
      exact hcalling worker hw

theorem work (h : s.Sound) {step : Logged (Component ρ)} (hs : s.component.work? worker = some step) : Sound
    { s with
      component := step.value
      history := { s.history with
        handled := s.history.handled ++ (s.component.handling? worker).toList } } where
  life := h.life.alike (Component.alike_work hs)
  accounts := h.accounts.work hs
  accepted_lt := fun entry hentry => by
    rw [(Component.alike_work hs).length]
    exact h.accepted_lt entry hentry
  detached_lt := fun other hw => by
    rw [(Component.alike_work hs).length]
    exact h.detached_lt other hw
  calling := fun other hw => by
    obtain ⟨hidle, hothers⟩ := Component.calling?_work hs
    have hcalling := h.calling other hw
    have hne : worker ≠ other := by
      rintro rfl
      rw [hidle] at hcalling
      cases hcalling
    rw [hothers other hne]
    exact hcalling

theorem resume (h : s.Sound) {call : ρ × Handle × List UInt8} (hfree : s.activity (some worker) = none)
    (hc : s.component.calling? worker = some call) : Sound
    { s with
      component := s.component.resume worker
      history := { s.history with called := s.history.called ++ [(worker, call)] } } := by
  obtain ⟨q, hq, hcall⟩ := Component.calling?_eq_some.1 hc
  have halike := Component.alike_resume hq (by rw [hcall]; rfl)
  refine ⟨h.life.alike halike, h.accounts.resume hc, fun entry hentry => ?_, fun other hw => ?_, fun other hw => ?_⟩
  · rw [halike.length]
    exact h.accepted_lt entry hentry
  · rw [halike.length]
    exact h.detached_lt other hw
  · have hne : worker ≠ other := by
      rintro rfl
      change (s.activity (some worker)).isSome at hw
      rw [hfree] at hw
      cases hw
    rw [Component.calling?_resume hc hne]
    exact h.calling other hw

end Sound

/-- What an event needs, and what it leads to. -/
inductive Step (s : System ρ) : Event ρ → System ρ → Prop
  | request {thread : Option Nat} (r : Operation ρ) (hfree : s.isFree thread) : Step s (.request thread r)
      { s with
        component := s.component.after r
        history := { s.history with accepted := s.history.accepted ++ (s.component.accepted? r).toList } }
  | start {thread : Option Nat} (closing : Closing) (hfree : s.isFree thread) :
      Step s (.start thread closing) (s.setActivity thread (some (closing, closing.stages)))
  | advance {thread : Option Nat} {closing : Closing} {stage : Stage} {rest : List Stage}
      (ha : s.activity thread = some (closing, stage :: rest)) (hblocks : s.component.blocks stage = false) :
      Step s (.advance thread) (s.performStage thread closing stage rest)
  | finish {thread : Option Nat} {closing : Closing} (ha : s.activity thread = some (closing, [])) :
      Step s (.finish thread) (s.setActivity thread none)
  | work {worker : Nat} {step : Logged (Component ρ)} (hs : s.component.work? worker = some step) :
      Step s (.work worker)
        { s with
          component := step.value
          history := { s.history with
            handled := s.history.handled ++ (s.component.handling? worker).toList } }
  | resume {worker : Nat} {call : ρ × Handle × List UInt8} (hidle : s.activity (some worker) = none)
      (hc : s.component.calling? worker = some call) : Step s (.resume worker)
        { s with
          component := s.component.resume worker
          history := { s.history with called := s.history.called ++ [(worker, call)] } }

theorem step_of_step? (h : s.step? event = some s') : s.Step event s' := by
  cases event with
  | request thread r =>
    simp only [step?, Option.ite_none_right_eq_some, Option.some.injEq] at h
    obtain ⟨hfree, rfl⟩ := h
    exact .request r hfree
  | start thread closing =>
    simp only [step?, Option.ite_none_right_eq_some, Option.some.injEq] at h
    obtain ⟨hfree, rfl⟩ := h
    exact .start closing hfree
  | advance thread =>
    rw [step?] at h
    split at h
    · next closing stage rest ha =>
      split at h
      · cases h
      · next hblocks =>
        cases h
        exact .advance ha (by simpa using hblocks)
    · cases h
  | finish thread =>
    rw [step?] at h
    split at h
    · next closing ha =>
      cases h
      exact .finish ha
    · cases h
  | work worker =>
    obtain ⟨step, hs, rfl⟩ := Option.map_eq_some_iff.1 h
    exact .work hs
  | resume worker =>
    rw [step?] at h
    split at h
    · cases h
    · next hidle =>
      obtain ⟨call, hc, rfl⟩ := Option.map_eq_some_iff.1 h
      exact .resume (by simpa using hidle) hc

theorem Sound.step (h : s.Sound) (hstep : s.step? event = some s') : s'.Sound := by
  cases step_of_step? hstep with
  | request r _ => exact h.request r
  | start closing hfree => exact h.start hfree closing
  | advance ha hblocks => exact h.performStage ha hblocks
  | finish ha => exact h.finish ha
  | work hs => exact h.work hs
  | resume hidle hc => exact h.resume hidle hc

theorem stopped_step (hstep : s.step? event = some s') (hstopped : s.component.Stopped worker) :
    s'.component.Stopped worker := by
  cases step_of_step? hstep with
  | request r _ => exact Component.stopped_after r hstopped
  | start | finish => exact hstopped
  | advance =>
    unfold performStage
    split
    · exact hstopped
    · next hp => exact Component.stopped_perform hp hstopped
  | work hs => exact (Component.alike_work hs).stopped hstopped
  | resume _ hc =>
    obtain ⟨q, hq, hcall⟩ := Component.calling?_eq_some.1 hc
    exact (Component.alike_resume hq (by rw [hcall]; rfl)).stopped hstopped

theorem run?_append (s : System ρ) (events others : List (Event ρ)) :
    s.run? (events ++ others) = (s.run? events).bind (·.run? others) := by
  induction events generalizing s with
  | nil => rfl
  | cons event rest ih =>
    rw [List.cons_append, run?, run?]
    cases s.step? event with
    | none => rfl
    | some t => exact ih t

/-- A property that every event keeps holds after every run. -/
theorem run?_induct {P : System ρ → Prop} {allowed : Event ρ → Prop}
    (hstep : ∀ s event s', allowed event → P s → s.step? event = some s' → P s')
    (hallowed : ∀ event ∈ events, allowed event) (h : P s) (hrun : s.run? events = some s') : P s' := by
  induction events generalizing s with
  | nil =>
    cases hrun
    exact h
  | cons event rest ih =>
    obtain ⟨next, hnext, hrest⟩ := Option.bind_eq_some_iff.1 hrun
    obtain ⟨hevent, hothers⟩ := List.forall_mem_cons.1 hallowed
    exact ih hothers (hstep s event next hevent h hnext) hrest

theorem sound_of_run (hrun : initial.run? events = some s) : s.Sound :=
  run?_induct (fun _ _ _ _ h hs => h.step hs) (fun _ _ => trivial) sound_initial hrun

/-! ### A television for concrete runs -/

/-- A profile with nothing but an emulated television. -/
def soleTelevision : Profile :=
  let television := .mapping [(.string "name", .string "TV"), (.string "type", .string "TV")]
  ⟨.mapping [(.string "hdmicec", .mapping [(.string "emulated_device", .string "TV"),
    (.string "number_devices", .integer 1), (.string "device_map", .mapping [(.integer 0, television)])])]⟩

def announcement : ByteArray :=
  "\x7b\"command\":\"ActiveSource\",\"initiator\":\"TV\",\"destination\":\"broadcast\"\x7d".toUTF8

def activeSource : Operation Unit := .deliver MessageKind.command.topic announcement

/-- The caller opens the session with a number and sets its receiver. -/
def openings (number : Nat) : List (Event Unit) :=
  [.request none (.openSession none), .request none (.setReceiver (.ofSession number) (some ()))]

def loading : List (Event Unit) := [.request none .activate, .request none (.loadProfile soleTelevision)]

end System

end CecBus
