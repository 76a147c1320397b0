import CecBus.Proofs.Component.Alike

/-! The life of sessions. There is none, or one that is ready, or one that some thread is closing, and then that thread
alone holds the stages that are left. The workers of earlier sessions have stopped, but for those that closed their own
queue. `Life` says so, and every event keeps it. -/

namespace CecBus

variable {ρ : Type}

def Handle.ofSession (number : Nat) : Handle := ⟨0, UInt32.ofNat number⟩

/-- A registry of one slot, before the handle of the session with a number is issued or while it is live. -/
def Registry.atSession (number : Nat) (isLive : Bool) : Registry := ⟨[⟨UInt32.ofNat number, isLive⟩]⟩

theorem Registry.register?_atSession {number : Nat} {isLive : Bool} {handle : Handle} {r : Registry}
    (h : (atSession number isLive).register? = some (handle, r)) :
    isLive = false ∧ handle = .ofSession number ∧ r = atSession number true := by
  cases isLive with
  | true => simp [register?, free?, atSession] at h
  | false =>
    simp [register?, free?, atSession, handleAt] at h
    exact ⟨rfl, h.1.symm, h.2.symm⟩

theorem Registry.release?_atSession {number : Nat} {isLive : Bool} {r : Registry}
    (h : (atSession number isLive).release? (.ofSession number) = some r) : r = atSession (number + 1) false := by
  unfold release? at h
  split at h
  · cases h
    simp [atSession, Handle.ofSession, Slot.retire]
  · cases h

theorem Registry.resolves_atSession (number : Nat) : (atSession number true).resolves (.ofSession number) = true := by
  simp [resolves, atSession, Handle.ofSession]

theorem Registry.register?_atSession_false (number : Nat) :
    (atSession number false).register? = some (.ofSession number, atSession number true) := by
  simp [register?, free?, atSession, handleAt, Handle.ofSession]

theorem Registry.release?_atSession_true (number : Nat) :
    (atSession number true).release? (.ofSession number) = some (atSession (number + 1) false) := by
  rw [release?, if_pos (resolves_atSession number)]
  simp [atSession, Handle.ofSession, Slot.retire]

def Stage.isTeardown : Stage → Bool
  | .shutDown _ | .join _ | .vacate _ => true
  | _ => false

/-- No session is being torn down by some stages. -/
def Calm (stages : List Stage) : Prop := ∀ stage ∈ stages, stage.isTeardown = false

theorem calm_nil : Calm [] := nofun

theorem calm_cons {stage : Stage} {rest : List Stage} :
    Calm (stage :: rest) ↔ stage.isTeardown = false ∧ Calm rest := List.forall_mem_cons

theorem calm_append {stages rest : List Stage} : Calm (stages ++ rest) ↔ Calm stages ∧ Calm rest :=
  List.forall_mem_append

theorem calm_closing (closing : Closing) : Calm closing.stages := by
  cases closing <;> exact calm_cons.2 ⟨rfl, calm_nil⟩

/-- How far the teardown of a session has come. -/
inductive Teardown where
  | begun
  | waiting
  | last

/-- The stages of the teardown that are left. -/
def Teardown.stages (number : Nat) : Teardown → List Stage
  | begun => [.shutDown number, .vacate (.ofSession number)]
  | waiting => [.join number, .vacate (.ofSession number)]
  | last => [.vacate (.ofSession number)]

namespace Component

variable {c d : Component ρ} {detached : List Nat} {worker : Nat}

def Stopped (c : Component ρ) (worker : Nat) : Prop := ∃ q, c.workers[worker]? = some q ∧ q.isStopped

/-- The worker has stopped, or it closed its own queue. -/
def IsOver (c : Component ρ) (detached : List Nat) (worker : Nat) : Prop := c.Stopped worker ∨ worker ∈ detached

theorem Alike.stopped (h : c.Alike d) (hs : c.Stopped worker) : d.Stopped worker := by
  obtain ⟨q, hq, hstopped⟩ := hs
  obtain ⟨q', hq', hmono⟩ := h.queues worker q hq
  exact ⟨q', hq', hmono hstopped⟩

theorem Alike.isOver (h : c.Alike d) (ho : c.IsOver detached worker) : d.IsOver detached worker :=
  ho.imp_left h.stopped

theorem Stopped.append {more : List (Queue (Task ρ))} (h : c.Stopped worker) (hd : d.workers = c.workers ++ more) :
    d.Stopped worker := by
  obtain ⟨q', hq', hstopped⟩ := h
  have hlt := (List.getElem?_eq_some_iff.1 hq').1
  exact ⟨q', by rw [hd, List.getElem?_append_left hlt, hq'], hstopped⟩

/-! ### What the stages do -/

theorem retire_eq_ok {handle : Handle} {retired : Option Nat} (h : outcome (c.retire handle) = .ok (retired, d)) :
    ∃ s registry, c.session = some s ∧ s.isReady = true ∧ s.handle = handle ∧
      c.registry.release? handle = some registry ∧ retired = s.worker ∧
      d = { c with registry, session := some { s with isReady := false, worker := none } } := by
  unfold retire at h
  cases hr : c.ready? with
  | none => simp [hr] at h
  | some s =>
    obtain ⟨hs, hready⟩ := ready?_eq_some.1 hr
    by_cases hh : s.handle = handle
    · cases hrelease : c.registry.release? handle with
      | none => simp [hr, hh, hrelease] at h
      | some registry =>
        refine ⟨s, registry, hs, hready, hh, rfl, ?_⟩
        cases hw : s.worker with
        | none => simpa [hr, hh, hrelease, hw, @eq_comm _ _ retired, @eq_comm _ _ d] using h
        | some w => simpa [hr, hh, hrelease, hw, @eq_comm _ _ retired, @eq_comm _ _ d] using h
    · simp [hr, hh] at h

/-- What performing a stage comes to when it does not fail: the stages that are put in front, and the component. -/
inductive Performed (c : Component ρ) (thread : Option Nat) : Stage → List Stage → Component ρ → Prop
  | checked (hi : c.isInitialized = true) :
    Performed c thread .checkInitialized [.findSession true, .clearInitialized] c
  | found (nested : Bool) (hsetup : c.setup.isSome = true) : Performed c thread (.findSession nested) c.afterFinding c
  | missing (hsetup : c.setup = none) : Performed c thread (.findSession true) [] c
  | refused {handle : Handle} {e : DriverError} (h : outcome (c.retire handle) = .error e) :
    Performed c thread (.retire handle true) [] c
  | retired {handle : Handle} (nested : Bool) {number : Option Nat} {d : Component ρ}
      (h : outcome (c.retire handle) = .ok (number, d)) :
    Performed c thread (.retire handle nested) (afterRetiring handle number) d
  | absent {number : Nat} (hq : c.workers[number]? = none) : Performed c thread (.shutDown number) [] c
  | detached {number : Nat} {q : Queue (Task ρ)} (hq : c.workers[number]? = some q) (ht : thread = some number) :
    Performed c thread (.shutDown number) [] (c.setWorker number q.detach.value)
  | requested {number : Nat} {q : Queue (Task ρ)} (hq : c.workers[number]? = some q) (ht : thread ≠ some number) :
    Performed c thread (.shutDown number) [.join number] (c.setWorker number q.requestExit.value)
  | joined (number : Nat) : Performed c thread (.join number) [] c
  | vacated (handle : Handle) : Performed c thread (.vacate handle) [] { c with session := none }
  | forgotten : Performed c thread .forgetSetup [] { c with setup := none }
  | cleared : Performed c thread .clearInitialized [] { c with isInitialized := false }

theorem performed_retire {thread : Option Nat} {handle : Handle} {nested : Bool} {more : List Stage}
    (h : outcome (c.perform thread (.retire handle nested)) = .ok (more, d)) :
    c.Performed thread (.retire handle nested) more d := by
  rw [perform, retireStage, outcome_bind, outcome_liftM_logged, outcome_run] at h
  cases hr : outcome (c.retire handle) with
  | error e =>
    rw [hr] at h
    cases nested with
    | true =>
      cases h
      exact .refused hr
    | false => cases h
  | ok result =>
    rw [hr] at h
    cases h
    exact .retired nested hr

theorem outcome_perform_shutDown (c : Component ρ) (thread : Option Nat) (number : Nat) :
    outcome (c.perform thread (.shutDown number)) = .ok (c.shutDownStage thread number).value := by
  rw [perform, outcome_liftM_logged]

/-- All that a stage can do. -/
theorem performed {thread : Option Nat} {stage : Stage} {more : List Stage}
    (h : outcome (c.perform thread stage) = .ok (more, d)) : c.Performed thread stage more d := by
  cases stage with
  | checkInitialized =>
    rw [perform] at h
    split at h
    · next hi =>
      cases h
      exact .checked hi
    · cases h
  | findSession nested =>
    rw [perform] at h
    cases hi : c.isInitialized with
    | false => simp [hi] at h
    | true =>
      cases hs : c.setup with
      | some setup =>
        obtain ⟨rfl, rfl⟩ : c.afterFinding = more ∧ c = d := by simpa [hi, hs] using h
        exact .found nested (by rw [hs]; rfl)
      | none =>
        cases nested with
        | true =>
          obtain ⟨rfl, rfl⟩ : more = [] ∧ c = d := by simpa [hi, hs] using h
          exact .missing hs
        | false => simp [hi, hs] at h
  | retire handle nested => exact performed_retire h
  | shutDown number =>
    rw [outcome_perform_shutDown, shutDownStage] at h
    cases hq : c.workers[number]? with
    | none =>
      rw [hq] at h
      cases h
      exact .absent hq
    | some q =>
      rw [hq] at h
      by_cases ht : thread = some number
      · obtain ⟨rfl, rfl⟩ : more = [] ∧ c.setWorker number q.detach.value = d := by simpa [ht] using h
        exact .detached hq ht
      · obtain ⟨rfl, rfl⟩ : [.join number] = more ∧ c.setWorker number q.requestExit.value = d := by simpa [ht] using h
        exact .requested hq ht
  | join number =>
    cases h
    exact .joined number
  | vacate handle =>
    cases h
    exact .vacated handle
  | forgetSetup =>
    cases h
    exact .forgotten
  | clearInitialized =>
    cases h
    exact .cleared

theorem exists_perform_teardown (c : Component ρ) (thread : Option Nat) {stage : Stage}
    (hstage : stage.isTeardown = true) : ∃ more d, outcome (c.perform thread stage) = .ok (more, d) := by
  cases stage with
  | shutDown number => exact ⟨_, _, c.outcome_perform_shutDown thread number⟩
  | join number => exact ⟨_, _, rfl⟩
  | vacate handle => exact ⟨_, _, rfl⟩
  | _ => cases hstage

/-- A stage that neither retires a session nor tears it down leaves the life of sessions alone. -/
theorem perform_calm {thread : Option Nat} {stage : Stage} {more : List Stage}
    (hcalm : stage.isTeardown = false) (hretire : ∀ handle nested, stage ≠ .retire handle nested)
    (h : outcome (c.perform thread stage) = .ok (more, d)) : Calm more ∧ c.Keeps d := by
  cases performed h with
  | checked => exact ⟨calm_cons.2 ⟨rfl, calm_cons.2 ⟨rfl, calm_nil⟩⟩, .refl c⟩
  | found =>
    refine ⟨?_, .refl c⟩
    unfold afterFinding
    split
    · exact calm_cons.2 ⟨rfl, calm_cons.2 ⟨rfl, calm_nil⟩⟩
    · exact calm_cons.2 ⟨rfl, calm_nil⟩
  | missing => exact ⟨calm_nil, .refl c⟩
  | refused | retired => exact absurd rfl (hretire _ _)
  | absent | detached | requested | joined | vacated => cases hcalm
  | forgotten | cleared => exact ⟨calm_nil, ⟨rfl, rfl, rfl⟩⟩

theorem workers_perform {thread : Option Nat} {stage : Stage} {more : List Stage}
    (hp : outcome (c.perform thread stage) = .ok (more, d)) : d.workers = c.workers ∨ ∃ number q q',
      c.workers[number]? = some q ∧ q.ClosesTo q' ∧ d.workers = (c.setWorker number q').workers := by
  cases performed hp with
  | retired nested h =>
    obtain ⟨s, registry, -, -, -, -, -, rfl⟩ := retire_eq_ok h
    exact .inl rfl
  | detached hq => exact .inr ⟨_, _, _, hq, .inl rfl, rfl⟩
  | requested hq => exact .inr ⟨_, _, _, hq, .inr rfl, rfl⟩
  | checked | found | missing | refused | absent | joined | vacated | forgotten | cleared => exact .inl rfl

/-- A session that is ready after a stage was ready before, and the registry is the same. -/
theorem ready?_of_perform {thread : Option Nat} {stage : Stage} {more : List Stage}
    (hp : outcome (c.perform thread stage) = .ok (more, d)) {s : Session ρ} (hready : d.ready? = some s) :
    c.ready? = some s ∧ d.registry = c.registry := by
  cases performed hp with
  | retired nested hretired =>
    obtain ⟨s', registry, -, -, -, -, -, rfl⟩ := retire_eq_ok hretired
    obtain ⟨hs, hisReady⟩ := ready?_eq_some.1 hready
    cases hs
    cases hisReady
  | vacated => cases (ready?_eq_some.1 hready).1
  | checked | found | missing | refused | absent | detached | requested | joined | forgotten | cleared =>
    exact ⟨hready, rfl⟩

/-- A component that is alike has the same session ready, as far as handle and worker go. -/
theorem Alike.exists_ready? (h : c.Alike d) {s : Session ρ} (hs : d.ready? = some s) :
    ∃ s', c.ready? = some s' ∧ s'.handle = s.handle ∧ s'.worker = s.worker := by
  obtain ⟨hsession, hready⟩ := ready?_eq_some.1 hs
  have houtline := h.session
  rw [hsession, Option.map_some, eq_comm, Option.map_eq_some_iff] at houtline
  obtain ⟨s', hs', houtline⟩ := houtline
  simp only [Session.outline, Prod.mk.injEq] at houtline
  exact ⟨s', ready?_eq_some.2 ⟨hs', houtline.2.1.trans hready⟩, houtline.1, houtline.2.2⟩

end Component

/-- What must hold when the teardown has come so far: at its end the worker has stopped, unless it is the one that
closes. -/
def Teardown.Fits (c : Component ρ) (detached : List Nat) (number : Nat) (thread : Option Nat) : Teardown → Prop
  | begun | waiting => number ∉ detached
  | last => number ∉ detached ∧ c.Stopped number ∨ number ∈ detached ∧ thread = some number

/-- There is no session, and nothing to tear down. -/
structure IsVacant (c : Component ρ) (stages : Option Nat → List Stage) (detached : List Nat) : Prop where
  session : c.session = none
  registry : c.registry = .atSession c.workers.length false
  calm (thread : Option Nat) : Calm (stages thread)
  past : ∀ worker < c.workers.length, c.IsOver detached worker

/-- The session with a number is ready, and nothing is torn down. -/
structure IsOpened (c : Component ρ) (stages : Option Nat → List Stage) (detached : List Nat) (number : Nat)
    (s : Session ρ) : Prop where
  length : c.workers.length = number + 1
  session : c.session = some s
  isReady : s.isReady = true
  worker : s.worker = some number
  handle : s.handle = .ofSession number
  registry : c.registry = .atSession number true
  attached : number ∉ detached
  calm (thread : Option Nat) : Calm (stages thread)
  past : ∀ worker < number, c.IsOver detached worker

/-- The session with a number is being closed by one thread, which has the stages of the teardown before it. -/
structure IsClosing (c : Component ρ) (stages : Option Nat → List Stage) (detached : List Nat) (number : Nat)
    (s : Session ρ) (owner : Option Nat) (phase : Teardown) (rest : List Stage) : Prop where
  length : c.workers.length = number + 1
  session : c.session = some s
  isReady : s.isReady = false
  worker : s.worker = none
  handle : s.handle = .ofSession number
  registry : c.registry = .atSession (number + 1) false
  owned : stages owner = phase.stages number ++ rest
  calm_rest : Calm rest
  calm (thread : Option Nat) : thread ≠ owner → Calm (stages thread)
  fits : phase.Fits c detached number owner
  past : ∀ worker < number, c.IsOver detached worker

/-- How far the life of sessions has come. -/
inductive Life (c : Component ρ) (stages : Option Nat → List Stage) (detached : List Nat) : Prop
  | vacant (h : IsVacant c stages detached)
  | ready (number : Nat) (s : Session ρ) (h : IsOpened c stages detached number s)
  | closing (number : Nat) (s : Session ρ) (owner : Option Nat) (phase : Teardown) (rest : List Stage)
      (h : IsClosing c stages detached number s owner phase rest)

section

variable {c d : Component ρ} {stages : Option Nat → List Stage} {detached : List Nat} {thread owner : Option Nat}
  {stage : Stage} {more rest : List Stage} {number : Nat} {s : Session ρ} {phase : Teardown}

theorem Component.Alike.exists_session (h : c.Alike d) (hs : c.session = some s) :
    ∃ s', d.session = some s' ∧ s'.handle = s.handle ∧ s'.isReady = s.isReady ∧ s'.worker = s.worker := by
  have hsession := h.session
  rw [hs, Option.map_some, Option.map_eq_some_iff] at hsession
  obtain ⟨s', hs', houtline⟩ := hsession
  simp only [Session.outline, Prod.mk.injEq] at houtline
  exact ⟨s', hs', houtline⟩

theorem IsClosing.not_calm (h : IsClosing c stages detached number s owner phase rest) : ¬ Calm (stages owner) := by
  intro hcalm
  rw [h.owned] at hcalm
  have hhead := (calm_append.1 hcalm).1
  cases phase <;> cases (calm_cons.1 hhead).1

theorem calm_update {other : Option Nat} (hmore : Calm more) (hother : other ≠ thread → Calm (stages other)) :
    Calm (Function.update stages thread more other) := by
  by_cases ht : other = thread
  · rw [ht, Function.update_self]
    exact hmore
  · rw [Function.update_of_ne ht]
    exact hother ht

namespace Life

theorem isVacant_of_none (h : Life c stages detached) (hs : c.session = none) : IsVacant c stages detached := by
  cases h with
  | vacant h => exact h
  | ready number s h =>
    rw [h.session] at hs
    cases hs
  | closing number s owner phase rest h =>
    rw [h.session] at hs
    cases hs

theorem isOpened_of_ready (h : Life c stages detached) (hs : c.session = some s) (hready : s.isReady = true) :
    ∃ number, IsOpened c stages detached number s := by
  cases h with
  | vacant h =>
    rw [h.session] at hs
    cases hs
  | ready number s' h =>
    rw [h.session] at hs
    cases hs
    exact ⟨number, h⟩
  | closing number s' owner phase rest h =>
    rw [h.session] at hs
    cases hs
    rw [h.isReady] at hready
    cases hready

/-- A session, ready or not, is that of the last worker. -/
theorem exists_number (h : Life c stages detached) (hs : c.session = some s) : ∃ number,
    c.workers.length = number + 1 ∧ s.handle = .ofSession number ∧ ∀ worker < number, c.IsOver detached worker := by
  cases h with
  | vacant h =>
    rw [h.session] at hs
    cases hs
  | ready number s' h =>
    rw [h.session] at hs
    cases hs
    exact ⟨number, h.length, h.handle, h.past⟩
  | closing number s' owner phase rest h =>
    rw [h.session] at hs
    cases hs
    exact ⟨number, h.length, h.handle, h.past⟩

theorem alike (h : Life c stages detached) (ha : c.Alike d) : Life d stages detached := by
  cases h with
  | vacant h =>
    have hsession := ha.session
    rw [h.session, Option.map_none, Option.map_eq_none_iff] at hsession
    exact .vacant ⟨hsession, by rw [ha.registry, h.registry, ha.length], h.calm,
      fun w hw => ha.isOver (h.past w (by rwa [ha.length] at hw))⟩
  | ready number s h =>
    obtain ⟨s', hs', hhandle, hready, hworker⟩ := ha.exists_session h.session
    exact .ready number s' ⟨by rw [ha.length, h.length], hs', by rw [hready, h.isReady], by rw [hworker, h.worker],
      by rw [hhandle, h.handle], by rw [ha.registry, h.registry], h.attached, h.calm,
      fun w hw => ha.isOver (h.past w hw)⟩
  | closing number s owner phase rest h =>
    obtain ⟨s', hs', hhandle, hready, hworker⟩ := ha.exists_session h.session
    have hfits : phase.Fits d detached number owner := by
      have hfits := h.fits
      cases phase with
      | begun | waiting => exact hfits
      | last => exact hfits.imp_left fun h => ⟨h.1, ha.stopped h.2⟩
    exact .closing number s' owner phase rest ⟨by rw [ha.length, h.length], hs', by rw [hready, h.isReady],
      by rw [hworker, h.worker], by rw [hhandle, h.handle], by rw [ha.registry, h.registry], h.owned, h.calm_rest,
      h.calm, hfits, fun w hw => ha.isOver (h.past w hw)⟩

theorem update (h : Life c stages detached) (hcalm : Calm (stages thread)) (hmore : Calm more) :
    Life c (Function.update stages thread more) detached := by
  cases h with
  | vacant h => exact .vacant { h with calm := fun other => calm_update hmore fun _ => h.calm other }
  | ready number s h => exact .ready number s { h with calm := fun other => calm_update hmore fun _ => h.calm other }
  | closing number s owner phase rest h =>
    have hne : owner ≠ thread := fun he => h.not_calm (he ▸ hcalm)
    exact .closing number s owner phase rest
      { h with
        owned := by rw [Function.update_of_ne hne, h.owned]
        calm := fun other ht => calm_update hmore fun _ => h.calm other ht }

/-- A thread whose next stage tears a session down is the one that closes it. -/
theorem isClosing_of_head (h : Life c stages detached) (hs : stages thread = stage :: rest)
    (hstage : stage.isTeardown = true) :
    ∃ number s phase others, IsClosing c stages detached number s thread phase others := by
  have hcalmless : ¬ Calm (stages thread) := by
    intro hcalm
    rw [hs] at hcalm
    have hhead := (calm_cons.1 hcalm).1
    rw [hstage] at hhead
    cases hhead
  cases h with
  | vacant h => exact absurd (h.calm thread) hcalmless
  | ready number s h => exact absurd (h.calm thread) hcalmless
  | closing number s owner phase others h =>
    have ht : thread = owner := by
      by_contra hne
      exact hcalmless (h.calm thread hne)
    exact ⟨number, s, phase, others, ht ▸ h⟩

/-- A thread that is not about to tear a session down never will, with what it has left. -/
theorem calm_of_head (h : Life c stages detached) (hs : stages thread = stage :: rest)
    (hstage : stage.isTeardown = false) : Calm (stages thread) := by
  cases h with
  | vacant h => exact h.calm thread
  | ready number s h => exact h.calm thread
  | closing number s owner phase others h =>
    refine h.calm thread fun ht => ?_
    have howned := h.owned
    rw [← ht, hs] at howned
    cases phase <;> (rw [(List.cons.inj howned).1] at hstage; cases hstage)

/-- A handle that is given up moves on to the next session, and its worker is over from the start. -/
theorem giveUp (h : IsVacant c stages detached) {handle : Handle} {registry : Registry}
    (hregister : c.registry.register? = some (handle, registry)) :
    IsVacant (c.giveUp handle registry) stages detached := by
  rw [h.registry] at hregister
  obtain ⟨-, rfl, rfl⟩ := Registry.register?_atSession hregister
  have hlength : (c.giveUp (.ofSession c.workers.length) (.atSession c.workers.length true)).workers.length =
      c.workers.length + 1 := List.length_append
  refine ⟨h.session, ?_, h.calm, fun w hw => ?_⟩
  · rw [hlength, Component.giveUp, Registry.release?_atSession_true, Option.getD_some]
  · rw [hlength] at hw
    rcases Nat.lt_succ_iff_lt_or_eq.1 hw with hw | rfl
    · exact (h.past w hw).imp_left fun hstopped => hstopped.append rfl
    · exact .inl ⟨Queue.unstarted, List.getElem?_concat_length, rfl⟩

/-- A session is opened only when there is none, and then nobody tears one down. -/
theorem openSession (h : Life c stages detached) (fault : Option String)
    (hdetached : ∀ w ∈ detached, w < c.workers.length) : Life (c.after (.openSession fault)) stages detached := by
  refine Component.after_openSession_induct (P := fun d => Life d stages detached) h
    (fun handle registry hnone hregister => .vacant (giveUp (h.isVacant_of_none hnone) hregister)) fun handle d ho => ?_
  obtain ⟨hnone, setup, registry, bus, -, -, hregister, rfl⟩ := Component.tryOpen_eq_ok ho
  have h := h.isVacant_of_none hnone
  rw [h.registry] at hregister
  obtain ⟨-, rfl, rfl⟩ := Registry.register?_atSession hregister
  exact .ready c.workers.length _ ⟨List.length_append, rfl, rfl, rfl, rfl, rfl,
    fun hmem => Nat.lt_irrefl _ (hdetached _ hmem), h.calm,
    fun w hw => (h.past w hw).imp_left fun hstopped => hstopped.append rfl⟩

/-- What is retired is the session that was opened last. -/
theorem number_of_retire (h : Life c stages detached) {handle : Handle} {retired : Option Nat}
    (hr : outcome (c.retire handle) = .ok (retired, d)) : ∃ number, c.workers.length = number + 1 ∧
      d.workers = c.workers ∧ handle = .ofSession number ∧ retired = some number := by
  obtain ⟨s, registry, hs, hready, rfl, -, rfl, rfl⟩ := Component.retire_eq_ok hr
  obtain ⟨number, hopened⟩ := h.isOpened_of_ready hs hready
  exact ⟨number, hopened.length, rfl, hopened.handle, hopened.worker⟩

theorem retire (h : Life c stages detached) {handle : Handle} {retired : Option Nat}
    (hr : outcome (c.retire handle) = .ok (retired, d)) (hrest : Calm rest) :
    Life d (Function.update stages thread (Component.afterRetiring handle retired ++ rest)) detached := by
  obtain ⟨s, registry, hs, hready, hhandle, hrelease, rfl, rfl⟩ := Component.retire_eq_ok hr
  obtain ⟨number, h⟩ := h.isOpened_of_ready hs hready
  rw [h.handle] at hhandle
  subst hhandle
  rw [h.registry] at hrelease
  obtain rfl := Registry.release?_atSession hrelease
  refine .closing number _ thread .begun rest ⟨h.length, rfl, rfl, rfl, h.handle, rfl, ?_, hrest, fun other ht => ?_,
    h.attached, h.past⟩
  · rw [Function.update_self, h.worker]
    rfl
  · rw [Function.update_of_ne ht]
    exact h.calm other

theorem shutDown (h : IsClosing c stages detached number s thread .begun rest) (history : History ρ)
    (hd : history.detached = detached) (hp : outcome (c.perform thread (.shutDown number)) = .ok (more, d)) :
    Life d (Function.update stages thread (more ++ .vacate (.ofSession number) :: rest))
      (System.noteStage history thread (.shutDown number)).detached := by
  have hlt : number < c.workers.length := by rw [h.length]; exact Nat.lt_succ_self _
  cases Component.performed hp with
  | absent hq => exact absurd hq (by simp [hlt])
  | detached hq ht =>
    have halike : c.Alike (c.setWorker number _) := Component.alike_of_closesTo hq (.inl rfl)
    have hnoted : (System.noteStage history thread (.shutDown number)).detached = detached ++ [number] := by
      rw [System.noteStage, if_pos ht, ← hd]
    rw [hnoted]
    refine Life.alike (.closing number s thread .last rest { h with
      owned := by rw [Function.update_self]; rfl
      calm := fun other hne => by rw [Function.update_of_ne hne]; exact h.calm other hne
      fits := .inr ⟨by simp, ht⟩
      past := fun w hw => (h.past w hw).imp_right fun hmem => List.mem_append_left _ hmem }) halike
  | requested hq ht =>
    have halike : c.Alike (c.setWorker number _) := Component.alike_of_closesTo hq (.inr rfl)
    have hnoted : (System.noteStage history thread (.shutDown number)).detached = detached := by
      rw [System.noteStage, if_neg ht, ← hd]
    rw [hnoted]
    refine Life.alike (.closing number s thread .waiting rest { h with
      owned := by rw [Function.update_self]; rfl
      calm := fun other hne => by rw [Function.update_of_ne hne]; exact h.calm other hne
      fits := h.fits }) halike

theorem join (h : IsClosing c stages detached number s thread .waiting rest)
    (hblocks : c.blocks (.join number) = false) :
    Life c (Function.update stages thread (.vacate (.ofSession number) :: rest)) detached := by
  have hlt : number < c.workers.length := by rw [h.length]; exact Nat.lt_succ_self _
  have hstopped : c.Stopped number := by
    refine ⟨c.workers[number], List.getElem?_eq_getElem hlt, ?_⟩
    simpa [Component.blocks, Component.hasStopped, List.getElem?_eq_getElem hlt] using hblocks
  exact .closing number s thread .last rest { h with
    owned := by rw [Function.update_self]; rfl
    calm := fun other hne => by rw [Function.update_of_ne hne]; exact h.calm other hne
    fits := .inl ⟨h.fits, hstopped⟩ }

theorem vacate (h : IsClosing c stages detached number s thread .last rest) :
    Life { c with session := none } (Function.update stages thread rest) detached := by
  refine .vacant ⟨rfl, by rw [h.registry, h.length], fun other => ?_, fun w hw => ?_⟩
  · exact calm_update h.calm_rest fun hne => h.calm other hne
  · rw [h.length] at hw
    rcases Nat.lt_succ_iff_lt_or_eq.1 hw with hw | rfl
    · exact h.past w hw
    · exact h.fits.imp And.right And.left

/-- Every stage keeps the life of sessions in order. -/
theorem advance (h : Life c stages detached) (hs : stages thread = stage :: rest) (hblocks : c.blocks stage = false)
    (history : History ρ) (hd : history.detached = detached)
    (hp : outcome (c.perform thread stage) = .ok (more, d)) :
    Life d (Function.update stages thread (more ++ rest)) (System.noteStage history thread stage).detached := by
  by_cases hstage : stage.isTeardown
  · obtain ⟨number, s, phase, others, hclosing⟩ := h.isClosing_of_head hs hstage
    have howned := hclosing.owned
    rw [hs] at howned
    cases phase with
    | begun =>
      obtain ⟨rfl, rfl⟩ := List.cons.inj howned
      exact shutDown hclosing history hd hp
    | waiting =>
      obtain ⟨rfl, rfl⟩ := List.cons.inj howned
      cases hp
      exact hd ▸ join hclosing hblocks
    | last =>
      obtain ⟨rfl, rfl⟩ := List.cons.inj howned
      cases hp
      exact hd ▸ vacate hclosing
  · have hstage : stage.isTeardown = false := by simpa using hstage
    have hcalm := h.calm_of_head hs hstage
    have hrest : Calm rest := (calm_cons.1 (hs ▸ hcalm)).2
    have hsame : (System.noteStage history thread stage).detached = detached := by
      rw [← hd]
      cases stage with
      | shutDown => cases hstage
      | _ => rfl
    rw [hsame]
    by_cases hretire : ∃ handle nested, stage = .retire handle nested
    · obtain ⟨handle, nested, rfl⟩ := hretire
      cases Component.performed hp with
      | refused => exact h.update hcalm hrest
      | retired _ hretired => exact h.retire hretired hrest
    · obtain ⟨hmore, hkeeps⟩ := Component.perform_calm hstage (fun a b he => hretire ⟨a, b, he⟩) hp
      exact (h.update hcalm (calm_append.2 ⟨hmore, hrest⟩)).alike hkeeps.alike

theorem abort (h : Life c stages detached) (hs : stages thread = stage :: rest) {e : CallError}
    (hp : outcome (c.perform thread stage) = .error e) : Life c (Function.update stages thread []) detached := by
  by_cases hstage : stage.isTeardown
  · obtain ⟨more, d, hok⟩ := c.exists_perform_teardown thread hstage
    rw [hok] at hp
    cases hp
  · exact h.update (h.calm_of_head hs (by simpa using hstage)) calm_nil

theorem current?_eq (h : Life c stages detached) (hs : c.session = some s) (hready : s.isReady = true)
    (hworker : s.worker = some number) : c.current? = some number := by
  obtain ⟨number', h⟩ := h.isOpened_of_ready hs hready
  rw [h.worker] at hworker
  cases hworker
  rw [Component.current?, h.session, h.length]
  rfl

/-- Only a session that was opened accepts messages. -/
theorem lt_length_of_accepted? (h : Life c stages detached) {r : Operation ρ} {entry : Nat × Message}
    (ha : c.accepted? r = some entry) : entry.1 < c.workers.length := by
  unfold Component.accepted? at ha
  split at ha
  · next message number _ hnumber =>
    obtain ⟨s, hs, rfl⟩ := Option.map_eq_some_iff.1 hnumber
    obtain ⟨number, hlength, -⟩ := h.exists_number hs
    split at ha
    · cases ha
      rw [hlength]
      exact Nat.lt_succ_self _
    · cases ha
  · cases ha

end Life

end

end CecBus
