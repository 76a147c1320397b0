import CecBus.Proofs.Component.Phases

/-! Calls on any number of threads at once. What is done under one lock is one step; a call that closes something goes
stage by stage, and between its stages the other threads go on. It looks for a session before it takes the set-up and
the initialization away, but a session that is opened after the look stays, and is then ready on a component without
set-up (`Crowd.exists_ready_unloaded`). As long as nobody opens a session at such a moment, a session that is ready has a
set-up and an initialized component under it. Main result: `Crowd.isLoaded_of_run`. -/

namespace CecBus

variable {ρ : Type}

/-- A thread on which calls are made: one of any number of callers, or a worker while a receiver runs on it. -/
inductive Thread where
  | caller (number : Nat)
  | worker (number : Nat)
  deriving DecidableEq

def Thread.worker? : Thread → Option Nat
  | caller _ => none
  | worker number => some number

/-- A component with what is under way on any number of threads. -/
structure Crowd (ρ : Type) where
  component : Component ρ := .empty
  activity : Thread → Option (Closing × List Stage) := fun _ => none

namespace Crowd

/-- What happens next. -/
inductive Event (ρ : Type) where
  | request (thread : Thread) (r : Operation ρ)
  | start (thread : Thread) (closing : Closing)
  | advance (thread : Thread)
  | finish (thread : Thread)
  | work (worker : Nat)
  | resume (worker : Nat)

def initial : Crowd ρ := {}

/-- A thread that makes no call. A worker can only make one while it calls a receiver. -/
def isFree (s : Crowd ρ) (thread : Thread) : Bool :=
  (s.activity thread).isNone && thread.worker?.all fun worker => (s.component.calling? worker).isSome

def stages (s : Crowd ρ) (thread : Thread) : List Stage := ((s.activity thread).map Prod.snd).getD []

def setActivity (s : Crowd ρ) (thread : Thread) (activity : Option (Closing × List Stage)) : Crowd ρ :=
  { s with activity := Function.update s.activity thread activity }

/-- Performs the next stage on a thread. A call that fails is over. -/
def performStage (s : Crowd ρ) (thread : Thread) (closing : Closing) (stage : Stage) (rest : List Stage) : Crowd ρ :=
  match outcome (s.component.perform thread.worker? stage) with
  | .error _ => s.setActivity thread none
  | .ok (more, c) => { s.setActivity thread (some (closing, more ++ rest)) with component := c }

/-- The crowd after an event, if that can happen. -/
def step? (s : Crowd ρ) : Event ρ → Option (Crowd ρ)
  | .request thread r => if s.isFree thread then some { s with component := s.component.after r } else none
  | .start thread closing =>
    if s.isFree thread then some (s.setActivity thread (some (closing, closing.stages))) else none
  | .advance thread =>
    match s.activity thread with
    | some (closing, stage :: rest) =>
      if s.component.blocks stage then none else some (s.performStage thread closing stage rest)
    | _ => none
  | .finish thread =>
    match s.activity thread with
    | some (_, []) => some (s.setActivity thread none)
    | _ => none
  | .work worker => (s.component.work? worker).map fun step => { s with component := step.value }
  | .resume worker =>
    if (s.activity (.worker worker)).isSome then none
    else (s.component.calling? worker).map fun _ => { s with component := s.component.resume worker }

def run? (s : Crowd ρ) : List (Event ρ) → Option (Crowd ρ)
  | [] => some s
  | event :: rest => (s.step? event).bind (·.run? rest)

def opens (s : Crowd ρ) : Event ρ → Bool
  | .request thread (.openSession fault) => s.isFree thread && (s.component.tryOpen fault).value.1.isOk
  | _ => false

end Crowd

/-- Some stages take the set-up or the initialization away, and do not look for a session before. -/
def dismantles : List Stage → Bool
  | [] => false
  | .forgetSetup :: _ | .clearInitialized :: _ => true
  | .checkInitialized :: _ | .findSession _ :: _ => false
  | .retire .. :: rest | .shutDown _ :: rest | .join _ :: rest | .vacate _ :: rest => dismantles rest

/-! ### A session opened at the wrong moment -/

namespace Crowd

/-- One caller takes the component back to the start. When it has looked for a session, and found none, another opens
one. -/
def overlapping : List (Event Unit) :=
  [.request (.caller 0) .activate, .request (.caller 0) (.loadProfile System.soleTelevision),
    .start (.caller 0) .deactivate, .advance (.caller 0), .advance (.caller 0),
    .request (.caller 1) (.openSession none), .advance (.caller 0), .advance (.caller 0), .finish (.caller 0)]

/-- A session can be ready for good on a component that has no set-up and is not initialized. -/
theorem exists_ready_unloaded : ∃ s : Crowd Unit, initial.run? overlapping = some s ∧
    s.component.sessionState = .ready ∧ s.component.isInitialized = false ∧ s.component.setup = none ∧
      s.activity (.caller 0) = none ∧ s.activity (.caller 1) = none := by
  have hrun : (initial.run? overlapping).map (fun s => (s.component.sessionState, s.component.isInitialized,
      s.component.setup.isNone, (s.activity (.caller 0)).isNone, (s.activity (.caller 1)).isNone)) =
        some (.ready, false, true, true, true) := by decide +kernel
  obtain ⟨s, hs, hend⟩ := Option.map_eq_some_iff.1 hrun
  simp only [Prod.mk.injEq, Option.isNone_iff_eq_none] at hend
  exact ⟨s, hs, hend⟩

end Crowd

/-! ### Sessions opened apart -/

namespace Crowd

/-- All that can happen next. -/
inductive Step (s : Crowd ρ) : Event ρ → Crowd ρ → Prop
  | request {thread : Thread} (r : Operation ρ) (hfree : s.isFree thread = true) :
    Step s (.request thread r) { s with component := s.component.after r }
  | start {thread : Thread} (closing : Closing) (hfree : s.isFree thread = true) :
    Step s (.start thread closing) (s.setActivity thread (some (closing, closing.stages)))
  | advance {thread : Thread} {closing : Closing} {stage : Stage} {rest : List Stage}
    (ha : s.activity thread = some (closing, stage :: rest)) (hblocks : s.component.blocks stage = false) :
    Step s (.advance thread) (s.performStage thread closing stage rest)
  | finish {thread : Thread} {closing : Closing} (ha : s.activity thread = some (closing, [])) :
    Step s (.finish thread) (s.setActivity thread none)
  | work {worker : Nat} {step : Logged (Component ρ)} (hwork : s.component.work? worker = some step) :
    Step s (.work worker) { s with component := step.value }
  | resume {worker : Nat} {call : ρ × Handle × List UInt8} (hidle : s.activity (.worker worker) = none)
    (hcalling : s.component.calling? worker = some call) :
    Step s (.resume worker) { s with component := s.component.resume worker }

theorem step_of_step? {s s' : Crowd ρ} {event : Event ρ} (h : s.step? event = some s') : s.Step event s' := by
  cases event with
  | request thread r =>
    simp only [step?, Option.ite_none_right_eq_some, Option.some.injEq] at h
    obtain ⟨hfree, rfl⟩ := h
    exact .request r hfree
  | start thread closing =>
    simp only [step?, Option.ite_none_right_eq_some, Option.some.injEq] at h
    obtain ⟨hfree, rfl⟩ := h
    exact .start closing hfree
  | advance thread =>
    rw [step?] at h
    split at h
    · next closing stage rest ha =>
      obtain ⟨hblocks, h⟩ := Option.ite_none_left_eq_some.1 h
      cases h
      exact .advance ha (by simpa using hblocks)
    · cases h
  | finish thread =>
    rw [step?] at h
    split at h
    · next closing ha =>
      cases h
      exact .finish ha
    · cases h
  | work worker =>
    obtain ⟨step, hwork, rfl⟩ := Option.map_eq_some_iff.1 h
    exact .work hwork
  | resume worker =>
    obtain ⟨hidle, h⟩ := Option.ite_none_left_eq_some.1 h
    obtain ⟨call, hcalling, rfl⟩ := Option.map_eq_some_iff.1 h
    exact .resume (by simpa using hidle) hcalling

end Crowd

theorem dismantles_start (closing : Closing) : dismantles closing.stages = false := by
  cases closing <;> rfl

namespace Component

variable {c d : Component ρ} {worker : Option Nat} {stage : Stage} {more rest : List Stage} {session : Session ρ}

/-- The one slot of the registry is that of the session that is ready. -/
structure Slotted (c : Component ρ) : Prop where
  slot : ∃ number isLive, c.registry = .atSession number isLive
  live (session : Session ρ) : c.ready? = some session → c.registry.resolves session.handle = true

theorem slotted_empty : (empty : Component ρ).Slotted := ⟨⟨0, false, rfl⟩, nofun⟩

theorem Slotted.alike (h : c.Slotted) (ha : c.Alike d) : d.Slotted := by
  refine ⟨?_, fun session hready => ?_⟩
  · rw [ha.registry]
    exact h.slot
  · obtain ⟨session', hready', hhandle, -⟩ := ha.exists_ready? hready
    rw [ha.registry, ← hhandle]
    exact h.live session' hready'

theorem Slotted.openSession (h : c.Slotted) (fault : Option String) : (c.after (.openSession fault)).Slotted := by
  obtain ⟨number, isLive, hslot⟩ := h.slot
  refine after_openSession_induct h (fun handle registry hnone hregister => ?_) fun handle d ho => ?_
  · rw [hslot] at hregister
    obtain ⟨-, rfl, rfl⟩ := Registry.register?_atSession hregister
    refine ⟨⟨number + 1, false, by rw [giveUp, Registry.release?_atSession_true, Option.getD_some]⟩,
      fun session hready => ?_⟩
    rw [ready?_giveUp hnone] at hready
    cases hready
  · obtain ⟨-, setup, registry, bus, -, -, hregister, rfl⟩ := tryOpen_eq_ok ho
    rw [hslot] at hregister
    obtain ⟨-, rfl, rfl⟩ := Registry.register?_atSession hregister
    refine ⟨⟨number, true, rfl⟩, fun session hready => ?_⟩
    cases hready
    exact Registry.resolves_atSession number

theorem Slotted.perform (h : c.Slotted) (hp : outcome (c.perform worker stage) = .ok (more, d)) : d.Slotted := by
  refine ⟨?_, fun session hready => ?_⟩
  · obtain ⟨number, isLive, hslot⟩ := h.slot
    cases performed hp with
    | retired nested hretired =>
      obtain ⟨s, registry, hs, hisReady, hhandle, hrelease, -, rfl⟩ := retire_eq_ok hretired
      have hlive := h.live s (ready?_eq_some.2 ⟨hs, hisReady⟩)
      rw [hslot] at hlive hrelease
      obtain ⟨-, hnumber⟩ := Registry.resolves_atSession_iff.1 hlive
      rw [← hhandle, hnumber] at hrelease
      exact ⟨number + 1, false, Registry.release?_atSession hrelease⟩
    | checked | found | missing | refused | absent | detached | requested | joined | vacated | forgotten | cleared =>
      exact ⟨number, isLive, hslot⟩
  · obtain ⟨hbefore, hregistry⟩ := ready?_of_perform hp hready
    rw [hregistry]
    exact h.live session hbefore

theorem Slotted.exists_retire (h : c.Slotted) (hready : c.ready? = some session) :
    ∃ result, outcome (c.retire session.handle) = .ok result := by
  obtain ⟨hs, hisReady⟩ := ready?_eq_some.1 hready
  rw [outcome_retire, live_eq_ok.2 ⟨hs, hisReady, rfl, h.live session hready⟩]
  exact ⟨_, rfl⟩

/-- A session that stays ready through a stage stays on a set-up and an initialized component, when whoever dismantles
the component is to retire the session first. -/
theorem isLoaded_of_perform (hslotted : c.Slotted) (hp : outcome (c.perform worker stage) = .ok (more, d))
    (hready : c.ready? = some session) (hafter : d.ready? = some session) (hloaded : c.isLoaded = true)
    (hfirst : dismantles (stage :: rest) = true → ∃ others, stage :: rest = .retire session.handle true :: others) :
    d.isLoaded = true ∧
      (dismantles (more ++ rest) = true → ∃ others, more ++ rest = .retire session.handle true :: others) := by
  cases performed hp with
  | checked => exact ⟨hloaded, nofun⟩
  | found =>
    refine ⟨hloaded, fun _ => ⟨.forgetSetup :: rest, ?_⟩⟩
    rw [afterFinding, hready]
    rfl
  | missing hsetup =>
    rw [isLoaded, hsetup, Option.isSome_none, Bool.and_false] at hloaded
    cases hloaded
  | refused hrefused =>
    refine ⟨hloaded, fun hrest => ?_⟩
    obtain ⟨others, hsame⟩ := hfirst hrest
    cases hsame
    obtain ⟨result, hok⟩ := hslotted.exists_retire hready
    rw [hok] at hrefused
    cases hrefused
  | retired nested hretired =>
    obtain ⟨s, registry, -, -, -, -, -, rfl⟩ := retire_eq_ok hretired
    obtain ⟨hs, hisReady⟩ := ready?_eq_some.1 hafter
    cases hs
    cases hisReady
  | vacated => cases (ready?_eq_some.1 hafter).1
  | absent | detached | requested | joined =>
    refine ⟨hloaded, fun hrest => ?_⟩
    obtain ⟨others, hsame⟩ := hfirst hrest
    cases hsame
  | forgotten | cleared =>
    obtain ⟨others, hsame⟩ := hfirst rfl
    cases hsame

theorem isLoaded_congr (h : d.standing = c.standing) : d.isLoaded = c.isLoaded := by
  obtain ⟨hinitialized, hsetup⟩ := Prod.mk.inj h
  rw [isLoaded, hinitialized, hsetup, isLoaded]

/-- An operation keeps what a session stands on. -/
theorem Effect.isLoaded (he : c.Effect d) (h : c.isLoaded = true) : d.isLoaded = true := by
  obtain ⟨hinitialized, hsetup⟩ := Bool.and_eq_true_iff.1 h
  cases he with
  | none hstanding => rwa [isLoaded_congr hstanding]
  | asked => exact h
  | opened ho =>
    obtain ⟨-, setup, registry, bus, -, -, -, rfl⟩ := tryOpen_eq_ok ho
    exact h
  | activated => exact Bool.and_eq_true_iff.2 ⟨rfl, hsetup⟩
  | loaded hi => exact Bool.and_eq_true_iff.2 ⟨hi, rfl⟩

end Component

namespace Crowd

variable {s s' : Crowd ρ} {event : Event ρ} {events : List (Event ρ)} {thread other : Thread} {closing : Closing}
  {stage : Stage} {rest : List Stage}

theorem stages_of_activity {left : List Stage} (h : s.activity thread = some (closing, left)) :
    s.stages thread = left := by
  rw [stages, h]
  rfl

theorem stages_setActivity (activity : Option (Closing × List Stage)) (other : Thread) :
    (s.setActivity thread activity).stages other =
      if other = thread then (activity.map Prod.snd).getD [] else s.stages other := by
  show ((Function.update s.activity thread activity other).map Prod.snd).getD [] = _
  rw [Function.update_apply]
  split
  · rfl
  · rfl

/-- A session that is ready stands on a set-up and an initialized component, and whoever dismantles the component is to
retire the session first. -/
structure Supported (s : Crowd ρ) : Prop where
  slotted : s.component.Slotted
  loaded (session : Session ρ) : s.component.ready? = some session → s.component.isLoaded = true
  first (thread : Thread) (session : Session ρ) : dismantles (s.stages thread) = true →
    s.component.ready? = some session → ∃ others, s.stages thread = .retire session.handle true :: others

theorem supported_initial : (initial : Crowd ρ).Supported := ⟨Component.slotted_empty, nofun, nofun⟩

namespace Supported

theorem setActivity (h : s.Supported) {activity : Option (Closing × List Stage)}
    (hactivity : dismantles ((activity.map Prod.snd).getD []) = false) : (s.setActivity thread activity).Supported where
  slotted := h.slotted
  loaded := h.loaded
  first other session hother hready := by
    rw [stages_setActivity] at hother ⊢
    split at hother
    · rw [hactivity] at hother
      cases hother
    · next hne =>
      rw [if_neg hne]
      exact h.first other session hother hready

/-- Workers that go on, and operations that open no session, leave what a session stands on. -/
theorem alike (h : s.Supported) {d : Component ρ} (ha : s.component.Alike d)
    (hloaded : s.component.isLoaded = true → d.isLoaded = true) : Supported { s with component := d } where
  slotted := h.slotted.alike ha
  loaded session hready := by
    obtain ⟨session', hready', -⟩ := ha.exists_ready? hready
    exact hloaded (h.loaded session' hready')
  first thread session hthread hready := by
    obtain ⟨session', hready', hhandle, -⟩ := ha.exists_ready? hready
    rw [← hhandle]
    exact h.first thread session' hthread hready'

theorem performStage (h : s.Supported) (ha : s.activity thread = some (closing, stage :: rest)) :
    (s.performStage thread closing stage rest).Supported := by
  unfold Crowd.performStage
  split
  · exact h.setActivity rfl
  · next more d hp =>
    have hstages := stages_of_activity ha
    -- a session that is ready now was ready before, so the thread was to retire it before anything else
    have hboth : ∀ session, d.ready? = some session → d.isLoaded = true ∧
        (dismantles (more ++ rest) = true → ∃ others, more ++ rest = .retire session.handle true :: others) := by
      intro session hafter
      obtain ⟨hready, -⟩ := Component.ready?_of_perform hp hafter
      refine Component.isLoaded_of_perform h.slotted hp hready hafter (h.loaded session hready) fun hrest => ?_
      rw [← hstages] at hrest ⊢
      exact h.first thread session hrest hready
    refine ⟨h.slotted.perform hp, fun session hafter => (hboth session hafter).1, fun other session hother hafter => ?_⟩
    change dismantles ((s.setActivity thread (some (closing, more ++ rest))).stages other) = true at hother
    change ∃ others, (s.setActivity thread (some (closing, more ++ rest))).stages other = _
    rw [stages_setActivity] at hother ⊢
    split at hother
    · next hsame =>
      rw [if_pos hsame]
      exact (hboth session hafter).2 hother
    · next hne =>
      rw [if_neg hne]
      exact h.first other session hother (Component.ready?_of_perform hp hafter).1

/-- A session that is opened while nobody dismantles the component has all it stands on. An opening that fails leaves
whatever session there is where it stands. -/
theorem openSession (h : s.Supported) (fault : Option String)
    (hapart : (s.component.tryOpen fault).value.1.isOk = true → ∀ thread, dismantles (s.stages thread) = false) :
    Supported { s with component := s.component.after (.openSession fault) } where
  slotted := h.slotted.openSession fault
  loaded session := by
    refine Component.after_openSession_induct (P := fun d => d.ready? = some session → d.isLoaded = true)
      (h.loaded session) (fun _ _ hnone _ hready => ?_) fun handle d ho _ => Component.isLoaded_of_tryOpen ho
    rw [Component.ready?_giveUp hnone] at hready
    cases hready
  first thread session hthread := by
    refine Component.after_openSession_induct (P := fun d => d.ready? = some session →
      ∃ others, s.stages thread = .retire session.handle true :: others)
      (h.first thread session hthread) (fun _ _ hnone _ hready => ?_) fun handle d ho _ => ?_
    · rw [Component.ready?_giveUp hnone] at hready
      cases hready
    · change dismantles (s.stages thread) = true at hthread
      rw [hapart (by rw [ho]; rfl) thread] at hthread
      cases hthread

theorem step (h : s.Supported) (hstep : s.step? event = some s')
    (hapart : s.opens event = true → ∀ thread, dismantles (s.stages thread) = false) : s'.Supported := by
  cases step_of_step? hstep with
  | request r hfree =>
    by_cases hr : ∃ fault, r = .openSession fault
    · obtain ⟨fault, rfl⟩ := hr
      refine h.openSession fault fun hok => hapart ?_
      rw [opens, hfree, hok]
      rfl
    · exact h.alike (Component.alike_after (not_exists.1 hr)) (s.component.effect_after r).isLoaded
  | start closing => exact h.setActivity (dismantles_start closing)
  | advance ha => exact h.performStage ha
  | finish => exact h.setActivity rfl
  | work hwork =>
    have hsame := Component.isLoaded_congr (Component.standing_work hwork)
    exact h.alike (Component.alike_work hwork) hsame.trans
  | @resume worker _ _ hcalling =>
    obtain ⟨q, hq, hcall⟩ := Component.calling?_eq_some.1 hcalling
    have hsame := Component.isLoaded_congr (s.component.standing_resume worker).1
    exact h.alike (Component.alike_resume hq (by rw [hcall]; rfl)) hsame.trans

end Supported

/-- Along some events nobody opens a session while another thread dismantles the component. -/
def OpensApart (s : Crowd ρ) : List (Event ρ) → Prop
  | [] => True
  | event :: rest => ∀ s', s.step? event = some s' →
    (s.opens event = true → ∀ thread, dismantles (s.stages thread) = false) ∧ s'.OpensApart rest

theorem Supported.run (h : s.Supported) (hapart : s.OpensApart events) (hrun : s.run? events = some s') :
    s'.Supported := by
  induction events generalizing s with
  | nil =>
    cases hrun
    exact h
  | cons event rest ih =>
    obtain ⟨next, hnext, hrest⟩ := Option.bind_eq_some_iff.1 hrun
    obtain ⟨hevent, hothers⟩ := hapart next hnext
    exact ih (h.step hnext hevent) hothers hrest

/-- Whatever calls are made at once, on any number of threads: as long as no session is opened while another thread,
past its look for a session, is still to take the set-up or the initialization away, a session that is ready stands on a
set-up of an initialized component. -/
theorem isLoaded_of_run (hapart : initial.OpensApart events) (hrun : initial.run? events = some s)
    (hready : s.component.sessionState = .ready) :
    s.component.isInitialized = true ∧ s.component.setup.isSome = true := by
  obtain ⟨session, hsession⟩ := Component.exists_ready_of_sessionState hready
  exact Bool.and_eq_true_iff.1 ((supported_initial.run hapart hrun).loaded session hsession)

def Event.closer? : Event ρ → Option Thread
  | .start thread _ => some thread
  | _ => none

/-- Whether, event by event, no session is opened while one of some threads dismantles the component. -/
def isApart (s : Crowd ρ) (threads : List Thread) : List (Event ρ) → Bool
  | [] => true
  | event :: rest => (s.step? event).all fun s' =>
    (!s.opens event || threads.all fun thread => !dismantles (s.stages thread)) && s'.isApart threads rest

/-- On a thread on which nothing is under way nothing is until a call begins there. -/
theorem activity_of_step (hstep : s.step? event = some s') (hidle : s.activity thread = none)
    (hcloser : event.closer? ≠ some thread) : s'.activity thread = none := by
  have hset : ∀ {other activity}, thread ≠ other → (s.setActivity other activity).activity thread = none :=
    fun hne => (Function.update_of_ne hne _ _).trans hidle
  cases step_of_step? hstep with
  | request | work | resume => exact hidle
  | start closing => exact hset fun hsame => hcloser (congrArg some hsame.symm)
  | @advance other closing stage rest ha =>
    have hne : thread ≠ other := fun hsame => by
      rw [← hsame, hidle] at ha
      cases ha
    unfold performStage
    split <;> exact hset hne
  | finish ha =>
    refine hset fun hsame => ?_
    rw [← hsame, hidle] at ha
    cases ha

/-- Only the threads matter on which a call begins that closes something. -/
theorem opensApart_of_isApart {threads : List Thread} (hidle : ∀ thread, thread ∉ threads → s.activity thread = none)
    (hclosers : ∀ event ∈ events, ∀ thread ∈ event.closer?, thread ∈ threads)
    (h : s.isApart threads events = true) : s.OpensApart events := by
  induction events generalizing s with
  | nil => trivial
  | cons event rest ih =>
    obtain ⟨hcloser, hothers⟩ := List.forall_mem_cons.1 hclosers
    intro next hnext
    rw [isApart, hnext, Option.all_some, Bool.and_eq_true, Bool.or_eq_true] at h
    obtain ⟨hevent, hrest⟩ := h
    refine ⟨fun hopens thread => ?_, ih (fun thread hthread => ?_) hothers hrest⟩
    · by_cases hthread : thread ∈ threads
      · have hall := hevent.resolve_left (by rw [hopens]; exact Bool.false_ne_true)
        simpa using List.all_eq_true.1 hall thread hthread
      · rw [stages, hidle thread hthread]
        rfl
    · exact activity_of_step hnext (hidle thread hthread) fun hsame => hthread (hcloser thread hsame)

/-- One caller closes a session, and while its worker is stopped another tries to open one and a third begins to take
the component back to the start. As soon as the session is gone the second caller opens another, and now the third looks
for a session: it is to retire that one first. -/
def shared : List (Event Unit) :=
  [.request (.caller 0) .activate, .request (.caller 1) (.loadProfile System.soleTelevision),
    .request (.caller 0) (.openSession none), .start (.caller 0) (.session (.ofSession 0)), .advance (.caller 0),
    .request (.caller 1) (.openSession none), .advance (.caller 0), .start (.caller 2) .deactivate,
    .advance (.caller 2), .work 0, .advance (.caller 0), .advance (.caller 0), .request (.caller 1) (.openSession none),
    .advance (.caller 2), .finish (.caller 0)]

theorem shared_isLoaded : ∃ s : Crowd Unit, initial.run? shared = some s ∧ initial.OpensApart shared ∧
    s.activity (.caller 2) = some (.deactivate, [.retire (.ofSession 1) true, .forgetSetup, .clearInitialized]) ∧
      s.component.sessionState = .ready ∧ s.component.isInitialized = true ∧ s.component.setup.isSome = true := by
  have hapart : initial.OpensApart shared :=
    @opensApart_of_isApart Unit initial shared [.caller 0, .caller 2] (fun _ _ => rfl) (by decide) (by decide +kernel)
  have hrun : (initial.run? shared).map (fun s => (s.activity (.caller 2), s.component.sessionState)) =
      some (some (.deactivate, [.retire (.ofSession 1) true, .forgetSetup, .clearInitialized]), .ready) := by
    decide +kernel
  obtain ⟨s, hs, hend⟩ := Option.map_eq_some_iff.1 hrun
  obtain ⟨hactivity, hready⟩ := Prod.mk.inj hend
  exact ⟨s, hs, hapart, hactivity, hready, isLoaded_of_run hapart hs hready⟩

end Crowd

end CecBus
