import CecBus.Proofs.Component.Calls

/-! Runs in which calls come one after the other, whoever makes them: none begins while another is under way. Then a
session stands on a set-up and a set-up on an initialized component, for a call that takes one of them away has taken
away what stands on it before. `Winding` says how far such a call has come. Main result:
`System.layered_of_oneByOne`. -/

namespace CecBus

variable {ρ : Type}

/-- The session, the set-up and the initialization stand on each other. -/
structure Component.Layered (c : Component ρ) : Prop where
  setup : c.session.isSome = true → c.setup.isSome = true
  initialized : c.setup.isSome = true → c.isInitialized = true

namespace Component.Layered

variable {c d : Component ρ}

theorem congr (h : c.Layered) (hstanding : d.standing = c.standing)
    (hsession : d.session.isSome = true → c.session.isSome = true) : d.Layered := by
  obtain ⟨hinitialized, hsetup⟩ := Prod.mk.inj hstanding
  refine ⟨fun hs => ?_, fun hs => ?_⟩
  · rw [hsetup]
    exact h.setup (hsession hs)
  · rw [hinitialized]
    rw [hsetup] at hs
    exact h.initialized hs

theorem effect (h : c.Layered) (he : c.Effect d) : d.Layered := by
  cases he with
  | none hstanding hsession => exact h.congr hstanding (by rw [hsession]; exact id)
  | asked hs hbus => exact h.congr rfl fun _ => by rw [hs]; rfl
  | opened ho =>
    obtain ⟨-, setup, registry, bus, hsetup, -, -, rfl⟩ := tryOpen_eq_ok ho
    exact ⟨fun _ => by rw [withSession, hsetup]; rfl, h.initialized⟩
  | activated => exact ⟨h.setup, fun _ => rfl⟩
  | loaded hi hp => exact ⟨fun _ => rfl, fun _ => hi⟩

end Component.Layered

/-- What a call that closes the component still takes away when there is no session any more. -/
inductive Departing : List Stage → Prop
  | returned : Departing []
  | closing : Departing [.forgetSetup]
  | deactivating : Departing [.forgetSetup, .clearInitialized]

/-- How far a call that closes something has come, if no other comes in between. -/
inductive Winding (c : Component ρ) : List Stage → Prop
  | checking : Winding c [.checkInitialized]
  | finding : Winding c [.findSession false]
  | findingNested : Winding c [.findSession true, .clearInitialized]
  | asked (handle : Handle) : Winding c [.retire handle false]
  | retiring {s : Session ρ} {rest : List Stage} (hs : c.ready? = some s) (hrest : Departing rest) :
      Winding c (.retire s.handle true :: rest)
  | tearing (number : Nat) (phase : Teardown) {rest : List Stage} (hrest : Departing rest) :
      Winding c (phase.stages number ++ rest)
  | departing {rest : List Stage} (hsession : c.session = none) (hrest : Departing rest) : Winding c rest
  | clearing (hsession : c.session = none) (hsetup : c.setup = none) : Winding c [.clearInitialized]

namespace Winding

variable {c d : Component ρ} {stage : Stage} {more rest : List Stage} {thread : Option Nat}
  {stages : Option Nat → List Stage} {detached : List Nat}

theorem start (c : Component ρ) (closing : Closing) : Winding c closing.stages := by
  cases closing with
  | session handle => exact .asked handle
  | component => exact .finding
  | deactivate => exact .checking

theorem alike (h : Winding c rest) (ha : c.Alike d) (hsetup : d.setup = c.setup) : Winding d rest := by
  have hnone : c.session = none → d.session = none := by
    rw [← Option.not_isSome_iff_eq_none, ← Option.not_isSome_iff_eq_none, ha.isSome_session]
    exact id
  cases h with
  | checking => exact .checking
  | finding => exact .finding
  | findingNested => exact .findingNested
  | asked handle => exact .asked handle
  | retiring hs hrest =>
    obtain ⟨hsession, hready⟩ := Component.ready?_eq_some.1 hs
    obtain ⟨s', hs', hhandle, hready', -⟩ := ha.exists_session hsession
    rw [← hhandle]
    exact .retiring (Component.ready?_eq_some.2 ⟨hs', hready'.trans hready⟩) hrest
  | tearing number phase hrest => exact .tearing number phase hrest
  | departing hsession hrest => exact .departing (hnone hsession) hrest
  | clearing hsession hs => exact .clearing (hnone hsession) (hsetup.trans hs)

theorem session_eq_none_of_forgetSetup (h : Winding c (.forgetSetup :: rest)) : c.session = none := by
  generalize hstages : Stage.forgetSetup :: rest = left at h
  cases h with
  | departing hsession => exact hsession
  | tearing number phase => cases phase <;> cases hstages
  | _ => cases hstages

theorem of_clearInitialized (h : Winding c (.clearInitialized :: rest)) : c.session = none ∧ c.setup = none := by
  generalize hstages : Stage.clearInitialized :: rest = left at h
  cases h with
  | clearing hsession hsetup => exact ⟨hsession, hsetup⟩
  | departing hsession hrest => cases hrest <;> cases hstages
  | tearing number phase => cases phase <;> cases hstages
  | _ => cases hstages

theorem exists_retire_of_ready {s : Session ρ} (hlife : Life c stages detached) (hs : c.ready? = some s) :
    ∃ result, outcome (c.retire s.handle) = .ok result := by
  obtain ⟨hsession, hready⟩ := Component.ready?_eq_some.1 hs
  obtain ⟨number, hopened⟩ := hlife.isOpened_of_ready hsession hready
  rw [Component.outcome_retire, hopened.live]
  exact ⟨_, rfl⟩

theorem perform_findSession {nested : Bool} (hlayered : c.Layered)
    (hready : ∀ s, c.session = some s → s.isReady = true)
    (hp : outcome (c.perform thread (.findSession nested)) = .ok (more, d)) : d = c ∧
      ((∃ s, c.ready? = some s ∧ more = [.retire s.handle true, .forgetSetup]) ∨
        c.session = none ∧ more = [.forgetSetup] ∨
        nested = true ∧ c.session = none ∧ c.setup = none ∧ more = []) := by
  cases Component.performed hp with
  | found =>
    refine ⟨rfl, ?_⟩
    unfold Component.afterFinding
    cases hs : c.session with
    | none =>
      have hr : c.ready? = none := by rw [Component.ready?, hs]; rfl
      exact .inr (.inl ⟨rfl, by rw [hr]⟩)
    | some s =>
      have hr : c.ready? = some s := Component.ready?_eq_some.2 ⟨hs, hready s hs⟩
      exact .inl ⟨s, hr, by rw [hr]⟩
  | missing hsetup =>
    have hnone : c.session = none := by
      rw [← Option.not_isSome_iff_eq_none]
      intro hs
      have hstands := hlayered.setup hs
      rw [hsetup] at hstands
      cases hstands
    exact ⟨rfl, .inr (.inr ⟨rfl, hnone, hsetup, rfl⟩)⟩

theorem perform_tearing {number : Nat} {phase : Teardown} {others : List Stage} (hrest : Departing others)
    (hstages : stage :: rest = phase.stages number ++ others)
    (hp : outcome (c.perform thread stage) = .ok (more, d)) : Winding d (more ++ rest) := by
  cases phase with
  | begun =>
    obtain ⟨rfl, rfl⟩ := List.cons.inj hstages
    cases Component.performed hp with
    | absent | detached => exact .tearing number .last hrest
    | requested => exact .tearing number .waiting hrest
  | waiting =>
    obtain ⟨rfl, rfl⟩ := List.cons.inj hstages
    cases hp
    exact .tearing number .last hrest
  | last =>
    obtain ⟨rfl, rfl⟩ := List.cons.inj hstages
    cases hp
    exact .departing rfl hrest

/-- What is left after a stage, as long as a session is there only while it is ready or torn down. -/
theorem advance (h : Winding c (stage :: rest)) (hlife : Life c stages detached) (hlayered : c.Layered)
    (hready : stage.isTeardown = false → ∀ s, c.session = some s → s.isReady = true)
    (hp : outcome (c.perform thread stage) = .ok (more, d)) : Winding d (more ++ rest) := by
  generalize hstages : stage :: rest = left at h
  cases h with
  | checking =>
    obtain ⟨rfl, rfl⟩ := List.cons.inj hstages
    cases Component.performed hp with
    | checked => exact .findingNested
  | finding =>
    obtain ⟨rfl, rfl⟩ := List.cons.inj hstages
    obtain ⟨rfl, ⟨s, hs, rfl⟩ | ⟨hnone, rfl⟩ | ⟨hnested, -⟩⟩ := perform_findSession hlayered (hready rfl) hp
    · exact .retiring hs .closing
    · exact .departing hnone .closing
    · cases hnested
  | findingNested =>
    obtain ⟨rfl, rfl⟩ := List.cons.inj hstages
    obtain ⟨rfl, ⟨s, hs, rfl⟩ | ⟨hnone, rfl⟩ | ⟨-, hnone, hsetup, rfl⟩⟩ :=
      perform_findSession hlayered (hready rfl) hp
    · exact .retiring hs .deactivating
    · exact .departing hnone .deactivating
    · exact .clearing hnone hsetup
  | asked handle =>
    obtain ⟨rfl, rfl⟩ := List.cons.inj hstages
    cases Component.performed hp with
    | retired _ hretired =>
      obtain ⟨number, -, -, rfl, rfl⟩ := hlife.number_of_retire hretired
      exact .tearing number .begun .returned
  | retiring hs hrest =>
    obtain ⟨rfl, rfl⟩ := List.cons.inj hstages
    cases Component.performed hp with
    | refused hrefused =>
      obtain ⟨result, hok⟩ := exists_retire_of_ready hlife hs
      rw [hok] at hrefused
      cases hrefused
    | retired _ hretired =>
      obtain ⟨number, -, -, hhandle, rfl⟩ := hlife.number_of_retire hretired
      rw [hhandle]
      exact .tearing number .begun hrest
  | tearing _ _ hrest => exact perform_tearing hrest hstages hp
  | departing hsession hrest =>
    cases hrest with
    | returned => cases hstages
    | closing =>
      obtain ⟨rfl, rfl⟩ := List.cons.inj hstages
      cases hp
      exact .departing hsession .returned
    | deactivating =>
      obtain ⟨rfl, rfl⟩ := List.cons.inj hstages
      cases hp
      exact .clearing hsession rfl
  | clearing hsession hsetup =>
    obtain ⟨rfl, rfl⟩ := List.cons.inj hstages
    cases hp
    exact .departing hsession .returned

end Winding

def Event.isCall : Event ρ → Bool
  | .request .. | .start .. => true
  | .advance _ | .finish _ | .work _ | .resume _ => false

namespace System

variable {s s' : System ρ} {event : Event ρ} {events : List (Event ρ)} {thread : Option Nat} {closing : Closing}
  {stage : Stage} {rest : List Stage}

def AtRest (s : System ρ) : Prop := ∀ thread, s.activity thread = none

/-- Along some events no call begins while another is under way. -/
def OneByOne (s : System ρ) : List (Event ρ) → Prop
  | [] => True
  | event :: rest => ∀ s', s.step? event = some s' → (event.isCall = true → s.AtRest) ∧ s'.OneByOne rest

/-- What holds of a system as long as calls come one after the other. -/
structure Settled (s : System ρ) : Prop where
  sound : s.Sound
  layered : s.component.Layered
  alone (thread other : Option Nat) : s.activity thread ≠ none → s.activity other ≠ none → thread = other
  winding (thread : Option Nat) (closing : Closing) (stages : List Stage) :
    s.activity thread = some (closing, stages) → Winding s.component stages

theorem settled_initial : (initial : System ρ).Settled where
  sound := sound_initial
  layered := ⟨nofun, nofun⟩
  alone := fun _ _ h => absurd rfl h
  winding := fun _ _ _ h => by cases h

theorem settled_setActivity {d : Component ρ} {history : History ρ}
    {activity : Option (Closing × List Stage)}
    (hsound : Sound { s.setActivity thread activity with component := d, history }) (hlayered : d.Layered)
    (halone : ∀ other, s.activity other ≠ none → other = thread)
    (hwinding : ∀ closing stages, activity = some (closing, stages) → Winding d stages) :
    Settled { s.setActivity thread activity with component := d, history } := by
  have hothers : ∀ other, (s.setActivity thread activity).activity other ≠ none → other = thread := by
    intro other ho
    by_cases ht : other = thread
    · exact ht
    · exact halone other (by simpa [System.setActivity, ht] using ho)
  refine ⟨hsound, hlayered, fun t t' ht ht' => ?_, fun t closing stages ht => ?_⟩
  · rw [hothers t ht, hothers t' ht']
  · obtain rfl := hothers t (by rw [ht]; exact Option.some_ne_none _)
    exact hwinding closing stages (by simpa [System.setActivity] using ht)

namespace Settled

/-- The thread of a call that is under way is the only one. -/
theorem only_thread (h : s.Settled) {stages : List Stage} (ha : s.activity thread = some (closing, stages))
    (other : Option Nat) (ho : s.activity other ≠ none) : other = thread :=
  h.alone other thread ho (by rw [ha]; exact Option.some_ne_none _)

/-- A session that is not torn down by the only call under way is ready. -/
theorem isReady_of_head (h : s.Settled) (ha : s.activity thread = some (closing, stage :: rest))
    (hstage : stage.isTeardown = false) (session : Session ρ) (hs : s.component.session = some session) :
    session.isReady = true := by
  cases h.sound.life with
  | vacant hv =>
    rw [hv.session] at hs
    cases hs
  | ready number s' hr =>
    rw [hr.session] at hs
    cases hs
    exact hr.isReady
  | closing number s' owner phase others hc =>
    exfalso
    have howner : s.activity owner ≠ none := fun hnone => hc.not_calm (by
      rw [stages, hnone]
      exact calm_nil)
    obtain rfl := h.only_thread ha owner howner
    have howned := hc.owned
    rw [stages_of_activity ha] at howned
    cases phase <;> (rw [(List.cons.inj howned).1] at hstage; cases hstage)

theorem request (h : s.Settled) (hrest : s.AtRest) (r : Operation ρ) {history : History ρ}
    (hsound : Sound { s with component := s.component.after r, history }) :
    Settled { s with component := s.component.after r, history } where
  sound := hsound
  layered := h.layered.effect (Component.effect_after r)
  alone := fun thread _ ht => absurd (hrest thread) ht
  winding := fun thread _ _ ht => by
    change s.activity thread = _ at ht
    rw [hrest thread] at ht
    cases ht

theorem performStage (h : s.Settled) (ha : s.activity thread = some (closing, stage :: rest))
    (hblocks : s.component.blocks stage = false) : (s.performStage thread closing stage rest).Settled := by
  have hsound := h.sound.performStage ha hblocks
  have hwinding := h.winding thread closing _ ha
  unfold System.performStage at hsound ⊢
  cases hp : outcome (s.component.perform thread stage) with
  | error e =>
    simp only [hp] at hsound ⊢
    exact settled_setActivity hsound h.layered (h.only_thread ha) nofun
  | ok result =>
    obtain ⟨more, d⟩ := result
    simp only [hp] at hsound ⊢
    refine settled_setActivity hsound ?_ (h.only_thread ha) fun _ _ hs => ?_
    · have hkept : d.session.isSome = true → s.component.session.isSome = true := fun hs => by
        obtain ⟨s', hs'⟩ := Option.isSome_iff_exists.1 hs
        obtain ⟨session, hsession, -⟩ := Component.session_perform hp hs'
        rw [hsession]
        rfl
      obtain hstanding | ⟨rfl, -, rfl⟩ | ⟨rfl, -, rfl⟩ := Component.perform_standing hp
      · exact h.layered.congr hstanding hkept
      · have hnone := hwinding.session_eq_none_of_forgetSetup
        refine ⟨fun hs => ?_, nofun⟩
        rw [hnone] at hs
        cases hs
      · obtain ⟨hnone, hsetup⟩ := hwinding.of_clearInitialized
        refine ⟨fun hs => ?_, fun hs => ?_⟩
        · rw [hnone] at hs
          cases hs
        · rw [hsetup] at hs
          cases hs
    · cases hs
      exact hwinding.advance h.sound.life h.layered (fun hstage => h.isReady_of_head ha hstage) hp

theorem alike (h : s.Settled) {d : Component ρ} {history : History ρ} (hsound : Sound { s with component := d, history })
    (ha : s.component.Alike d) (hstanding : d.standing = s.component.standing) :
    Settled { s with component := d, history } where
  sound := hsound
  layered := h.layered.congr hstanding fun hs => ha.isSome_session ▸ hs
  alone := h.alone
  winding := fun thread closing stages ht =>
    (h.winding thread closing stages ht).alike ha (congrArg Prod.snd hstanding)

theorem step (h : s.Settled) (hcall : event.isCall = true → s.AtRest) (hstep : s.step? event = some s') :
    s'.Settled := by
  have hsound := h.sound.step hstep
  cases step_of_step? hstep with
  | request r _ => exact h.request (hcall rfl) r hsound
  | start closing _ =>
    refine settled_setActivity hsound h.layered (fun other ho => absurd (hcall rfl other) ho) fun _ _ hs => ?_
    cases hs
    exact .start _ closing
  | advance ha hblocks => exact h.performStage ha hblocks
  | finish ha => exact settled_setActivity hsound h.layered (h.only_thread ha) nofun
  | work hs => exact h.alike hsound (Component.alike_work hs) (Component.standing_work hs)
  | resume _ hc =>
    obtain ⟨q, hq, hcall⟩ := Component.calling?_eq_some.1 hc
    exact h.alike hsound (Component.alike_resume hq (by rw [hcall]; rfl)) (s.component.standing_resume _).1

theorem run (h : s.Settled) (hone : s.OneByOne events) (hrun : s.run? events = some s') : s'.Settled := by
  induction events generalizing s with
  | nil =>
    cases hrun
    exact h
  | cons event rest ih =>
    obtain ⟨next, hnext, hrest⟩ := Option.bind_eq_some_iff.1 hrun
    obtain ⟨hcall, hothers⟩ := hone next hnext
    exact ih (h.step hcall hnext) hothers hrest

end Settled

theorem Quiet.oneByOne (h : s.Quiet) (hquiet : ∀ event ∈ events, event.isQuiet) : s.OneByOne events := by
  induction events generalizing s with
  | nil => trivial
  | cons event rest ih =>
    obtain ⟨hevent, hothers⟩ := List.forall_mem_cons.1 hquiet
    intro next hnext
    refine ⟨fun hcall => ?_, ih (h.step hevent hnext) hothers⟩
    have hfree : s.activity none = none := by
      cases step_of_step? hnext with
      | request r hfree | start closing hfree =>
        obtain rfl := Option.isNone_iff_eq_none.1 hevent
        rw [isFree, Bool.and_eq_true, Option.isNone_iff_eq_none] at hfree
        exact hfree.1
      | _ => cases hcall
    intro thread
    cases thread with
    | none => exact hfree
    | some worker => exact h.idle worker

/-- As long as calls come one after the other, a session is there only while a set-up is loaded, and a set-up only while
the component is initialized. -/
theorem layered_of_oneByOne (hone : initial.OneByOne events) (hrun : initial.run? events = some s) :
    s.component.Layered :=
  (settled_initial.run hone hrun).layered

end System

end CecBus
