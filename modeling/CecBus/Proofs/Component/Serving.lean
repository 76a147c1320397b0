import CecBus.Proofs.Component.Phases

/-! Calls made one after the other, followed to their end. A call that is one step ends at once. One that closes
something goes on stage by stage (`Course`) with the workers in between; it ends on every schedule, and what the caller
is then told does not depend on the schedule. Main result: `System.served_of_quiet_run`. What opening a session comes to
depends besides on whether its worker starts: `System.exists_opening_either_way`. -/

namespace CecBus

variable {ρ : Type}

/-! ### How calls end -/

namespace System

/-- What the caller is told in an event: a call that closes something fails at a stage, or returns. -/
def told? (s : System ρ) : Event ρ → Option (Except Refusal Unit)
  | .request none r => some (s.component.answer r)
  | .advance none =>
    match s.activity none with
    | some (_, stage :: _) =>
      match outcome (s.component.perform none stage) with
      | .error e => some (.error e.refusal)
      | .ok _ => none
    | _ => none
  | .finish none => some (.ok ())
  | _ => none

/-- With an event a call ends in some way, or it goes on, and then it will end in that way whatever happens next. -/
inductive EndsIn (Q : Except Refusal Unit → System ρ → Prop) : System ρ → Event ρ → Prop
  | told {s s' : System ρ} {event : Event ρ} {result : Except Refusal Unit} (hstep : s.step? event = some s')
      (htold : s.told? event = some result) (hq : Q result s') : EndsIn Q s event
  | goesOn {s s' : System ρ} {event : Event ρ} (hstep : s.step? event = some s') (htold : s.told? event = none)
      (hsome : ∃ next : Event ρ, next.isOnward = true ∧ (s'.step? next).isSome = true)
      (hall : ∀ next : Event ρ, next.isOnward = true → (s'.step? next).isSome = true → EndsIn Q s' next) :
      EndsIn Q s event

end System

/-- A call that was made of a component in a phase is over, with a result. -/
structure Component.Served (c : Component ρ) (phase : Phase) (call : Call) (result : Except Refusal Unit)
    (s' : System ρ) : Prop where
  verdict : result = phase.verdict (c.session.map Session.handle) c.isCrowded call
  done : result = .ok () → s'.component.InPhase (phase.after call) ∧ s'.component.setup = call.setupAfter c.setup
  refused (e : Refusal) : result = .error e → s'.component.InPhase phase ∧ s'.component.setup = c.setup
  keeps : call.isLoad = true → c.setup.isSome = true → s'.component.setup = c.setup
  ends : phase = .ready → call = .close .component ∨ call = .close .deactivate →
    result = .ok () ∧ s'.component.session = none
  free : s'.activity none = none

/-- The set-up that is loaded stays when a profile is loaded, whether that succeeds or fails. -/
theorem Call.setupAfter_of_isLoad {call : Call} (hload : call.isLoad = true) {setup : Option Setup}
    (hsome : setup.isSome = true) : call.setupAfter setup = setup := by
  obtain ⟨setup, rfl⟩ := Option.isSome_iff_exists.1 hsome
  cases call with
  | loadProfile | loadFile => rfl
  | _ => cases hload

/-- That a load keeps the set-up, and that closing a component takes its session away, follows from what the call comes
to and from where it leads. -/
theorem Component.Served.of_verdict {c : Component ρ} {phase : Phase} {call : Call} {result : Except Refusal Unit}
    {s' : System ρ} (hverdict : result = phase.verdict (c.session.map Session.handle) c.isCrowded call)
    (hdone : result = .ok () → s'.component.InPhase (phase.after call) ∧ s'.component.setup = call.setupAfter c.setup)
    (hrefused : ∀ e, result = .error e → s'.component.InPhase phase ∧ s'.component.setup = c.setup)
    (hfree : s'.activity none = none) : c.Served phase call result s' where
  verdict := hverdict
  done := hdone
  refused := hrefused
  keeps hload hsome := by
    cases hr : result with
    | ok => rw [(hdone hr).2, Call.setupAfter_of_isLoad hload hsome]
    | error e => exact (hrefused e hr).2
  ends hready hcall := by
    subst hready
    have hok : result = .ok () := by
      rw [hverdict]
      obtain rfl | rfl := hcall <;> rfl
    refine ⟨hok, (hdone hok).1.session_eq_none ?_⟩
    obtain rfl | rfl := hcall <;> exact nofun
  free := hfree

/-! ### Stages that fail -/

namespace Component

variable {c d : Component ρ} {stages : Option Nat → List Stage} {detached : List Nat}

/-- Why a stage fails. -/
inductive Failed (c : Component ρ) : Stage → CallError → Prop
  | unchecked (hi : c.isInitialized = false) : Failed c .checkInitialized (.component .notInitialized)
  | unfound (nested : Bool) (hi : c.isInitialized = false) : Failed c (.findSession nested) (.component .notInitialized)
  | unopened (hi : c.isInitialized = true) (hsetup : c.setup = none) :
    Failed c (.findSession false) (.component .notOpened)
  | unretired {handle : Handle} {e : DriverError} (hl : c.live handle = .error e) :
    Failed c (.retire handle false) (.driver e)

/-- All that a stage can fail for. -/
theorem failed {thread : Option Nat} {stage : Stage} {e : CallError} (h : outcome (c.perform thread stage) = .error e) :
    c.Failed stage e := by
  have hstage : stage.isTeardown ≠ true := fun hteardown => by
    obtain ⟨more, d, hok⟩ := c.exists_perform_teardown thread hteardown
    rw [hok] at h
    cases h
  cases e with
  | driver e =>
    obtain ⟨handle, rfl, hl⟩ := live_of_perform_driver h
    exact .unretired hl
  | component e =>
    cases stage with
    | checkInitialized =>
      rw [perform] at h
      split at h
      · cases h
      · next hi =>
        cases h
        exact .unchecked (by simpa using hi)
    | findSession nested =>
      rw [perform] at h
      cases hi : c.isInitialized with
      | false =>
        obtain rfl : ComponentError.notInitialized = e := by simpa [hi] using h
        exact .unfound nested hi
      | true =>
        cases hs : c.setup with
        | some setup => simp [hi, hs] at h
        | none =>
          cases nested with
          | true => simp [hi, hs] at h
          | false =>
            obtain rfl : ComponentError.notOpened = e := by simpa [hi, hs] using h
            exact .unopened hi hs
    | retire handle nested =>
      rw [perform, retireStage, outcome_bind, outcome_liftM_logged, outcome_run] at h
      cases hr : outcome (c.retire handle) with
      | ok result =>
        rw [hr] at h
        cases h
      | error e' =>
        rw [hr] at h
        cases nested <;> cases h
    | shutDown | join | vacate => exact absurd rfl hstage
    | forgetSetup | clearInitialized => cases h

theorem InPhase.close_eq_error {phase : Phase} (h : c.InPhase phase) {handle : Handle} {e : DriverError}
    (hl : c.live handle = .error e) :
    phase.close (c.session.map Session.handle) (.session handle) = .error (.driver e) := by
  rw [Phase.close]
  obtain ⟨hr, rfl⟩ | ⟨hr, rfl⟩ := live_eq_error hl
  · refine if_neg fun hready => ?_
    subst hready
    obtain ⟨s, hs⟩ := h.exists_ready
    rw [hs] at hr
    cases hr
  · obtain ⟨s, hs⟩ := Option.isSome_iff_exists.1 hr
    obtain ⟨hsession, hready⟩ := ready?_eq_some.1 hs
    have hphase : phase = .ready := h.session.1 (by rw [hsession]; rfl)
    have hother : c.session.map Session.handle ≠ some handle := fun hlive => by
      have hhandle : s.handle = handle := by
        rw [hsession] at hlive
        exact Option.some.inj hlive
      rw [live_eq_ok.2 ⟨hsession, hready, hhandle, (h.live handle).2 hlive⟩] at hl
      cases hl
    rw [if_pos hphase, if_neg hother]

end Component

/-! ### The course of a call -/

/-- What a call that closes something still has to take away when there is no session any more. -/
def Closing.remainder : Closing → List Stage
  | .session _ => []
  | .component => [.forgetSetup]
  | .deactivate => [.forgetSetup, .clearInitialized]

/-- What a call that closes something has left of the component it was made of, as long as it has taken nothing away but
the session. -/
structure Component.Holds (c c₀ : Component ρ) : Prop where
  isInitialized : c.isInitialized = true
  setup : c.setup = c₀.setup
  isLoaded : c.setup.isSome = true

theorem Component.Holds.congr {c₀ c d : Component ρ} (h : c.Holds c₀) (hstanding : d.standing = c.standing) :
    d.Holds c₀ := by
  obtain ⟨hinitialized, hsetup⟩ := Prod.mk.inj hstanding
  refine ⟨hinitialized.trans h.isInitialized, hsetup.trans h.setup, ?_⟩
  rw [hsetup]
  exact h.isLoaded

/-- How far a call has come that closes something of a component in a phase. From the stage where nothing can fail any
more it is known what the call comes to. -/
inductive Course (c₀ : Component ρ) (phase : Phase) (closing : Closing) (c : Component ρ) : List Stage → Prop
  | asked (hphase : c.InPhase phase) (hsetup : c.setup = c₀.setup)
      (hlive : c.session.map Session.handle = c₀.session.map Session.handle) : Course c₀ phase closing c closing.stages
  | searching (hclosing : closing = .deactivate) (hphase : c.InPhase phase) (hsetup : c.setup = c₀.setup)
      (hinitialized : phase ≠ .uninitialized) : Course c₀ phase closing c [.findSession true, .clearInitialized]
  | retiring {s : Session ρ} (hclosing : ∀ handle, closing ≠ .session handle) (hphase : phase = .ready)
      (hs : c.ready? = some s) (hholds : c.Holds c₀) :
      Course c₀ phase closing c (.retire s.handle true :: closing.remainder)
  | tearing (number : Nat) (teardown : Teardown)
      (hverdict : phase.close (c₀.session.map Session.handle) closing = .ok ()) (hholds : c.Holds c₀) :
      Course c₀ phase closing c (teardown.stages number ++ closing.remainder)
  | departing (hverdict : phase.close (c₀.session.map Session.handle) closing = .ok ()) (hsession : c.session = none)
      (hholds : c.Holds c₀) : Course c₀ phase closing c closing.remainder
  | emptied (hclosing : ∀ handle, closing ≠ .session handle)
      (hverdict : phase.close (c₀.session.map Session.handle) closing = .ok ()) (hsession : c.session = none)
      (hinitialized : c.isInitialized = true) (hsetup : c.setup = none) :
      Course c₀ phase closing c closing.remainder.tail
  | cleared (hclosing : closing = .deactivate)
      (hverdict : phase.close (c₀.session.map Session.handle) closing = .ok ()) (hsession : c.session = none)
      (hinitialized : c.isInitialized = false) (hsetup : c.setup = none) : Course c₀ phase closing c []

namespace Course

variable {c₀ c d : Component ρ} {phase : Phase} {closing : Closing} {stage : Stage} {more rest : List Stage}
  {stages : Option Nat → List Stage} {detached : List Nat} {e : CallError}

theorem alike (h : Course c₀ phase closing c rest) (ha : c.Alike d) (hstanding : d.standing = c.standing) :
    Course c₀ phase closing d rest := by
  obtain ⟨hinitialized, hsetup⟩ := Prod.mk.inj hstanding
  have hnone : c.session = none → d.session = none := by
    rw [← Option.not_isSome_iff_eq_none, ← Option.not_isSome_iff_eq_none, ha.isSome_session]
    exact id
  cases h with
  | asked hphase hsame hlive =>
    refine .asked (hphase.alike ha hstanding) (hsetup.trans hsame) ?_
    rw [ha.handle_eq, hlive]
  | searching hclosing hphase hsame hi =>
    exact .searching hclosing (hphase.alike ha hstanding) (hsetup.trans hsame) hi
  | retiring hclosing hphase hs hholds =>
    obtain ⟨hsession, hready⟩ := Component.ready?_eq_some.1 hs
    obtain ⟨s', hs', hhandle, hready', -⟩ := ha.exists_session hsession
    rw [← hhandle]
    exact .retiring hclosing hphase (Component.ready?_eq_some.2 ⟨hs', hready'.trans hready⟩) (hholds.congr hstanding)
  | tearing number teardown hverdict hholds => exact .tearing number teardown hverdict (hholds.congr hstanding)
  | departing hverdict hsession hholds => exact .departing hverdict (hnone hsession) (hholds.congr hstanding)
  | emptied hclosing hverdict hsession hi hs =>
    exact .emptied hclosing hverdict (hnone hsession) (hinitialized.trans hi) (hsetup.trans hs)
  | cleared hclosing hverdict hsession hi hs =>
    exact .cleared hclosing hverdict (hnone hsession) (hinitialized.trans hi) (hsetup.trans hs)

/-- What a call comes to that fails at a stage: it has taken nothing away yet. -/
theorem fail (h : Course c₀ phase closing c (stage :: rest)) (hf : c.Failed stage e) :
    phase.close (c₀.session.map Session.handle) closing = .error e.refusal ∧ c.InPhase phase ∧ c.setup = c₀.setup := by
  -- the rows after `asked` hold no stage that can fail, or not for the reason that is left
  generalize hstages : stage :: rest = left at h
  cases h with
  | asked hphase hsetup hlive =>
    refine ⟨?_, hphase, hsetup⟩
    obtain ⟨hinitialized, hloaded, -⟩ := hphase.each
    cases closing with
    | session handle =>
      obtain ⟨rfl, rfl⟩ := List.cons.inj hstages
      cases hf with
      | unretired hl =>
        rw [← hlive]
        exact hphase.close_eq_error hl
    | component =>
      obtain ⟨rfl, rfl⟩ := List.cons.inj hstages
      cases hf with
      | unfound _ hi =>
        rw [hi] at hinitialized
        cases phase with
        | uninitialized => rfl
        | initialized | loaded | ready => cases hinitialized
      | unopened hi hnone =>
        rw [hi] at hinitialized
        rw [hnone] at hloaded
        cases phase with
        | initialized => rfl
        | uninitialized => cases hinitialized
        | loaded | ready => cases hloaded
    | deactivate =>
      obtain ⟨rfl, rfl⟩ := List.cons.inj hstages
      cases hf with
      | unchecked hi =>
        rw [hi] at hinitialized
        cases phase with
        | uninitialized => rfl
        | initialized | loaded | ready => cases hinitialized
  | searching hclosing hphase hsetup hinitialized =>
    obtain ⟨rfl, rfl⟩ := List.cons.inj hstages
    cases hf with
    | unfound _ hi => exact absurd hi (by rw [hphase.isInitialized.2 hinitialized]; exact Bool.noConfusion)
  | retiring =>
    obtain ⟨rfl, rfl⟩ := List.cons.inj hstages
    cases hf
  | tearing number teardown => cases teardown <;> cases hstages <;> cases hf
  | departing | emptied => cases closing <;> cases hstages <;> cases hf
  | cleared => cases hstages

theorem of_retired (hverdict : phase.close (c₀.session.map Session.handle) closing = .ok ()) (hholds : c.Holds c₀)
    (hlife : Life c stages detached) {handle : Handle} {retired : Option Nat}
    (hretired : outcome (c.retire handle) = .ok (retired, d)) :
    Course c₀ phase closing d (Component.afterRetiring handle retired ++ closing.remainder) := by
  obtain ⟨number, -, -, rfl, rfl⟩ := hlife.number_of_retire hretired
  obtain ⟨s, registry, -, -, -, -, -, rfl⟩ := Component.retire_eq_ok hretired
  exact .tearing number .begun hverdict (hholds.congr rfl)

/-- With a set-up, closing the component goes on with the session that is ready, or without one to the set-up. -/
theorem of_found (hclosing : ∀ handle, closing ≠ .session handle) (hphase : c.InPhase phase)
    (hsetup : c.setup = c₀.setup) (hloaded : c.setup.isSome = true) :
    Course c₀ phase closing c (c.afterFinding ++ closing.remainder.tail) := by
  have hinitialized : phase ≠ .uninitialized := fun he => by
    have hpoor := hphase.setup.1 hloaded
    subst he
    obtain hpoor | hpoor := hpoor <;> cases hpoor
  have hholds : c.Holds c₀ := ⟨hphase.isInitialized.2 hinitialized, hsetup, hloaded⟩
  have hstages : closing.remainder = .forgetSetup :: closing.remainder.tail := by
    cases closing with
    | session handle => exact absurd rfl (hclosing handle)
    | component | deactivate => rfl
  unfold Component.afterFinding
  cases hr : c.ready? with
  | some s =>
    have hready : phase = .ready := hphase.session.1 (by rw [(Component.ready?_eq_some.1 hr).1]; rfl)
    have hcourse : Course c₀ phase closing c (.retire s.handle true :: closing.remainder) :=
      .retiring hclosing hready hr hholds
    rwa [hstages] at hcourse
  | none =>
    have hpoor : phase ≠ .ready := fun he => by
      subst he
      obtain ⟨s, hs⟩ := hphase.exists_ready
      rw [hs] at hr
      cases hr
    have hverdict : phase.close (c₀.session.map Session.handle) closing = .ok () := by
      obtain rfl := (hphase.setup.1 hloaded).resolve_right hpoor
      cases closing with
      | session handle => exact absurd rfl (hclosing handle)
      | component | deactivate => rfl
    have hcourse : Course c₀ phase closing c closing.remainder :=
      .departing hverdict (hphase.session_eq_none hpoor) hholds
    rwa [hstages] at hcourse

/-- A stage of a call that does not fail brings the call further. -/
theorem advance (h : Course c₀ phase closing c (stage :: rest)) (hlife : Life c stages detached) {thread : Option Nat}
    (hp : outcome (c.perform thread stage) = .ok (more, d)) : Course c₀ phase closing d (more ++ rest) := by
  generalize hstages : stage :: rest = left at h
  cases h with
  | asked hphase hsetup hlive =>
    cases closing with
    | session handle =>
      obtain ⟨rfl, rfl⟩ := List.cons.inj hstages
      cases Component.performed hp with
      | retired _ hretired =>
        obtain ⟨s, registry, hs, -, hhandle, -⟩ := Component.retire_eq_ok hretired
        have hready : phase = .ready := hphase.session.1 (by rw [hs]; rfl)
        have hverdict : phase.close (c₀.session.map Session.handle) (.session handle) = .ok () := by
          rw [← hlive, hs, Option.map_some, hhandle, Phase.close, if_pos hready, if_pos rfl]
        have hholds : c.Holds c₀ := by
          subst hready
          exact ⟨hphase.isInitialized.2 nofun, hsetup, hphase.setup.2 (.inr rfl)⟩
        exact .of_retired hverdict hholds hlife hretired
    | component =>
      obtain ⟨rfl, rfl⟩ := List.cons.inj hstages
      cases Component.performed hp with
      | found _ hloaded => exact .of_found (fun _ => nofun) hphase hsetup hloaded
    | deactivate =>
      obtain ⟨rfl, rfl⟩ := List.cons.inj hstages
      cases Component.performed hp with
      | checked hi => exact .searching rfl hphase hsetup (hphase.isInitialized.1 hi)
  | searching hclosing hphase hsetup hinitialized =>
    subst hclosing
    obtain ⟨rfl, rfl⟩ := List.cons.inj hstages
    cases Component.performed hp with
    | found _ hloaded => exact .of_found (fun _ => nofun) hphase hsetup hloaded
    | missing hnone =>
      have hpoor : phase ≠ .ready := fun he => by
        have hloaded := hphase.setup.2 (.inr he)
        rw [hnone] at hloaded
        cases hloaded
      exact .emptied (fun _ => nofun) (if_neg hinitialized) (hphase.session_eq_none hpoor)
        (hphase.isInitialized.2 hinitialized) hnone
  | retiring hclosing hready hs hholds =>
    obtain ⟨rfl, rfl⟩ := List.cons.inj hstages
    cases Component.performed hp with
    | refused hrefused =>
      obtain ⟨result, hok⟩ := Winding.exists_retire_of_ready hlife hs
      rw [hok] at hrefused
      cases hrefused
    | retired _ hretired =>
      have hverdict : phase.close (c₀.session.map Session.handle) closing = .ok () := by
        subst hready
        cases closing with
        | session handle => exact absurd rfl (hclosing handle)
        | component | deactivate => rfl
      exact .of_retired hverdict hholds hlife hretired
  | tearing number teardown hverdict hholds =>
    cases teardown with
    | begun =>
      obtain ⟨rfl, rfl⟩ := List.cons.inj hstages
      cases Component.performed hp with
      | absent => exact .tearing number .last hverdict hholds
      | detached => exact .tearing number .last hverdict (hholds.congr rfl)
      | requested => exact .tearing number .waiting hverdict (hholds.congr rfl)
    | waiting =>
      obtain ⟨rfl, rfl⟩ := List.cons.inj hstages
      cases hp
      exact .tearing number .last hverdict hholds
    | last =>
      obtain ⟨rfl, rfl⟩ := List.cons.inj hstages
      cases hp
      exact .departing hverdict rfl (hholds.congr rfl)
  | departing hverdict hsession hholds =>
    cases closing with
    | session => cases hstages
    | component | deactivate =>
      obtain ⟨rfl, rfl⟩ := List.cons.inj hstages
      cases hp
      exact .emptied (fun _ => nofun) hverdict hsession hholds.isInitialized rfl
  | emptied hclosing hverdict hsession hinitialized hsetup =>
    cases closing with
    | session | component => cases hstages
    | deactivate =>
      obtain ⟨rfl, rfl⟩ := List.cons.inj hstages
      cases hp
      exact .cleared rfl hverdict hsession rfl hsetup
  | cleared => cases hstages

/-- What a call has come to when nothing is left of it. -/
theorem returned (h : Course c₀ phase closing c []) : phase.close (c₀.session.map Session.handle) closing = .ok () ∧
    c.flags = (phase.after (.close closing)).flags ∧ c.setup = Call.setupAfter c₀.setup (.close closing) := by
  generalize hstages : [] = left at h
  cases h with
  | asked => cases closing <;> cases hstages
  | searching | retiring => cases hstages
  | tearing number teardown => cases teardown <;> cases hstages
  | departing hverdict hsession hholds =>
    cases closing with
    | session handle =>
      refine ⟨hverdict, ?_, hholds.setup⟩
      rw [Component.flags, hholds.isInitialized, hholds.isLoaded, hsession]
      rfl
    | component | deactivate => cases hstages
  | emptied hclosing hverdict hsession hinitialized hsetup =>
    cases closing with
    | session handle => exact absurd rfl (hclosing handle)
    | component =>
      refine ⟨hverdict, ?_, hsetup⟩
      rw [Component.flags, hinitialized, hsetup, hsession]
      rfl
    | deactivate => cases hstages
  | cleared hclosing hverdict hsession hinitialized hsetup =>
    subst hclosing
    refine ⟨hverdict, ?_, hsetup⟩
    rw [Component.flags, hinitialized, hsetup, hsession]
    rfl

end Course

/-! ### Calls in a system -/

namespace System

variable {s s' : System ρ} {event : Event ρ} {events : List (Event ρ)} {phase : Phase} {call : Call} {closing : Closing}
  {stage : Stage} {stages rest more : List Stage} {thread : Option Nat}

theorem performStage_of_error {e : CallError} (hp : outcome (s.component.perform thread stage) = .error e) :
    s.performStage thread closing stage rest = s.setActivity thread none := by
  rw [performStage, hp]

theorem performStage_of_ok {d : Component ρ} (hp : outcome (s.component.perform thread stage) = .ok (more, d)) :
    s.performStage thread closing stage rest =
      { s.setActivity thread (some (closing, more ++ rest)) with
        component := d
        history := noteStage s.history thread stage } := by
  rw [performStage, hp]

theorem activity_setActivity (s : System ρ) (thread : Option Nat) (activity : Option (Closing × List Stage)) :
    (s.setActivity thread activity).activity thread = activity :=
  if_pos rfl

namespace Attainable

theorem endsIn_request (h : s.Attainable) (hrest : s.activity none = none) (hphase : s.component.InPhase phase)
    {r : Operation ρ} (hr : call.event = .request none r) :
    s.EndsIn (s.component.Served phase call) (.request none r) := by
  have hfree : s.isFree none = true := by
    rw [isFree, hrest]
    rfl
  have hsome : (s.step? (.request none r)).isSome = true := by
    rw [step?, if_pos hfree]
    rfl
  obtain ⟨s', hstep⟩ := Option.isSome_iff_exists.1 hsome
  have hattainable : s'.Attainable := h.step rfl hstep
  cases step_of_step? hstep with
  | request r hfree =>
    obtain ⟨phase', hphase'⟩ := hattainable.exists_inPhase hrest
    refine .told hstep rfl (.of_verdict (h.answer_eq hphase hr) (fun hok => ?_) (fun e herror => ?_) hrest)
    · obtain ⟨hflags, hsetup⟩ := hphase.after_of_ok hr hok
      exact ⟨hphase'.of_flags hflags, hsetup⟩
    · obtain ⟨hflags, hsetup⟩ := Component.after_of_error hr herror
      exact ⟨hphase'.of_flags (hflags.trans hphase.flags_eq), hsetup⟩

/-- A call that closes something comes to its end, whatever the workers do meanwhile. -/
theorem endsIn_onward {c₀ : Component ρ} (h : s.Attainable) (ha : s.activity none = some (closing, stages))
    (hcourse : Course c₀ phase closing s.component stages) (honward : event.isOnward = true)
    (hsome : (s.step? event).isSome = true) : s.EndsIn (c₀.Served phase (.close closing)) event := by
  -- every event but the end leaves less to do, and workers cannot keep the call up for ever
  induction heffort : s.effort using Nat.strongRecOn generalizing s stages event with
  | ind effort ih =>
  subst heffort
  obtain ⟨s', hstep⟩ := Option.isSome_iff_exists.1 hsome
  obtain ⟨hquiet, hcall⟩ := Bool.and_eq_true_iff.1 honward
  have hattainable : s'.Attainable := h.step hquiet hstep
  have hgoesOn : ∀ left, event ≠ .finish none → s.told? event = none → s'.activity none = some (closing, left) →
      Course c₀ phase closing s'.component left → s.EndsIn (c₀.Served phase (.close closing)) event :=
    fun left hend htold ha' hcourse' =>
      .goesOn hstep htold (exists_onward hattainable.quiet hattainable.doors ha') fun next hnext hsome' =>
        ih s'.effort (effort_lt honward hstep hend) hattainable ha' hcourse' hnext hsome' rfl
  cases step_of_step? hstep with
  | request | start => cases hcall
  | @advance thread closing' stage rest ha' =>
    obtain rfl := Option.isNone_iff_eq_none.1 hquiet
    rw [ha] at ha'
    cases ha'
    cases hp : outcome (s.component.perform none stage) with
    | error e =>
      obtain ⟨hverdict, hphase, hsetup⟩ := hcourse.fail (Component.failed hp)
      have htold : s.told? (.advance none) = some (.error e.refusal) := by
        rw [told?, ha]
        simp only [hp]
      refine .told hstep htold ?_
      rw [performStage_of_error hp]
      exact .of_verdict hverdict.symm nofun (fun _ _ => ⟨hphase, hsetup⟩) (s.activity_setActivity none none)
    | ok result =>
      obtain ⟨more, d⟩ := result
      have htold : s.told? (.advance none) = none := by
        rw [told?, ha]
        simp only [hp]
      rw [performStage_of_ok hp] at hgoesOn
      exact hgoesOn (more ++ rest) nofun htold (s.activity_setActivity none _) (hcourse.advance h.quiet.sound.life hp)
  | finish ha' =>
    obtain rfl := Option.isNone_iff_eq_none.1 hquiet
    rw [ha] at ha'
    cases ha'
    obtain ⟨hverdict, hflags, hsetup⟩ := hcourse.returned
    have hrest : (s.setActivity none none).activity none = none := s.activity_setActivity none none
    obtain ⟨phase', hphase'⟩ := hattainable.exists_inPhase hrest
    exact .told hstep rfl (.of_verdict hverdict.symm (fun _ => ⟨hphase'.of_flags hflags, hsetup⟩) nofun hrest)
  | work hs =>
    exact hgoesOn stages nofun rfl ha (hcourse.alike (Component.alike_work hs) (Component.standing_work hs))
  | resume _ hc =>
    obtain ⟨q, hq, hcalling⟩ := Component.calling?_eq_some.1 hc
    have halike := Component.alike_resume hq (by rw [hcalling]; rfl)
    exact hgoesOn stages nofun rfl ha (hcourse.alike halike (s.component.standing_resume _).1)

/-- A call that closes something begins, and comes to its end. -/
theorem endsIn_start (h : s.Attainable) (hrest : s.activity none = none) (hphase : s.component.InPhase phase)
    (closing : Closing) : s.EndsIn (s.component.Served phase (.close closing)) (.start none closing) := by
  have hfree : s.isFree none = true := by
    rw [isFree, hrest]
    rfl
  have hstep : s.step? (.start none closing) = some (s.setActivity none (some (closing, closing.stages))) := by
    rw [step?, if_pos hfree]
  have hattainable := h.step rfl hstep
  have hactivity := s.activity_setActivity none (some (closing, closing.stages))
  have hcourse : Course s.component phase closing s.component closing.stages := .asked hphase rfl rfl
  exact .goesOn hstep rfl (exists_onward hattainable.quiet hattainable.doors hactivity) fun next hnext hsome =>
    hattainable.endsIn_onward hactivity hcourse hnext hsome

end Attainable

/-- As long as calls are made one after the other, and no receiver makes one, a component is between calls always in a
phase, and every call ends: with what `Phase.verdict` says, in the phase `Phase.after` or, refused, where it was. -/
theorem served_of_quiet_run (hquiet : ∀ event ∈ events, event.isQuiet = true) (hrun : initial.run? events = some s)
    (hrest : s.activity none = none) :
    ∃ phase, s.component.InPhase phase ∧ ∀ call : Call, s.EndsIn (s.component.Served phase call) call.event := by
  have h : s.Attainable := ⟨events, hquiet, hrun⟩
  obtain ⟨phase, hphase⟩ := h.exists_inPhase hrest
  refine ⟨phase, hphase, fun call => ?_⟩
  cases call with
  | close closing => exact h.endsIn_start hrest hphase closing
  | activate | loadProfile | loadFile | openSession | deliver | deliverDocument =>
    exact h.endsIn_request hrest hphase rfl

theorem television_served : ∃ s : System Unit, initial.run? (loading ++ openings 0) = some s ∧
    s.component.InPhase .ready ∧
      s.EndsIn (s.component.Served .ready (.close .deactivate)) (.start none .deactivate) := by
  have hquiet : ∀ event ∈ (loading ++ openings 0 : List (Event Unit)), event.isQuiet = true := by decide
  have hrun : (initial.run? (loading ++ openings 0)).map (fun s : System Unit =>
      ((s.activity none).isNone, s.component.session.isSome)) = some (true, true) := by decide +kernel
  obtain ⟨s, hs, hends⟩ := Option.map_eq_some_iff.1 hrun
  obtain ⟨hrest, hsession⟩ := Prod.mk.inj hends
  obtain ⟨phase, hphase, hserved⟩ := served_of_quiet_run hquiet hs (Option.isNone_iff_eq_none.1 hrest)
  obtain rfl := hphase.session.1 hsession
  exact ⟨s, hs, hphase, hserved (.close .deactivate)⟩

/-- The phase alone does not decide what opening a session comes to: of one component, loaded and without a session, it
succeeds if the worker starts and fails otherwise. -/
theorem exists_opening_either_way : ∃ s : System Unit, initial.run? loading = some s ∧
    s.component.InPhase .loaded ∧ s.component.answer (.openSession none) = .ok () ∧
      s.component.answer (.openSession (some "out of threads")) = .error (.driver .generalError) := by
  have hquiet : ∀ event ∈ loading, event.isQuiet = true := by decide
  have hrun : (initial.run? loading).map (fun s : System Unit => ((s.activity none).isNone, s.component.flags)) =
      some (true, Phase.loaded.flags) := by decide +kernel
  obtain ⟨s, hs, hends⟩ := Option.map_eq_some_iff.1 hrun
  obtain ⟨hrest, hflags⟩ := Prod.mk.inj hends
  have h : s.Attainable := ⟨loading, hquiet, hs⟩
  obtain ⟨phase, hphase⟩ := h.exists_inPhase (Option.isNone_iff_eq_none.1 hrest)
  obtain rfl : phase = .loaded := Phase.flags_injective (hphase.flags_eq.symm.trans hflags)
  have hanswer : ∀ fault, s.component.answer (.openSession fault) =
      Phase.loaded.verdict (s.component.session.map Session.handle) s.component.isCrowded (.openSession fault) :=
    fun fault => h.answer_eq hphase rfl
  exact ⟨s, hs, hphase, hanswer none, hanswer (some "out of threads")⟩

end System

end CecBus
