import CecBus.Proofs.Component.InPlace
import CecBus.Proofs.Component.OneByOne
import CecBus.Proofs.Component.Unfailing
import CecBus.Proofs.Registry.Issuing

/-! The order in which calls are refused. Without a session that is ready every call on a handle comes to the same
error; with one, every handle but the one that was returned last comes to another; and only then do the arguments
matter. A call that is refused leaves the whole component as it was, but for an opening whose worker cannot be started:
that uses a handle up. `Answering` says so for a component and the handle that was returned last, and every run leads to
such a component. Main result: `System.answering_of_run`. -/

namespace CecBus

variable {ρ : Type}

/-! ### Closing a session -/

namespace Component

variable {c : Component ρ} {handle : Handle} {s : Session ρ}

theorem exists_advance_teardown (caller : Option Nat) (fuel : Nat) (stages : List Stage) (c : Component ρ)
    (h : ∀ stage ∈ stages, stage.isTeardown = true) :
    ∃ result, outcome (advance caller fuel stages c) = .ok result := by
  induction fuel generalizing stages c with
  | zero => exact ⟨_, rfl⟩
  | succ fuel ih =>
    cases stages with
    | nil => exact ⟨_, rfl⟩
    | cons stage rest =>
      obtain ⟨hstage, hrest⟩ := List.forall_mem_cons.1 h
      rw [advance]
      split
      · exact ⟨_, rfl⟩
      · obtain ⟨more, d, hp⟩ := c.exists_perform_teardown caller hstage
        have hmore : ∀ other ∈ more, other.isTeardown = true := by
          cases performed hp with
          | requested => simp [Stage.isTeardown]
          | absent | detached | joined | vacated => exact List.forall_mem_nil _
          | _ => cases hstage
        obtain ⟨result, hresult⟩ := ih (more ++ rest) d (List.forall_mem_append.2 ⟨hmore, hrest⟩)
        exact ⟨result, outcome_bind_eq_ok.2 ⟨(more, d), hp, hresult⟩⟩

theorem proceed_closeSession_eq_error (caller : Option Nat) (handle : Handle) (e : CallError) :
    outcome (c.proceed caller (Stage.closeSession handle)) = .error e ↔
      ∃ e', e = .driver e' ∧ c.respond handle .close = .error e' := by
  have hteardown : ∀ retired, ∀ stage ∈ afterRetiring handle retired ++ [], stage.isTeardown = true := by
    intro retired
    cases retired <;> simp [afterRetiring, Stage.isTeardown]
  have hstart : outcome (c.proceed caller (Stage.closeSession handle)) =
      outcome (c.retireStage handle false >>= fun result => advance caller 3 (result.1 ++ []) result.2) := rfl
  rw [respond]
  cases hretire : outcome (c.retire handle) with
  | error e' =>
    have hfails : outcome (c.proceed caller (Stage.closeSession handle)) = .error (.driver e') := by
      rw [hstart, outcome_bind, retireStage, outcome_bind, outcome_liftM_logged, outcome_run, hretire]
      rfl
    simp [hfails, Except.map, eq_comm]
  | ok result =>
    obtain ⟨retired, d⟩ := result
    obtain ⟨result, hresult⟩ := exists_advance_teardown caller 3 _ d (hteardown retired)
    have hgoes : outcome (c.proceed caller (Stage.closeSession handle)) = .ok result := by
      rw [hstart, outcome_bind, retireStage, outcome_bind, outcome_liftM_logged, outcome_run, hretire]
      exact hresult
    simp [hgoes, Except.map]

/-! ### The answers -/

/-- How calls are answered by a component whose session, if it has one, was opened under the handle that was returned
last. The programs in place say what a call leaves behind, down to the last slot and counter. -/
structure Answering (c : Component ρ) (latest : Option Handle) : Prop where
  notOpened (handle : Handle) (call : DriverCall ρ) :
    c.respond handle call = .error .notOpened ↔ c.ready? = none
  invalidHandle (handle : Handle) (call : DriverCall ρ) :
    c.respond handle call = .error .invalidHandle ↔ c.ready?.isSome = true ∧ latest ≠ some handle
  invalidWord (word : UInt64) (call : DriverCall ρ) :
    c.respond (.ofToken word) call = .error .invalidHandle ↔
      c.ready?.isSome = true ∧ latest.map Handle.token ≠ some word
  onMerits (handle : Handle) (call : DriverCall ρ) (e : DriverError) : c.ready?.isSome = true → latest = some handle →
    c.respond handle call = .error e → e.isOnMerits = true
  closing (caller : Option Nat) (handle : Handle) (e : CallError) :
    outcome (c.proceed caller (Stage.closeSession handle)) = .error e ↔
      ∃ e', e = .driver e' ∧ c.respond handle .close = .error e'
  opening (fault : Option String) (e : DriverError) (d : Component ρ) : (c.tryOpen fault).value = (.error e, d) ↔
    c.isLoaded = false ∧ e = .notOpened ∧ d = c ∨
    c.isLoaded = true ∧ c.session.isSome = true ∧ e = .alreadyOpen ∧ d = c ∨
    c.isLoaded = true ∧ c.session = none ∧ fault.isSome = true ∧ e = .generalError ∧
      ∃ handle registry, c.registry.register? = some (handle, registry) ∧ d = c.giveUp handle registry
  answered (handle : Handle) (call : DriverCall ρ) (answer : DriverAnswer) (d : Component ρ) :
    (call.inPlace handle).run c = .ok answer d ↔ c.respond handle call = .ok (answer, d)
  refused (handle : Handle) (call : DriverCall ρ) (e : DriverError) (d : Component ρ) :
    (call.inPlace handle).run c = .error e d ↔ c.respond handle call = .error e ∧ d = c
  opened (fault : Option String) (handle : Handle) (d : Component ρ) :
    (InPlace.openSession fault).run c = .ok handle d ↔ (c.tryOpen fault).value = (.ok handle, d)
  notReopened (fault : Option String) (e : DriverError) (d : Component ρ) :
    (InPlace.openSession fault).run c = .error e d ↔ (c.tryOpen fault).value = (.error e, d)

end Component

section

variable {c : Component ρ} {stages : Option Nat → List Stage} {detached : List Nat} {session : Session ρ}
  {handle : Handle}

theorem Life.live_eq (h : Life c stages detached) (hr : c.ready? = some session) (handle : Handle) :
    c.live handle = if session.handle = handle then .ok session else .error .invalidHandle := by
  obtain ⟨hs, hready⟩ := Component.ready?_eq_some.1 hr
  obtain ⟨number, hopened⟩ := h.isOpened_of_ready hs hready
  by_cases hh : session.handle = handle
  · subst hh
    rw [if_pos rfl, hopened.live]
  · rw [if_neg hh, Component.live, hr]
    simp [hh]

theorem respond_of_ready?_eq_none (hr : c.ready? = none) (handle : Handle) (call : DriverCall ρ) :
    c.respond handle call = .error .notOpened := by
  rw [Component.respond_eq, Component.live, hr]
  rfl

theorem Life.respond_eq_error (h : Life c stages detached) (hr : c.ready? = some session) (handle : Handle)
    (call : DriverCall ρ) (e : DriverError) : c.respond handle call = .error e ↔
      session.handle ≠ handle ∧ e = .invalidHandle ∨ session.handle = handle ∧ session.reply call = .error e := by
  rw [Component.respond_eq_error, h.live_eq hr]
  by_cases hh : session.handle = handle <;> simp [hh, eq_comm]

theorem Life.respond_eq_notOpened (h : Life c stages detached) (hfounded : c.Founded) (handle : Handle)
    (call : DriverCall ρ) : c.respond handle call = .error .notOpened ↔ c.ready? = none := by
  cases hr : c.ready? with
  | none => simp [respond_of_ready?_eq_none hr]
  | some session =>
    rw [h.respond_eq_error hr]
    constructor
    · rintro (⟨-, he⟩ | ⟨-, hreply⟩)
      · cases he
      · cases hfounded.isOnMerits_of_reply (Component.ready?_eq_some.1 hr).1 hreply
    · exact nofun

theorem Life.respond_eq_invalidHandle (h : Life c stages detached) (hfounded : c.Founded) {latest : Option Handle}
    (hlatest : ∀ session, c.ready? = some session → latest = some session.handle) (handle : Handle)
    (call : DriverCall ρ) :
    c.respond handle call = .error .invalidHandle ↔ c.ready?.isSome = true ∧ latest ≠ some handle := by
  cases hr : c.ready? with
  | none => simp [respond_of_ready?_eq_none hr]
  | some session =>
    rw [h.respond_eq_error hr, hlatest session hr]
    constructor
    · rintro (⟨hne, -⟩ | ⟨-, hreply⟩)
      · exact ⟨rfl, fun hsame => hne (Option.some.inj hsame)⟩
      · cases hfounded.isOnMerits_of_reply (Component.ready?_eq_some.1 hr).1 hreply
    · rintro ⟨-, hne⟩
      exact .inl ⟨fun hsame => hne (congrArg some hsame), rfl⟩

/-- A component answers in order as long as the session that is ready has the handle that was returned last. -/
theorem Life.answering (h : Life c stages detached) (hfounded : c.Founded) {latest : Option Handle}
    (hlatest : ∀ session, c.ready? = some session → latest = some session.handle) : c.Answering latest where
  notOpened := h.respond_eq_notOpened hfounded
  invalidHandle := h.respond_eq_invalidHandle hfounded hlatest
  invalidWord word call := by
    rw [h.respond_eq_invalidHandle hfounded hlatest]
    refine and_congr_right fun _ => not_congr ?_
    cases latest with
    | none => simp
    | some handle =>
      rw [Option.map_some, Option.some.injEq, Option.some.injEq]
      exact eq_comm.trans Handle.ofToken_eq_iff
  onMerits handle call e hready hreturned hrespond := by
    obtain ⟨session, hr⟩ := Option.isSome_iff_exists.1 hready
    obtain ⟨hne, -⟩ | ⟨-, hreply⟩ := (h.respond_eq_error hr handle call e).1 hrespond
    · rw [hlatest session hr] at hreturned
      exact absurd (Option.some.inj hreturned) hne
    · exact hfounded.isOnMerits_of_reply (Component.ready?_eq_some.1 hr).1 hreply
  closing := Component.proceed_closeSession_eq_error
  opening _ _ _ := Component.tryOpen_eq_error_iff hfounded h.isSome_register?
  answered handle call answer d := by rw [DriverCall.run_inPlace, allOrNothing_eq_ok]
  refused handle call e d := by rw [DriverCall.run_inPlace, allOrNothing_eq_error]
  opened fault handle d := by rw [InPlace.run_openSession, leaving_eq_ok]
  notReopened fault e d := by rw [InPlace.run_openSession, leaving_eq_error]

end

namespace System

variable {s s' : System ρ} {event : Event ρ} {events : List (Event ρ)}

/-! ### The handles along a run -/

/-- The handle that is issued in an event, if it comes to opening a session. When the worker cannot be started nobody
gets to see it. -/
def issued? (s : System ρ) : Event ρ → Option Handle
  | .request thread (.openSession _) =>
    if s.isFree thread ∧ s.component.isLoaded ∧ s.component.session = none then
      s.component.registry.register?.map Prod.fst
    else none
  | _ => none

/-- The handle that is returned in an event, if a session is opened in it. -/
def returned? (s : System ρ) : Event ρ → Option Handle
  | .request thread (.openSession fault) =>
    if s.isFree thread then (s.component.tryOpen fault).value.1.toOption else none
  | _ => none

def along (f : System ρ → Event ρ → Option Handle) (s : System ρ) : List (Event ρ) → List Handle
  | [] => []
  | event :: rest => (f s event).toList ++ ((s.step? event).map fun next => next.along f rest).getD []

def issued (s : System ρ) (events : List (Event ρ)) : List Handle := s.along issued? events

def returned (s : System ρ) (events : List (Event ρ)) : List Handle := s.along returned? events

theorem along_cons {f : System ρ → Event ρ → Option Handle} {rest : List (Event ρ)} (hstep : s.step? event = some s') :
    s.along f (event :: rest) = (f s event).toList ++ s'.along f rest := by
  rw [along, hstep]
  rfl

def handles (s : System ρ) : List Handle := (List.range s.component.workers.length).map .ofSession

theorem handles_congr (hnone : s.issued? event = none)
    (hlength : s'.component.workers.length = s.component.workers.length) :
    s'.handles = s.handles ++ (s.issued? event).toList := by
  rw [hnone, Option.toList_none, List.append_nil, handles, hlength, handles]

/-- When it comes to opening a session, the handle of the next number is issued. -/
theorem issued?_openSession (h : s.Sound) (fault : Option String) {thread : Option Nat}
    (hfree : s.isFree thread = true) : s.issued? (.request thread (.openSession fault)) =
      if s.component.isLoaded ∧ s.component.session = none ∧ s.component.registry.register?.isSome then
        some (.ofSession s.component.workers.length)
      else none := by
  rw [issued?, hfree]
  by_cases hopens : s.component.isLoaded = true ∧ s.component.session = none
  · have hvacant := h.life.isVacant_of_none hopens.2
    obtain ⟨⟨handle, registry⟩, hregister⟩ := Option.isSome_iff_exists.1 (h.life.isSome_register? hopens.2)
    have hissued := hregister
    rw [hvacant.registry] at hissued
    obtain ⟨-, rfl, -⟩ := Registry.register?_atSession hissued
    simp [hopens, hregister]
  · rw [if_neg fun hall => hopens hall.2, if_neg fun hall => hopens ⟨hall.1, hall.2.1⟩]

/-- Whenever it comes to opening a session its handle is issued, and otherwise none is. -/
theorem handles_step (h : s.Sound) (hstep : s.step? event = some s') :
    s'.handles = s.handles ++ (s.issued? event).toList := by
  cases step_of_step? hstep with
  | @request thread r hfree =>
    by_cases hr : ∃ fault, r = .openSession fault
    · obtain ⟨fault, rfl⟩ := hr
      rw [issued?_openSession h fault hfree, handles, s.component.length_openSession fault, handles]
      split
      · rw [List.range_succ, List.map_append]
        rfl
      · simp
    · have hnone : s.issued? (.request thread r) = none := by
        cases r with
        | openSession fault => exact absurd ⟨fault, rfl⟩ hr
        | _ => rfl
      exact handles_congr hnone (Component.alike_after (not_exists.1 hr)).length
  | start | finish => exact handles_congr rfl rfl
  | @advance thread closing stage rest =>
    refine handles_congr rfl ?_
    unfold performStage
    split
    · rfl
    · next hp => exact Component.length_perform hp
  | work hs => exact handles_congr rfl (Component.alike_work hs).length
  | resume _ hc =>
    obtain ⟨q, hq, hcall⟩ := Component.calling?_eq_some.1 hc
    exact handles_congr rfl (Component.alike_resume hq (by rw [hcall]; rfl)).length

theorem handles_run (h : s.Sound) (hrun : s.run? events = some s') : s'.handles = s.handles ++ s.issued events := by
  induction events generalizing s with
  | nil =>
    cases hrun
    exact (List.append_nil _).symm
  | cons event rest ih =>
    obtain ⟨next, hnext, hrest⟩ := Option.bind_eq_some_iff.1 hrun
    rw [ih (h.step hnext) hrest, handles_step h hnext, issued, issued, along_cons hnext, List.append_assoc]

/-- A session that is ready was ready before an event, under the same handle, or it is the one that was opened in it. -/
theorem ready?_step (hstep : s.step? event = some s') {session : Session ρ}
    (hready : s'.component.ready? = some session) : s.returned? event = some session.handle ∨
      s.returned? event = none ∧ ∃ earlier, s.component.ready? = some earlier ∧ earlier.handle = session.handle := by
  have hsame : ∀ {d : Component ρ}, s.component.Alike d → d.ready? = some session →
      ∃ earlier, s.component.ready? = some earlier ∧ earlier.handle = session.handle := fun halike hready =>
    let ⟨earlier, hearlier, hhandle, _⟩ := halike.exists_ready? hready
    ⟨earlier, hearlier, hhandle⟩
  cases step_of_step? hstep with
  | @request thread r hfree =>
    by_cases hr : ∃ fault, r = .openSession fault
    · obtain ⟨fault, rfl⟩ := hr
      rw [returned?, if_pos hfree]
      change (s.component.tryOpen fault).value.2.ready? = some session at hready
      cases ho : (s.component.tryOpen fault).value with
      | mk result d =>
        rw [ho] at hready
        cases result with
        | ok handle =>
          obtain ⟨-, setup, registry, bus, -, -, -, rfl⟩ := Component.tryOpen_eq_ok ho
          cases hready
          exact .inl rfl
        | error e =>
          refine .inr ⟨rfl, ?_⟩
          obtain rfl | ⟨hnone, handle, registry, -, rfl⟩ := Component.tryOpen_eq_error ho
          · exact ⟨session, hready, rfl⟩
          · rw [Component.ready?_giveUp hnone] at hready
            cases hready
    · have hnone : s.returned? (.request thread r) = none := by
        cases r with
        | openSession fault => exact absurd ⟨fault, rfl⟩ hr
        | _ => rfl
      exact .inr ⟨hnone, hsame (Component.alike_after (not_exists.1 hr)) hready⟩
  | start | finish => exact .inr ⟨rfl, session, hready, rfl⟩
  | @advance thread closing stage rest =>
    refine .inr ⟨rfl, session, ?_, rfl⟩
    unfold performStage at hready
    split at hready
    · exact hready
    · next hp => exact (Component.ready?_of_perform hp hready).1
  | work hs => exact .inr ⟨rfl, hsame (Component.alike_work hs) hready⟩
  | resume _ hc =>
    obtain ⟨q, hq, hcall⟩ := Component.calling?_eq_some.1 hc
    exact .inr ⟨rfl, hsame (Component.alike_resume hq (by rw [hcall]; rfl)) hready⟩

/-- The handle of the session that is ready is the one that was returned last, if that was so before some events. -/
theorem getLast?_returned_of_ready {before : List Handle}
    (hbefore : ∀ session, s.component.ready? = some session → before.getLast? = some session.handle)
    (hrun : s.run? events = some s') {session : Session ρ} (hready : s'.component.ready? = some session) :
    (before ++ s.returned events).getLast? = some session.handle := by
  induction events generalizing s before with
  | nil =>
    cases hrun
    rw [returned, along, List.append_nil]
    exact hbefore session hready
  | cons event rest ih =>
    obtain ⟨next, hnext, hrest⟩ := Option.bind_eq_some_iff.1 hrun
    rw [returned, along_cons hnext, ← List.append_assoc]
    refine ih (fun session hready => ?_) hrest
    obtain hreturned | ⟨hnone, earlier, hearlier, hhandle⟩ := ready?_step hnext hready
    · rw [hreturned, Option.toList_some, List.getLast?_concat]
    · rw [hnone, Option.toList_none, List.append_nil, hbefore earlier hearlier, hhandle]

theorem getLast?_issued_of_ready (hrun : initial.run? events = some s) {session : Session ρ}
    (hr : s.component.ready? = some session) : (initial.issued events).getLast? = some session.handle := by
  have hissued : s.handles = initial.issued events := handles_run sound_initial hrun
  obtain ⟨hs, hready⟩ := Component.ready?_eq_some.1 hr
  obtain ⟨number, hopened⟩ := (sound_of_run hrun).life.isOpened_of_ready hs hready
  rw [← hissued, handles, hopened.length, hopened.handle, List.range_succ]
  simp

/-! ### The main result -/

/-- Every run leads to a component that refuses calls in order and leaves nothing behind when it does, but for an
opening whose worker cannot be started. When calls come one after the other, opening is refused for want of a set-up
exactly if there is none, and for a session exactly if there is one. -/
theorem answering_of_run (hrun : initial.run? events = some s) :
    s.component.Answering (initial.returned events).getLast? ∧ (initial.OneByOne events → ∀ fault,
      ((s.component.tryOpen fault).value.1 = .error .notOpened ↔ s.component.setup = none) ∧
        ((s.component.tryOpen fault).value.1 = .error .alreadyOpen ↔ s.component.session.isSome = true)) := by
  have hfounded := founded_of_run hrun
  have hlife := (sound_of_run hrun).life
  refine ⟨hlife.answering hfounded fun session => ?_, fun hone fault => ?_⟩
  · exact @getLast?_returned_of_ready ρ initial s events [] (fun _ hready => by cases hready) hrun session
  have hlayered := layered_of_oneByOne hone hrun
  have hloaded : s.component.isLoaded = s.component.setup.isSome := by
    cases hs : s.component.setup.isSome with
    | true => rw [Component.isLoaded, hlayered.initialized hs, hs]; rfl
    | false => rw [Component.isLoaded, hs, Bool.and_false]
  have herror : ∀ e, (s.component.tryOpen fault).value.1 = .error e ↔
      ∃ d, (s.component.tryOpen fault).value = (.error e, d) := by simp [Prod.ext_iff]
  simp only [herror, Component.tryOpen_eq_error_iff hfounded hlife.isSome_register?, hloaded]
  refine ⟨by simp, ?_⟩
  have hsetup := hlayered.setup
  simpa using hsetup

/-- An opening whose worker cannot be started fails, and still the registry has gone on to another generation. -/
theorem exists_error_changing_registry : ∃ (s : System Unit) (d : Component Unit), initial.run? loading = some s ∧
    (InPlace.openSession (some "out of threads")).run s.component = .error .generalError d ∧
      d.registry ≠ s.component.registry := by
  have hrun : (initial.run? loading).map (fun s : System Unit =>
      decide ((s.component.tryOpen (some "out of threads")).value.1 = .error .generalError ∧
        (s.component.tryOpen (some "out of threads")).value.2.registry ≠ s.component.registry)) = some true := by
    decide +kernel
  obtain ⟨s, hs, hend⟩ := Option.map_eq_some_iff.1 hrun
  obtain ⟨hfails, hchanges⟩ := of_decide_eq_true hend
  refine ⟨s, _, hs, ?_, hchanges⟩
  rw [InPlace.run_openSession, leaving_eq_error]
  exact Prod.ext hfails rfl

/-- A session is opened and closed, and after an opening whose worker cannot be started another is opened. -/
def openedTwice : List (Event Unit) :=
  loading ++ openings 0 ++ [.start none (.session (.ofSession 0)), .advance none, .advance none, .work 0, .advance none,
    .advance none, .finish none, .request none (.openSession (some "out of threads"))] ++ openings 2

theorem openedTwice_answering : ∃ s : System Unit, initial.run? openedTwice = some s ∧
    s.component.Answering (some (.ofSession 2)) ∧
      s.component.respond (.ofSession 0) .close = .error .invalidHandle ∧
        (s.component.tryOpen none).value.1 = .error .alreadyOpen := by
  have hrun : (initial.run? openedTwice).map (fun s => decide (s.component.session.isSome ∧ s.component.ready?.isSome ∧
      initial.returned openedTwice = [.ofSession 0, .ofSession 2])) = some true := by decide +kernel
  obtain ⟨s, hs, hend⟩ := Option.map_eq_some_iff.1 hrun
  obtain ⟨hsession, hready, hreturned⟩ := of_decide_eq_true hend
  obtain ⟨hanswering, hopening⟩ := answering_of_run hs
  rw [hreturned] at hanswering
  refine ⟨s, hs, hanswering, (hanswering.invalidHandle _ _).2 ⟨hready, by decide⟩, ?_⟩
  exact (hopening (quiet_initial.oneByOne (by decide)) none).2.2 hsession

end System

end CecBus
