import CecBus.Proofs.Component.Leftovers

/-! Runs in which no receiver makes a call, so that the caller makes them all. Then every session serves the messages
it accepted, and when closing one returns, its worker has stopped. -/

namespace CecBus

variable {ρ : Type}

/-- Whether no worker makes a call in an event. -/
def Event.isQuiet : Event ρ → Bool
  | .request thread _ | .start thread _ | .advance thread | .finish thread => thread.isNone
  | .work _ | .resume _ => true

/-- How far a call has come that closes the session with a handle, if it did not fail. -/
inductive Closes (c : Component ρ) (handle : Handle) : List Stage → Prop
  | asked : Closes c handle (Stage.closeSession handle)
  | tearing {number : Nat} (phase : Teardown) (hlength : c.workers.length = number + 1)
      (hhandle : handle = .ofSession number) : Closes c handle (phase.stages number)
  | done {number : Nat} (hlength : c.workers.length = number + 1) (hhandle : handle = .ofSession number)
      (hsession : c.session = none) : Closes c handle []

theorem Closes.alike {c d : Component ρ} {handle : Handle} {stages : List Stage} (h : Closes c handle stages)
    (ha : c.Alike d) : Closes d handle stages := by
  cases h with
  | asked => exact .asked
  | tearing phase hlength hhandle => exact .tearing phase (ha.length.trans hlength) hhandle
  | done hlength hhandle hsession =>
    have hs := ha.session
    rw [hsession, Option.map_none, Option.map_eq_none_iff] at hs
    exact .done (ha.length.trans hlength) hhandle hs

theorem Closes.advance {c d : Component ρ} {handle : Handle} {stage : Stage} {more rest : List Stage}
    {stages : Option Nat → List Stage} {detached : List Nat} (h : Closes c handle (stage :: rest))
    (hlife : Life c stages detached) (hp : outcome (c.perform none stage) = .ok (more, d)) :
    Closes d handle (more ++ rest) := by
  generalize hstages : stage :: rest = left at h
  cases h with
  | asked =>
    obtain ⟨rfl, rfl⟩ := List.cons.inj hstages
    cases Component.performed hp with
    | retired _ hretired =>
      obtain ⟨number, hlength, hworkers, rfl, rfl⟩ := hlife.number_of_retire hretired
      exact .tearing .begun (hworkers ▸ hlength) rfl
  | @tearing number phase hlength hhandle =>
    cases phase with
    | begun =>
      obtain ⟨rfl, rfl⟩ := List.cons.inj hstages
      have hlt : number < c.workers.length := by rw [hlength]; exact Nat.lt_succ_self _
      cases Component.performed hp with
      | absent hq => exact absurd hq (by simp [hlt])
      | detached _ ht => cases ht
      | requested => exact .tearing .waiting (by rw [Component.setWorker, List.length_set, hlength]) hhandle
    | waiting =>
      obtain ⟨rfl, rfl⟩ := List.cons.inj hstages
      cases hp
      exact .tearing .last hlength hhandle
    | last =>
      obtain ⟨rfl, rfl⟩ := List.cons.inj hstages
      cases hp
      exact .done hlength hhandle rfl
  | done => cases hstages

namespace System

variable {s s' : System ρ} {event : Event ρ} {events : List (Event ρ)} {worker number : Nat} {handle : Handle}
  {e : Handling ρ}

/-- What holds of a system at every moment as long as only the caller makes calls. -/
structure Quiet (s : System ρ) : Prop where
  sound : s.Sound
  attached : s.history.detached = []
  idle (worker : Nat) : s.activity (some worker) = none
  own : ∀ e ∈ s.history.handled, e.session = some (e.worker, .ofSession e.worker)
  closes (handle : Handle) (stages : List Stage) :
    s.activity none = some (.session handle, stages) → Closes s.component handle stages

theorem quiet_initial : (initial : System ρ).Quiet where
  sound := sound_initial
  attached := rfl
  idle := fun _ => rfl
  own := fun _ he => absurd he List.not_mem_nil
  closes := fun _ _ ha => by cases ha

namespace Quiet

theorem session_of_handling (h : s.Quiet) (he : s.component.handling? worker = some e) :
    e.worker = worker ∧ e.session = some (worker, .ofSession worker) := by
  refine ⟨?_, h.sound.session_of_attached he (by rw [h.attached]; exact List.not_mem_nil)⟩
  obtain ⟨q, kind, payload, -, -, rfl⟩ := handling?_eq_some he
  rfl

/-- The receiver that a worker calls is given the handle of the session of that worker. -/
theorem handle_of_calling (h : s.Quiet) {call : ρ × Handle × List UInt8}
    (hc : s.component.calling? worker = some call) : call.2.1 = .ofSession worker := by
  have hcalls := (h.sound.accounts worker).calls
  rw [← Component.calling?_eq_queueOf, hc, Option.toList_some] at hcalls
  have hmem : call ∈ (s.history.handledBy worker).filterMap Handling.call? := by
    rw [hcalls]
    exact List.mem_append_right _ List.mem_cons_self
  obtain ⟨e, he, hcall⟩ := List.mem_filterMap.1 hmem
  obtain ⟨hhandled, hworker⟩ := List.mem_filter.1 he
  have hown := h.own e hhandled
  rw [of_decide_eq_true hworker] at hown
  unfold Handling.call? at hcall
  rw [hown] at hcall
  split at hcall
  · next hsession _ _ =>
    cases hsession
    cases hcall
    rfl
  · cases hcall

theorem performStage (h : s.Quiet) {closing : Closing} {stage : Stage} {rest : List Stage}
    (ha : s.activity none = some (closing, stage :: rest)) (hblocks : s.component.blocks stage = false) :
    (s.performStage none closing stage rest).Quiet := by
  have hsound := h.sound.performStage ha hblocks
  have hattached : (s.performStage none closing stage rest).history.detached = [] := by
    rw [List.eq_nil_iff_forall_not_mem]
    intro worker hw
    rw [mem_detached_performStage, h.attached] at hw
    obtain hw | ⟨ht, -⟩ := hw
    · exact List.not_mem_nil hw
    · cases ht
  refine ⟨hsound, hattached, ?_, ?_, ?_⟩
  all_goals
    unfold System.performStage
    split
  · exact h.idle
  · exact h.idle
  · exact h.own
  · rw [handled_noteStage]
    exact h.own
  · exact fun _ _ hs => by cases hs
  · next more d hp =>
    intro handle stages hs
    cases hs
    exact (h.closes handle _ ha).advance h.sound.life hp

theorem work (h : s.Quiet) {step : Logged (Component ρ)} (hs : s.component.work? worker = some step) : Quiet
    { s with
      component := step.value
      history := { s.history with
        handled := s.history.handled ++ (s.component.handling? worker).toList } } := by
  refine ⟨h.sound.work hs, h.attached, h.idle, fun e he => ?_, fun handle stages hc => ?_⟩
  · rcases List.mem_append.1 he with he | he
    · exact h.own e he
    · obtain ⟨hworker, hsession⟩ := h.session_of_handling (Option.mem_toList.1 he)
      rw [hworker, hsession]
  · exact (h.closes handle stages hc).alike (Component.alike_work hs)

theorem resume (h : s.Quiet) {call : ρ × Handle × List UInt8} (hc : s.component.calling? worker = some call) : Quiet
    { s with
      component := s.component.resume worker
      history := { s.history with called := s.history.called ++ [(worker, call)] } } := by
  obtain ⟨q, hq, hcall⟩ := Component.calling?_eq_some.1 hc
  exact ⟨h.sound.resume (h.idle worker) hc, h.attached, h.idle, h.own, fun handle stages ha =>
    (h.closes handle stages ha).alike (Component.alike_resume hq (by rw [hcall]; rfl))⟩

/-- Every event in which no receiver makes a call keeps a system quiet. -/
theorem step (h : s.Quiet) (hquiet : event.isQuiet) (hstep : s.step? event = some s') : s'.Quiet := by
  have hsound := h.sound.step hstep
  cases step_of_step? hstep with
  | request r hfree =>
    obtain rfl := Option.isNone_iff_eq_none.1 hquiet
    refine ⟨hsound, h.attached, h.idle, h.own, fun handle stages ha => ?_⟩
    rw [isFree, Bool.and_eq_true, Option.isNone_iff_eq_none] at hfree
    change s.activity none = _ at ha
    rw [hfree.1] at ha
    cases ha
  | start closing hfree =>
    obtain rfl := Option.isNone_iff_eq_none.1 hquiet
    refine ⟨hsound, h.attached, h.idle, h.own, fun handle stages ha => ?_⟩
    cases ha
    exact .asked
  | advance ha hblocks =>
    obtain rfl := Option.isNone_iff_eq_none.1 hquiet
    exact h.performStage ha hblocks
  | finish =>
    obtain rfl := Option.isNone_iff_eq_none.1 hquiet
    exact ⟨hsound, h.attached, h.idle, h.own, fun _ _ ha => by cases ha⟩
  | work hs => exact h.work hs
  | resume _ hc => exact h.resume hc

end Quiet

theorem quiet_of_run (hquiet : ∀ event ∈ events, event.isQuiet) (hrun : initial.run? events = some s) : s.Quiet :=
  run?_induct (fun _ _ _ hallowed h hs => h.step hallowed hs) hquiet quiet_initial hrun

end System

end CecBus
