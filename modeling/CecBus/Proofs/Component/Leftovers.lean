import CecBus.Proofs.Component.Runs

/-! Against which session a message is handled. A session that is closed from outside goes only when its worker has
handled what is left. A receiver that closes the session it serves cannot wait for its own worker, and the messages
left over are handled afterwards: against no session, or against one that was opened in the meantime. -/

namespace CecBus.System

variable {ρ : Type} {s s' : System ρ} {events : List (Event ρ)} {worker : Nat} {e : Handling ρ}

theorem handling?_eq_some (he : s.component.handling? worker = some e) :
    ∃ q kind payload, s.component.workers[worker]? = some q ∧ q.phase = .busy (.holding kind payload) ∧
      e = s.component.handling worker kind payload := by
  unfold Component.handling? at he
  split at he
  · next kind payload hphase =>
    obtain ⟨q, hq, hp⟩ := Option.map_eq_some_iff.1 hphase
    cases he
    exact ⟨q, kind, payload, hq, hp, rfl⟩
  · cases he

namespace Sound

theorem not_stopped (he : s.component.handling? worker = some e) : ¬ s.component.Stopped worker := by
  rintro ⟨q, hq, hstopped⟩
  obtain ⟨q', kind, payload, hq', hphase, -⟩ := handling?_eq_some he
  rw [hq] at hq'
  cases hq'
  rw [Queue.isStopped_of_busy hphase] at hstopped
  cases hstopped

/-- What a worker is about to handle was accepted by the session with its number. -/
theorem mem_acceptedBy (h : s.Sound) (he : s.component.handling? worker = some e) :
    e.message ∈ s.history.acceptedBy worker := by
  obtain ⟨q, kind, payload, hq, hphase, rfl⟩ := handling?_eq_some he
  have htracks := (h.accounts worker).tracks
  rw [Component.queueOf_eq hq] at htracks
  rw [htracks.accounted, Queue.held, hphase]
  simp [Component.handling]

theorem session_of_attached (h : s.Sound) (he : s.component.handling? worker = some e)
    (hw : worker ∉ s.history.detached) : e.session = some (worker, .ofSession worker) := by
  have hrunning := not_stopped he
  have hnot : ¬ s.component.IsOver s.history.detached worker := fun ho => ho.elim hrunning hw
  obtain ⟨q, kind, payload, hq, -, rfl⟩ := handling?_eq_some he
  have hlt := (List.getElem?_eq_some_iff.1 hq).1
  cases hs : s.component.session with
  | none => exact absurd ((h.life.isVacant_of_none hs).past worker hlt) hnot
  | some session =>
    obtain ⟨number, hlength, hhandle, hpast⟩ := h.life.exists_number hs
    rw [hlength] at hlt
    obtain hlt | rfl := Nat.lt_succ_iff_lt_or_eq.1 hlt
    · exact absurd (hpast worker hlt) hnot
    · rw [Component.handling, hs, hlength, Option.map_some, hhandle]
      rfl

theorem lt_of_detached (h : s.Sound) (he : s.component.handling? worker = some e)
    (hw : worker ∈ s.history.detached) {number : Nat} {handle : Handle} (hs : e.session = some (number, handle)) :
    worker < number ∧ handle = .ofSession number := by
  have hlt := h.detached_lt worker hw
  have hcalling := h.calling worker
  obtain ⟨q, kind, payload, hq, hphase, rfl⟩ := handling?_eq_some he
  cases h.life with
  | vacant h =>
    rw [Component.handling, h.session] at hs
    cases hs
  | ready number session h =>
    rw [Component.handling, h.session, h.length, Option.map_some, h.handle] at hs
    cases hs
    rw [h.length] at hlt
    refine ⟨Nat.lt_of_le_of_ne (Nat.le_of_lt_succ hlt) ?_, rfl⟩
    rintro rfl
    exact h.attached hw
  | closing number session owner phase rest h =>
    rw [Component.handling, h.session, h.length, Option.map_some, h.handle] at hs
    cases hs
    rw [h.length] at hlt
    refine ⟨Nat.lt_of_le_of_ne (Nat.le_of_lt_succ hlt) ?_, rfl⟩
    rintro rfl
    -- the session that is being closed from within still waits for the receiver of its last call
    cases phase with
    | begun | waiting => exact h.fits hw
    | last =>
      obtain ⟨hnot, -⟩ | ⟨-, rfl⟩ := h.fits
      · exact hnot hw
      · have hactive : (s.activity (some worker)).isSome := by
          cases ha : s.activity (some worker) with
          | some _ => rfl
          | none =>
            have howned := h.owned
            rw [stages, ha] at howned
            cases howned
        have hcall := hcalling hactive
        rw [Component.calling?_eq_queueOf, Component.queueOf_eq hq, Queue.call?, hphase] at hcall
        cases hcall

end Sound

/-! ### Closing from within -/

/-- In a run, a receiver closed the session of the worker on which it ran. -/
def ClosedFromWithin (s : System ρ) (events : List (Event ρ)) (worker : Nat) : Prop :=
  ∃ before after closing rest t, events = before ++ .advance (some worker) :: after ∧ s.run? before = some t ∧
    t.activity (some worker) = some (closing, .shutDown worker :: rest)

theorem closedFromWithin_cons {t : System ρ} {event : Event ρ} (h : s.step? event = some t) :
    s.ClosedFromWithin (event :: events) worker ↔
      (event = .advance (some worker) ∧
        ∃ closing rest, s.activity (some worker) = some (closing, .shutDown worker :: rest)) ∨
      t.ClosedFromWithin events worker := by
  constructor
  · rintro ⟨before, after, closing, rest, u, hevents, hrun, ha⟩
    cases before with
    | nil =>
      cases hrun
      exact .inl ⟨(List.cons.inj hevents).1, closing, rest, ha⟩
    | cons first before =>
      obtain ⟨rfl, hothers⟩ := List.cons.inj hevents
      rw [run?, h, Option.bind_some] at hrun
      exact .inr ⟨before, after, closing, rest, u, hothers, hrun, ha⟩
  · rintro (⟨rfl, closing, rest, ha⟩ | ⟨before, after, closing, rest, u, rfl, hrun, ha⟩)
    · exact ⟨[], events, closing, rest, s, rfl, rfl, ha⟩
    · refine ⟨event :: before, after, closing, rest, u, rfl, ?_, ha⟩
      rw [run?, h, Option.bind_some]
      exact hrun

theorem mem_detached_performStage {closing : Closing} {stage : Stage} {rest : List Stage} {thread : Option Nat} :
    worker ∈ (s.performStage thread closing stage rest).history.detached ↔
      worker ∈ s.history.detached ∨ thread = some worker ∧ stage = .shutDown worker := by
  unfold performStage
  split
  · next error hp =>
    refine ⟨.inl, fun hw => hw.resolve_right ?_⟩
    rintro ⟨-, rfl⟩
    rw [Component.outcome_perform_shutDown] at hp
    cases hp
  · exact mem_detached_noteStage

/-- Nothing else makes a worker close its own queue. -/
theorem mem_detached_of_step {event : Event ρ} (h : s.step? event = some s') : worker ∈ s'.history.detached ↔
    worker ∈ s.history.detached ∨ event = .advance (some worker) ∧
      ∃ closing rest, s.activity (some worker) = some (closing, .shutDown worker :: rest) := by
  cases step_of_step? h with
  | request | work | resume => simp
  | start | finish => simp [setActivity]
  | @advance thread closing stage rest ha =>
    rw [mem_detached_performStage]
    refine or_congr_right ⟨?_, ?_⟩
    · rintro ⟨rfl, rfl⟩
      exact ⟨rfl, closing, rest, ha⟩
    · rintro ⟨hevent, closing', rest', ha'⟩
      cases hevent
      rw [ha] at ha'
      cases ha'
      exact ⟨rfl, rfl⟩

/-- The workers that closed their own queue are those on which a receiver closed their session. -/
theorem mem_detached_of_run (hrun : s.run? events = some s') :
    worker ∈ s'.history.detached ↔ worker ∈ s.history.detached ∨ s.ClosedFromWithin events worker := by
  induction events generalizing s with
  | nil =>
    cases hrun
    refine ⟨.inl, fun hw => hw.resolve_right ?_⟩
    rintro ⟨before, after, -, -, -, hevents, -⟩
    cases before <;> cases hevents
  | cons event rest ih =>
    obtain ⟨t, ht, hrest⟩ := Option.bind_eq_some_iff.1 hrun
    rw [ih hrest, mem_detached_of_step ht, closedFromWithin_cons ht, or_assoc]

theorem handled_step (he : s.component.handling? worker = some e) :
    (s.step? (.work worker)).map (·.history.handled) = some (s.history.handled ++ [e]) := by
  obtain ⟨q, kind, payload, hq, hphase, -⟩ := handling?_eq_some he
  have hwork : s.component.work? worker = some (s.component.dispatch worker q kind payload) := by
    simp only [Component.work?, hq, hphase]
  rw [step?, hwork, he]
  rfl

/-- Whoever makes calls, a worker handles the messages that the session with its number accepted, and it handles them
against that session exactly if no receiver on the worker has closed it. If one has, it handles them against none or
against a later one. -/
theorem handling_session_iff (hrun : initial.run? events = some s) (he : s.component.handling? worker = some e) :
    e.message ∈ s.history.acceptedBy worker ∧
      (s.step? (.work worker)).map (·.history.handled) = some (s.history.handled ++ [e]) ∧
      (e.session = some (worker, .ofSession worker) ↔ ¬ initial.ClosedFromWithin events worker) ∧
      (initial.ClosedFromWithin events worker → ∀ number handle, e.session = some (number, handle) →
        worker < number ∧ handle = .ofSession number) := by
  have hsound := sound_of_run hrun
  have hdetached : worker ∈ s.history.detached ↔ initial.ClosedFromWithin events worker := by
    rw [mem_detached_of_run hrun]
    exact or_iff_right List.not_mem_nil
  refine ⟨hsound.mem_acceptedBy he, handled_step he, ?_, ?_⟩
  · rw [← hdetached]
    refine ⟨fun hown hw => ?_, hsound.session_of_attached he⟩
    exact Nat.lt_irrefl _ (hsound.lt_of_detached he hw hown).1
  · intro hclosed number handle hs
    exact hsound.lt_of_detached he (hdetached.2 hclosed) hs

/-- The receiver closes the session during the first of two messages, and before it returns the caller opens the next
session. Then the worker takes up the second message. -/
def reopening : List (Event Unit) :=
  loading ++ openings 0 ++ [.request none activeSource, .request none activeSource, .work 0, .work 0,
    .start (some 0) (.session (.ofSession 0)), .advance (some 0), .advance (some 0), .advance (some 0),
    .finish (some 0)] ++ openings 1 ++ [.resume 0, .work 0]

theorem leftover_session_of_reopening : ∃ s e, initial.run? reopening = some s ∧
    s.component.handling? 0 = some e ∧ e.session = some (1, .ofSession 1) ∧ e.message ∈ s.history.acceptedBy 0 ∧
      initial.ClosedFromWithin reopening 0 := by
  have hrun : ((initial.run? reopening).bind fun s => s.component.handling? 0).map Handling.session =
      some (some (1, .ofSession 1)) := by decide +kernel
  obtain ⟨e, he, hsession⟩ := Option.map_eq_some_iff.1 hrun
  obtain ⟨s, hs, he⟩ := Option.bind_eq_some_iff.1 he
  obtain ⟨hmessage, -, hown, -⟩ := handling_session_iff hs he
  refine ⟨s, e, hs, he, hsession, hmessage, ?_⟩
  by_contra hnot
  rw [hown.2 hnot] at hsession
  cases hsession

/-- A message that the first session accepted is handled against the second one. -/
theorem exists_handled_by_later_session : ∃ (s : System Unit) (e : Handling Unit),
    initial.run? (reopening ++ [.work 0]) = some s ∧ e ∈ s.history.handled ∧
      e.message ∈ s.history.acceptedBy e.worker ∧ e.session = some (e.worker + 1, .ofSession (e.worker + 1)) := by
  have hrun : ((initial.run? (reopening ++ [.work 0])).bind fun s => s.history.handled.find? fun e =>
      e.message ∈ s.history.acceptedBy e.worker ∧
        e.session = some (e.worker + 1, .ofSession (e.worker + 1))).isSome := by decide +kernel
  obtain ⟨e, he⟩ := Option.isSome_iff_exists.1 hrun
  obtain ⟨s, hs, hfind⟩ := Option.bind_eq_some_iff.1 he
  have hfound := List.find?_some hfind
  rw [decide_eq_true_iff] at hfound
  exact ⟨s, e, hs, List.mem_of_find?_eq_some hfind, hfound.1, hfound.2⟩

end CecBus.System
