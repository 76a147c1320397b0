import Mathlib.Data.List.Basic
import CecBus.Component

/-! The order of messages in one queue. `Tracks` accounts for every message that a queue accepted: it was handled, or
the worker holds it, or it waits, in this order. An exit message is the last one that waits, so nothing is lost when
the worker stops. Every operation on a queue has one lemma here. -/

namespace CecBus.Queue

variable {ρ : Type} {q : Queue (Task ρ)} {accepted handled : List Message} {message : Message} {kind : MessageKind}
  {payload : ByteArray}

/-- The message that the worker holds. -/
def held (q : Queue (Task ρ)) : List Message :=
  match q.phase with
  | .busy (.holding kind payload) => [.control kind payload]
  | _ => []

/-- The call that the worker waits for. -/
def call? (q : Queue (Task ρ)) : Option (ρ × Handle × List UInt8) :=
  match q.phase with
  | .busy (.calling receiver handle frame) => some (receiver, handle, frame)
  | _ => none

def letters (q : Queue (Task ρ)) : List Message := q.waiting.filter (· ≠ .exit)

/-- Every accepted message is accounted for, in order. -/
structure Tracks (q : Queue (Task ρ)) (accepted handled : List Message) : Prop where
  accounted : accepted = handled ++ q.held ++ q.letters
  exit_last : Message.exit ∈ q.waiting → ∃ before, q.waiting = before ++ [.exit] ∧ Message.exit ∉ before
  closed_of_exit : Message.exit ∈ q.waiting → q.isOpen = false
  closed_of_stopped : q.isStopped → q.isOpen = false
  empty_of_stopped : q.isStopped → q.waiting = []

theorem isStopped_iff {τ : Type} {q : Queue τ} : q.isStopped ↔ q.phase = .stopped := by
  unfold isStopped
  cases q.phase <;> simp

/-! What a worker does depends on the phase of its queue alone. -/

theorem isStopped_congr {τ : Type} {q q' : Queue τ} (h : q'.phase = q.phase) : q'.isStopped = q.isStopped := by
  rw [isStopped, h, isStopped]

theorem held_congr {q' : Queue (Task ρ)} (h : q'.phase = q.phase) : q'.held = q.held := by
  rw [held, h, held]

theorem call?_congr {q' : Queue (Task ρ)} (h : q'.phase = q.phase) : q'.call? = q.call? := by
  rw [call?, h, call?]

theorem call?_of_isStopped (h : q.isStopped) : q.call? = none := by
  rw [call?, isStopped_iff.1 h]

theorem isStopped_of_busy {task : Task ρ} (h : q.phase = .busy task) : q.isStopped = false := by
  rw [isStopped, h]

theorem isStopped_of_idle (h : q.phase = .idle) : q.isStopped = false := by
  rw [isStopped, h]

theorem isStopped_of_call? (h : q.call?.isSome) : q.isStopped = false := by
  rw [Bool.eq_false_iff]
  intro hs
  rw [call?_of_isStopped hs] at h
  cases h

theorem tracks_ofCapacity (capacity : Nat) : (ofCapacity capacity : Queue (Task ρ)).Tracks [] [] :=
  ⟨rfl, nofun, nofun, nofun, nofun⟩

theorem Tracks.eq_of_stopped (h : q.Tracks accepted handled) (hs : q.isStopped) : accepted = handled := by
  have hphase := isStopped_iff.1 hs
  rw [h.accounted, letters, h.empty_of_stopped hs, held, hphase]
  simp

/-! ### Handing a message in -/

theorem value_enqueue {τ : Type} (q : Queue τ) (message : Message) :
    ((q.enqueue message).value.1.isOk ↔ q.isClosed = false ∧ q.isFull = false) ∧
      (q.enqueue message).value.2.waiting =
        (if (q.enqueue message).value.1.isOk then q.waiting ++ [message] else q.waiting) ∧
      (q.enqueue message).value.2.isOpen = q.isOpen ∧ (q.enqueue message).value.2.phase = q.phase := by
  unfold enqueue
  cases q.isClosed <;> cases q.isFull <;> simp [Except.isOk, Except.toBool]

theorem Tracks.enqueue (h : q.Tracks accepted handled) (hm : message ≠ .exit) :
    (q.enqueue message).value.2.Tracks
      (if (q.enqueue message).value.1.isOk then accepted ++ [message] else accepted) handled := by
  obtain ⟨hok, hwaiting, hopen, hphase⟩ := value_enqueue q message
  have hheld := held_congr hphase
  have hstopped := isStopped_congr hphase
  by_cases hk : (q.enqueue message).value.1.isOk
  · simp only [hk, if_true] at hwaiting ⊢
    have hopened : q.isOpen = true ∧ q.isStopped = false := by
      have hclosed := (hok.1 hk).1
      simpa [isClosed] using hclosed
    have hexit : Message.exit ∉ q.waiting := by
      intro hmem
      have hclosed := h.closed_of_exit hmem
      rw [hopened.1] at hclosed
      cases hclosed
    have hnone : Message.exit ∉ (q.enqueue message).value.2.waiting := by
      rw [hwaiting, List.mem_append, List.mem_singleton]
      rintro (hmem | hmem)
      · exact hexit hmem
      · exact hm hmem.symm
    refine ⟨?_, fun hmem => absurd hmem hnone, fun hmem => absurd hmem hnone, fun hs => ?_, fun hs => ?_⟩
    · rw [hheld, letters, hwaiting, h.accounted, letters, List.filter_append, List.append_assoc]
      simp [hm]
    · rw [hstopped, hopened.2] at hs
      cases hs
    · rw [hstopped, hopened.2] at hs
      cases hs
  · simp only [hk, Bool.false_eq_true, if_false] at hwaiting ⊢
    refine ⟨?_, ?_, ?_, ?_, ?_⟩
    · rw [hheld, letters, hwaiting, ← letters]
      exact h.accounted
    · rw [hwaiting]
      exact h.exit_last
    · rw [hwaiting, hopen]
      exact h.closed_of_exit
    · rw [hstopped, hopen]
      exact h.closed_of_stopped
    · rw [hstopped, hwaiting]
      exact h.empty_of_stopped

/-! ### Taking a message out -/

theorem receive?_spec {step : Logged (Queue (Task ρ))} (hs : q.receive? Task.holding = some step) :
    step.value.isOpen = q.isOpen ∧ q.phase = .idle ∧ step.value.call? = none := by
  unfold receive? at hs
  split at hs
  · next hphase _ => cases hs; exact ⟨rfl, hphase, rfl⟩
  · next hphase _ => cases hs; exact ⟨rfl, hphase, rfl⟩
  · next hphase _ =>
    split at hs
    · cases hs
    · cases hs; exact ⟨rfl, hphase, rfl⟩
  · cases hs

theorem Tracks.receive (h : q.Tracks accepted handled) {step : Logged (Queue (Task ρ))}
    (hs : q.receive? Task.holding = some step) : step.value.Tracks accepted handled := by
  unfold receive? at hs
  split at hs
  · next rest hphase hwaiting =>
    cases hs
    obtain ⟨before, hbefore, hnot⟩ := h.exit_last (by rw [hwaiting]; exact List.mem_cons_self)
    have hempty : before = [] := by
      cases before with
      | nil => rfl
      | cons first before =>
        rw [hwaiting, List.cons_append, List.cons.injEq] at hbefore
        exact absurd (hbefore.1 ▸ List.mem_cons_self) hnot
    have hclosed := h.closed_of_exit (by rw [hwaiting]; exact List.mem_cons_self)
    refine ⟨?_, nofun, nofun, fun _ => hclosed, fun _ => rfl⟩
    rw [h.accounted, held, hphase, letters, hbefore, hempty]
    rfl
  · next kind payload rest hphase hwaiting =>
    cases hs
    refine ⟨?_, fun hmem => ?_, fun hmem => ?_, nofun, nofun⟩
    · rw [h.accounted, held, hphase, letters, hwaiting]
      simp [held, letters]
    · obtain ⟨before, hbefore, hnot⟩ := h.exit_last (by rw [hwaiting]; exact List.mem_cons_of_mem _ hmem)
      cases before with
      | nil =>
        rw [hwaiting] at hbefore
        cases hbefore
      | cons first before =>
        rw [hwaiting, List.cons_append, List.cons.injEq] at hbefore
        exact ⟨before, hbefore.2, fun hin => hnot (List.mem_cons_of_mem _ hin)⟩
    · exact h.closed_of_exit (by rw [hwaiting]; exact List.mem_cons_of_mem _ hmem)
  · next hphase hwaiting =>
    split at hs
    · cases hs
    · next hopen =>
      cases hs
      have hclosed : q.isOpen = false := by simpa using hopen
      refine ⟨?_, nofun, nofun, fun _ => hclosed, fun _ => rfl⟩
      rw [h.accounted, held, hphase, letters, hwaiting]
      rfl
  · cases hs

/-! ### Handling a message -/

theorem Tracks.handle (h : q.Tracks accepted handled) (hphase : q.phase = .busy (.holding kind payload))
    {q' : Queue (Task ρ)} (hwaiting : q'.waiting = q.waiting) (hopen : q'.isOpen = q.isOpen) (hheld : q'.held = [])
    (hstopped : q'.isStopped = false) : q'.Tracks accepted (handled ++ [.control kind payload]) := by
  refine ⟨?_, ?_, ?_, ?_, ?_⟩
  · rw [h.accounted, hheld, letters, letters, hwaiting, held, hphase]
    simp
  · rw [hwaiting]
    exact h.exit_last
  · rw [hwaiting, hopen]
    exact h.closed_of_exit
  · rw [hstopped]
    exact nofun
  · rw [hstopped]
    exact nofun

theorem Tracks.congr (h : q.Tracks accepted handled) {q' : Queue (Task ρ)} (hwaiting : q'.waiting = q.waiting)
    (hopen : q.isOpen = false → q'.isOpen = false) (hheld : q'.held = q.held)
    (hstopped : q'.isStopped → q.isStopped) : q'.Tracks accepted handled := by
  refine ⟨?_, ?_, fun hmem => ?_, fun hs => hopen (h.closed_of_stopped (hstopped hs)), fun hs => ?_⟩
  · rw [hheld, letters, hwaiting]
    exact h.accounted
  · rw [hwaiting]
    exact h.exit_last
  · rw [hwaiting] at hmem
    exact hopen (h.closed_of_exit hmem)
  · rw [hwaiting]
    exact h.empty_of_stopped (hstopped hs)

/-! ### Closing a queue -/

theorem value_requestExit {τ : Type} (q : Queue τ) :
    q.requestExit.value.isOpen = false ∧ q.requestExit.value.phase = q.phase ∧
      (q.requestExit.value.waiting = q.waiting ∨
        q.isOpen = true ∧ q.isStopped = false ∧ q.requestExit.value.waiting = q.waiting ++ [.exit]) := by
  unfold requestExit
  cases ho : q.isOpen <;> cases hs : q.isStopped <;> cases hf : q.isFull <;> simp [ho]

theorem value_detach (q : Queue (Task ρ)) :
    q.detach.value.isOpen = false ∧ q.detach.value.phase = q.phase ∧ q.detach.value.waiting = q.waiting := by
  unfold detach
  cases ho : q.isOpen <;> simp [ho]

theorem Tracks.detach (h : q.Tracks accepted handled) : q.detach.value.Tracks accepted handled := by
  obtain ⟨hopen, hphase, hwaiting⟩ := value_detach q
  exact h.congr hwaiting (fun _ => hopen) (held_congr hphase) fun hs => by rwa [isStopped_congr hphase] at hs

theorem Tracks.requestExit (h : q.Tracks accepted handled) : q.requestExit.value.Tracks accepted handled := by
  obtain ⟨hopen, hphase, hwaiting⟩ := value_requestExit q
  have hheld := held_congr hphase
  have hstopped := isStopped_congr hphase
  rcases hwaiting with hwaiting | ⟨hwasOpen, hrunning, hwaiting⟩
  · exact h.congr hwaiting (fun _ => hopen) hheld fun hs => by rwa [hstopped] at hs
  · have hexit : Message.exit ∉ q.waiting := by
      intro hmem
      have hclosed := h.closed_of_exit hmem
      rw [hwasOpen] at hclosed
      cases hclosed
    refine ⟨?_, fun _ => ⟨q.waiting, hwaiting, hexit⟩, fun _ => hopen, fun _ => hopen, fun hs => ?_⟩
    · rw [hheld, letters, hwaiting, List.filter_append, h.accounted, letters]
      simp
    · rw [hstopped, hrunning] at hs
      cases hs

/-- A queue that was closed in one of the two ways. -/
def ClosesTo (q q' : Queue (Task ρ)) : Prop := q' = q.detach.value ∨ q' = q.requestExit.value

theorem ClosesTo.phase {q' : Queue (Task ρ)} (h : q.ClosesTo q') : q'.phase = q.phase := by
  rcases h with rfl | rfl
  · exact q.value_detach.2.1
  · exact q.value_requestExit.2.1

theorem ClosesTo.tracks {q' : Queue (Task ρ)} (h : q.ClosesTo q') (ht : q.Tracks accepted handled) :
    q'.Tracks accepted handled := by
  rcases h with rfl | rfl
  · exact ht.detach
  · exact ht.requestExit

end CecBus.Queue
