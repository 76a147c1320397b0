import CecBus.Proofs.Component.Quiet

/-! The order of messages and frames, as long as no receiver makes a call. What the workers do comes to the same as
handling the accepted messages one after the other. When closing a session returns, nothing is left over, and its
handle is not used until the numbers of sessions come round. -/

namespace CecBus

variable {ρ : Type}

namespace Bus

/-- What a message does to a bus, with the frames so far. -/
def handleNext (result : List Frame × Bus) : Message → List Frame × Bus
  | .control kind payload =>
    let (frame, b) := (result.2.handle kind payload).value
    (result.1 ++ frame.toList, b)
  | .exit => result

/-- What messages do to a bus one after the other, with the frames that come of them. -/
def handleAll (b : Bus) (messages : List Message) : List Frame × Bus := messages.foldl handleNext ([], b)

theorem handleAll_append (b : Bus) (messages : List Message) (message : Message) :
    b.handleAll (messages ++ [message]) = handleNext (b.handleAll messages) message := by
  rw [handleAll, List.foldl_append]
  rfl

end Bus

theorem Handle.lt_add_of_ofSession {number other : Nat} (hlt : number < other)
    (h : Handle.ofSession other = Handle.ofSession number) : number + UInt32.size ≤ other := by
  have hmod : other % UInt32.size = number % UInt32.size := by
    have hgeneration := congrArg (fun handle => handle.generation.toNat) h
    simpa [Handle.ofSession] using hgeneration
  rw [UInt32.size] at hmod ⊢
  omega

namespace System

variable {s s' : System ρ} {event : Event ρ} {events : List (Event ρ)} {worker number : Nat} {handle : Handle}
  {e : Handling ρ}

/-- Every worker handles the messages of its session in the order in which they were accepted, each once and against
that session, and hands the frames to the receiver in the same order. -/
structure Orderly (s : System ρ) : Prop where
  handled (number : Nat) : (s.history.handledBy number).map Handling.message <+: s.history.acceptedBy number
  own : ∀ e ∈ s.history.handled, e.session = some (e.worker, .ofSession e.worker)
  called (number : Nat) : s.history.calledBy number ++ (s.component.calling? number).toList =
    (s.history.handledBy number).filterMap Handling.call?

/-- Every message was handled, and every receiver has returned. -/
structure Drained (s : System ρ) : Prop where
  handled (number : Nat) : (s.history.handledBy number).map Handling.message = s.history.acceptedBy number
  called (number : Nat) : s.history.calledBy number = (s.history.handledBy number).filterMap Handling.call?

/-- As long as no receiver makes a call, receivers are called only for later sessions, and with the handle only for
those that come at least as many sessions later as there are generations. -/
def SilentAfter (s : System ρ) (number : Nat) (handle : Handle) : Prop :=
  ∀ (later : List (Event ρ)) (s' : System ρ), (∀ event ∈ later, event.isQuiet) → s.run? later = some s' →
    ∃ more, s'.history.called = s.history.called ++ more ∧
      ∀ call ∈ more, number < call.1 ∧ (call.2.2.1 = handle → number + UInt32.size ≤ call.1)

namespace Quiet

theorem orderly (h : s.Quiet) : s.Orderly where
  handled number := by
    rw [(h.sound.accounts number).tracks.accounted, List.append_assoc]
    exact List.prefix_append _ _
  own := h.own
  called number := by
    rw [(h.sound.accounts number).calls, Component.calling?_eq_queueOf]

/-- When closing a session returns there is none, and every worker has stopped. -/
theorem stopped_of_isReturning (h : s.Quiet) (hreturning : s.isReturning none (.session handle)) :
    s.component.session = none ∧
      ∃ number, s.component.workers.length = number + 1 ∧ handle = .ofSession number ∧
        ∀ worker < number + 1, s.component.Stopped worker := by
  have hcloses := h.closes handle [] hreturning
  generalize hstages : ([] : List Stage) = stages at hcloses
  cases hcloses with
  | asked => cases hstages
  | tearing phase => cases phase <;> cases hstages
  | @done number hlength hhandle hsession =>
    refine ⟨hsession, number, hlength, hhandle, fun worker hw => ?_⟩
    have hpast := (h.sound.life.isVacant_of_none hsession).past worker (by rwa [hlength])
    rw [h.attached] at hpast
    exact hpast.resolve_right List.not_mem_nil

theorem drained_of_stopped (h : s.Quiet)
    (hstopped : ∀ worker < s.component.workers.length, s.component.Stopped worker) : s.Drained := by
  have hidle : ∀ worker, (s.component.queueOf worker).call? = none ∧
      s.history.acceptedBy worker = (s.history.handledBy worker).map Handling.message := by
    intro worker
    have htracks := (h.sound.accounts worker).tracks
    by_cases hw : worker < s.component.workers.length
    · obtain ⟨q, hq, hs⟩ := hstopped worker hw
      rw [Component.queueOf_eq hq] at htracks ⊢
      exact ⟨Queue.call?_of_isStopped hs, htracks.eq_of_stopped hs⟩
    · have hnone : s.component.queueOf worker = Queue.ofCapacity Queue.usualCapacity := by
        rw [Component.queueOf, List.getElem?_eq_none (Nat.le_of_not_lt hw)]
        rfl
      rw [hnone] at htracks ⊢
      refine ⟨rfl, ?_⟩
      rw [htracks.accounted]
      simp [Queue.held, Queue.letters, Queue.ofCapacity]
  refine ⟨fun number => (hidle number).2.symm, fun number => ?_⟩
  have hcalls := (h.sound.accounts number).calls
  rw [(hidle number).1, Option.toList_none, List.append_nil] at hcalls
  exact hcalls.symm

/-- One more event, after workers up to a number have stopped. -/
theorem called_step (h : s.Quiet) (hstopped : ∀ worker < number + 1, s.component.Stopped worker)
    (hstep : s.step? event = some s') : ∃ more, s'.history.called = s.history.called ++ more ∧
      ∀ call ∈ more, number < call.1 ∧ call.2.2.1 = .ofSession call.1 := by
  cases step_of_step? hstep with
  | request | start | finish | work => exact ⟨[], (List.append_nil _).symm, nofun⟩
  | advance => exact ⟨[], by rw [called_performStage, List.append_nil], nofun⟩
  | @resume worker call _ hc =>
    refine ⟨[(worker, call)], rfl, fun other hmem => ?_⟩
    obtain rfl := List.mem_singleton.1 hmem
    refine ⟨?_, h.handle_of_calling hc⟩
    by_contra hle
    obtain ⟨q, hq, hs⟩ := hstopped worker (Nat.lt_succ_of_le (Nat.le_of_not_lt hle))
    rw [Component.calling?_eq_queueOf, Component.queueOf_eq hq, Queue.call?_of_isStopped hs] at hc
    cases hc

theorem silentAfter (h : s.Quiet) (hstopped : ∀ worker < number + 1, s.component.Stopped worker) :
    s.SilentAfter number (.ofSession number) := by
  intro later s' hquiet hrun
  let P : System ρ → Prop := fun t => t.Quiet ∧ (∀ worker < number + 1, t.component.Stopped worker) ∧
    ∃ more, t.history.called = s.history.called ++ more ∧
      ∀ call ∈ more, number < call.1 ∧ call.2.2.1 = .ofSession call.1
  have hP : P s' := by
    refine run?_induct (P := P) (fun t event u hallowed ⟨ht, hdone, more, hmore, hcalls⟩ hstep => ?_) hquiet
      ⟨h, hstopped, [], (List.append_nil _).symm, nofun⟩ hrun
    obtain ⟨next, hnext, hothers⟩ := ht.called_step hdone hstep
    refine ⟨ht.step hallowed hstep, fun worker hw => stopped_step hstep (hdone worker hw), more ++ next, ?_, ?_⟩
    · rw [hnext, hmore, List.append_assoc]
    · exact List.forall_mem_append.2 ⟨hcalls, hothers⟩
  obtain ⟨-, -, more, hmore, hcalls⟩ := hP
  refine ⟨more, hmore, fun call hcall => ?_⟩
  obtain ⟨hlt, hhandle⟩ := hcalls call hcall
  exact ⟨hlt, fun hsame => Handle.lt_add_of_ofSession hlt (hhandle.symm.trans hsame)⟩

end Quiet

end System

end CecBus
