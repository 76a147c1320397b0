import CecBus.Proofs.Bus.Commands
import CecBus.Proofs.Severity

/-! Errors that are reported and frames that go out. An error in the report of a message is its fault, and then nothing
goes out, with one exception: a command that sets a stream path which goes nowhere reports an error on the way, and its
frame goes out all the same, with nothing in it. Main results: `Reachable.reported_and_sent_iff`, that there is no other
exception, and `exists_reported_and_sent`, that there is this one. -/

namespace CecBus.Bus

variable {b : Bus} {p : Profile} {payload : ByteArray} {opcode : Opcode} {initiator : Device}
  {destination : Option Device}

/-! ### Errors on the way to a frame -/

/-- A stream path goes nowhere: it is for everyone, and names no target that is there. -/
structure SetsPathNowhere (b : Bus) (p : Profile) (initiator : Device) : Prop where
  asks : b.Asks p .setStreamPath initiator none
  untargeted : ¬ ∃ target, b.Targets p target

theorem streamTarget?_eq_none (h : b.tree.WellFormed) :
    b.streamTarget? p destination = none ↔ (¬ ∃ target, b.Targets p target) ∧ destination = none := by
  by_cases htarget : ∃ target, b.Targets p target
  · obtain ⟨target, ht⟩ := id htarget
    simp [streamTarget?_of_targets h ht, htarget]
  · simp [streamTarget?_of_not h htarget, htarget]

theorem failed_parameters : (b.parameters p initiator destination opcode).failed ↔
    opcode = .setStreamPath ∧ b.streamTarget? p destination = none := by
  unfold Bus.parameters
  split
  case h_9 => cases b.streamTarget? p destination <;> simp
  all_goals simp_all

/-- An error is reported on the way to a frame exactly when its stream path goes nowhere. -/
theorem failed_commandFrame (h : b.tree.WellFormed) :
    (ExceptT.run (b.commandFrame p)).failed ↔ ∃ initiator, b.SetsPathNowhere p initiator := by
  have hfailed : (ExceptT.run (b.commandFrame p)).failed ↔ ∃ opcode initiator destination,
      b.Asks p opcode initiator destination ∧ (b.parameters p initiator destination opcode).failed := by
    simp only [asks_iff h]
    unfold Bus.commandFrame
    dsimp only
    cases Opcode.ofName? (p.field "command") with
    | none => simp
    | some opcode =>
      cases b.tree.deviceNamed? (p.field "initiator") with
      | none =>
        refine iff_of_false (Bool.eq_false_iff.1 ?_) (by simp)
        exact Mild.bind (Mild.report (by decide) _) fun _ => Mild.throw _
      | some initiator =>
        simp only [failed_run_bind, failed_run_except, ExceptT.run_liftM, bind_pure_comp, ExceptT.run_map,
          Logged.failed_map, Logged.failed_report, outcome_liftM_logged, outcome_liftM_except, Option.some.injEq,
          and_assoc, exists_eq_left', exists_and_left, exists_const, reduceCtorEq, decide_false, Bool.false_eq_true,
          true_and, false_or]
  rw [hfailed]
  constructor
  · rintro ⟨opcode, initiator, destination, hasks, hfailed⟩
    obtain ⟨rfl, htarget⟩ := failed_parameters.1 hfailed
    obtain ⟨huntargeted, rfl⟩ := (streamTarget?_eq_none h).1 htarget
    exact ⟨initiator, hasks, huntargeted⟩
  · rintro ⟨initiator, hasks, huntargeted⟩
    exact ⟨_, initiator, none, hasks, failed_parameters.2 ⟨rfl, (streamTarget?_eq_none h).2 ⟨huntargeted, rfl⟩⟩⟩

/-! ### Errors and frames -/

/-- An error is reported for a command exactly when no frame goes out, or that of a stream path that goes nowhere. -/
theorem failed_handle_command (h : b.tree.WellFormed) (payload : ByteArray) : (b.handle .command payload).failed ↔
    (b.handle .command payload).value.1 = none ∨
      ∃ p initiator, Profile.ofBytes payload = .ok p ∧ b.SetsPathNowhere p initiator := by
  rw [failed_handle]
  cases hp : Profile.ofBytes payload with
  | error e =>
    refine iff_of_true (.inr ⟨.document .command e, ?_⟩) (.inl (handle_command_of_error hp))
    rw [Bus.apply, hp]
    rfl
  | ok p =>
    have hreported : (b.apply .command payload).failed ↔ ∃ initiator, b.SetsPathNowhere p initiator := by
      rw [apply_of_ok hp, applyDocument, failed_orKeep, failed_run_bind, failed_commandFrame h]
      refine or_iff_left ?_
      rintro ⟨frame, -, hdelivered⟩
      refine Bool.eq_false_iff.1 ?_ hdelivered
      exact Mild.bind (Mild.report (by decide) _) fun _ => Mild.pure _
    have hrefused : (∃ fault, (b.apply .command payload).value.1 = .error fault) ↔
        (outcome (b.commandFrame p)).toOption = none := by
      simp only [apply_of_ok hp, applyDocument, value_orKeep, outcome_bind]
      cases outcome (b.commandFrame p) <;> simp [Except.bind, Except.toOption]
    rw [handle_command_of_ok hp, hreported, hrefused, or_comm]
    simp

/-- For all other messages nothing goes out when an error is reported. -/
theorem frame_eq_none_of_failed {kind : MessageKind} (hkind : kind ≠ .command) (h : (b.handle kind payload).failed) :
    (b.handle kind payload).value.1 = none := by
  rw [failed_handle, b.failed_apply hkind] at h
  obtain ⟨fault, hfault⟩ := h.resolve_left Bool.false_ne_true
  rw [value_handle, hfault]
  rfl

theorem SetsPathNowhere.frame (h : b.SetsPathNowhere p initiator) (hw : b.tree.WellFormed) :
    outcome (b.commandFrame p) = .ok (Frame.addressed initiator.sender .broadcast (some .setStreamPath)) := by
  have hnone := (streamTarget?_eq_none hw).2 ⟨h.untargeted, rfl⟩
  refine (commandFrame_eq_ok hw).2 ⟨_, initiator, none, h.asks, ?_⟩
  rw [Bus.parameters, hnone]
  rfl

/-- On every reachable bus, whatever the message: an error is reported and a frame goes out all the same exactly when
the message is a command with a stream path that goes nowhere. That frame is for everyone and carries nothing. -/
theorem Reachable.reported_and_sent_iff (h : b.Reachable) (kind : MessageKind) (payload : ByteArray) :
    ((b.handle kind payload).failed ∧ (b.handle kind payload).value.1.isSome ↔
        kind = .command ∧ ∃ p initiator, Profile.ofBytes payload = .ok p ∧ b.SetsPathNowhere p initiator) ∧
      ∀ frame, (b.handle kind payload).failed → (b.handle kind payload).value.1 = some frame →
        ∃ sender, frame = Frame.addressed sender .broadcast (some .setStreamPath) := by
  have hw := h.sound.wellFormed
  have hnowhere : (b.handle kind payload).failed → (b.handle kind payload).value.1.isSome →
      kind = .command ∧ ∃ p initiator, Profile.ofBytes payload = .ok p ∧ b.SetsPathNowhere p initiator := by
    intro hfailed hsome
    by_cases hkind : kind = .command
    · subst hkind
      refine ⟨rfl, ((failed_handle_command hw payload).1 hfailed).resolve_left fun hnone => ?_⟩
      rw [hnone] at hsome
      cases hsome
    · rw [frame_eq_none_of_failed hkind hfailed] at hsome
      cases hsome
  refine ⟨⟨fun hboth => hnowhere hboth.1 hboth.2, ?_⟩, fun frame hfailed hframe => ?_⟩
  · rintro ⟨rfl, p, initiator, hp, hpath⟩
    refine ⟨(failed_handle_command hw payload).2 (.inr ⟨p, initiator, hp, hpath⟩), ?_⟩
    rw [handle_command_of_ok hp, hpath.frame hw]
    rfl
  · obtain ⟨rfl, p, initiator, hp, hpath⟩ := hnowhere hfailed (by rw [hframe]; rfl)
    rw [handle_command_of_ok hp, hpath.frame hw] at hframe
    exact ⟨initiator.sender, (Option.some.inj hframe).symm⟩

/-- A command that has the television set a stream path for everyone. -/
def pathNowhere : ByteArray :=
  "\x7b\"command\":\"SetStreamPath\",\"initiator\":\"TV\",\"destination\":\"broadcast\"\x7d".toUTF8

theorem televisionBus_pathNowhere : ∃ p initiator frame, Profile.ofBytes pathNowhere = .ok p ∧
    televisionBus.SetsPathNowhere p initiator ∧ (televisionBus.handle .command pathNowhere).value.1 = some frame ∧
      frame.bytes = [0x0f, 0x86] := by
  have hboth : (televisionBus.handle .command pathNowhere).failed ∧
      (televisionBus.handle .command pathNowhere).value.1.isSome := by decide +kernel
  have hbytes : (televisionBus.handle .command pathNowhere).value.1.map Frame.bytes = some [0x0f, 0x86] := by
    decide +kernel
  obtain ⟨frame, hframe, hread⟩ := Option.map_eq_some_iff.1 hbytes
  obtain ⟨-, p, initiator, hp, hpath⟩ :=
    (Reachable.reported_and_sent_iff reachable_televisionBus .command pathNowhere).1.1 hboth
  exact ⟨p, initiator, frame, hp, hpath, hframe, hread⟩

/-- A bus on which an error is reported for a command and its frame goes out all the same. -/
theorem exists_reported_and_sent : ∃ (b : Bus) (payload : ByteArray) (frame : Frame), b.Reachable ∧
    (b.handle .command payload).failed ∧ (b.handle .command payload).value.1 = some frame := by
  have hfailed : (televisionBus.handle .command pathNowhere).failed := by decide +kernel
  have hsome : (televisionBus.handle .command pathNowhere).value.1.isSome := by decide +kernel
  obtain ⟨frame, hframe⟩ := Option.isSome_iff_exists.1 hsome
  exact ⟨televisionBus, pathNowhere, frame, reachable_televisionBus, hfailed, hframe⟩

end CecBus.Bus
