import CecBus.Bus.Handling
import CecBus.Proofs.Outcome

/-! How severe the reports of an operation are. Reading a document, giving addresses, adding and removing devices report
warnings at most, so that an error in the report of a state message is the fault for which it was refused. Main result:
`Bus.failed_handle_state`. -/

namespace CecBus

variable {ε δ α β : Type}

namespace Logged

@[simp] theorem failed_pure (a : α) : (pure a : Logged α).failed = false := rfl

@[simp] theorem failed_bind (x : Logged α) (f : α → Logged β) :
    (x >>= f).failed = (x.failed || (f x.value).failed) := by
  rw [failed, failed, failed, entries_bind, List.any_append]

@[simp] theorem failed_map (f : α → β) (x : Logged α) : (f <$> x).failed = x.failed := by
  rw [failed, failed, entries_map]

@[simp] theorem failed_report (level : Level) (message : String) :
    (report level message).failed = decide (level = .error) := by
  simp [failed]

@[simp] theorem failed_reportInfo (messages : List String) : (reportInfo messages).failed = false := by
  simp [failed, reportInfo, reportAll]

theorem failed_foldlM {f : β → α → Logged β} (hf : ∀ b a, (f b a).failed = false) (b : β) (l : List α) :
    (l.foldlM f b).failed = false := by
  induction l generalizing b with
  | nil => rfl
  | cons a l ih => rw [List.foldlM_cons, failed_bind, hf, ih, Bool.or_false]

end Logged

/-! ### Operations that may fail -/

/-- Two operations one after the other report an error if the first one does, or it succeeds and the second one does. -/
theorem failed_run_bind (x : Attempt ε α) (f : α → Attempt ε β) : (ExceptT.run (x >>= f)).failed ↔
    (ExceptT.run x).failed ∨ ∃ a, outcome x = .ok a ∧ (ExceptT.run (f a)).failed := by
  change (ExceptT.run x >>= ExceptT.bindCont f).failed ↔ _
  rw [Logged.failed_bind, Bool.or_eq_true, outcome]
  cases (ExceptT.run x).value with
  | ok a => simp [ExceptT.bindCont, ExceptT.run]
  | error e => simp [ExceptT.bindCont]

theorem failed_run_except (x : Except ε α) : (ExceptT.run (liftM x : Attempt ε α)).failed = false := rfl

/-- An operation that reports warnings at most, whether it succeeds or not. -/
def Mild (x : Attempt ε α) : Prop := (ExceptT.run x).failed = false

namespace Mild

theorem pure (a : α) : Mild (pure a : Attempt ε α) := rfl

theorem throw (e : ε) : Mild (throw e : Attempt ε α) := rfl

theorem logged {x : Logged α} (h : x.failed = false) : Mild (liftM x : Attempt ε α) := by
  change ((Except.ok <$> x : Logged (Except ε α))).failed = false
  rwa [Logged.failed_map]

theorem except (x : Except ε α) : Mild (liftM x : Attempt ε α) := failed_run_except x

theorem report {level : Level} (h : level ≠ .error) (message : String) :
    Mild (liftM (report level message) : Attempt ε Unit) := logged (by simp [h])

theorem bind {x : Attempt ε α} {f : α → Attempt ε β} (hx : Mild x) (hf : ∀ a, Mild (f a)) : Mild (x >>= f) := by
  rw [Mild, ← Bool.not_eq_true, failed_run_bind]
  rintro (hfailed | ⟨a, -, hfailed⟩)
  · exact Bool.false_ne_true (hx.symm.trans hfailed)
  · exact Bool.false_ne_true ((hf a).symm.trans hfailed)

theorem adapt (f : ε → δ) {x : Attempt ε α} (h : Mild x) : Mild (ExceptT.adapt f x : Attempt δ α) := by
  change (Except.mapError f <$> ExceptT.run x).failed = false
  rwa [Logged.failed_map]

end Mild

/-! ### Reading devices -/

namespace Device

theorem mild_spelled (device what : String) (find? : String → Option α) (unknown : α) (spelling : String) :
    Mild (spelled device what find? unknown spelling) := by
  unfold spelled
  split
  · exact .pure _
  · exact .bind (.report (by decide) _) fun _ => .pure _

theorem mild_spelled? (device what : String) (find? : String → Option α) (unknown : α) (spelling : Option String) :
    Mild (spelled? device what find? unknown spelling) := by
  cases spelling with
  | none => exact .pure _
  | some spelling => exact mild_spelled device what find? unknown spelling

theorem mild_reading (result : Except ProfileError α) : Mild (reading result) := rfl

theorem mild_ofSection (s : Section) : Mild (ofSection s) := by
  unfold ofSection
  refine .bind (mild_reading _) fun name => .bind (mild_reading _) fun active => .bind (mild_reading _) fun power =>
    .bind (mild_spelled? _ _ _ _ _) fun _ => .bind (mild_reading _) fun version => .bind (mild_reading _) fun vendor =>
    .bind (mild_spelled? _ _ _ _ _) fun _ => .bind (mild_reading _) fun kind =>
    .bind (mild_spelled? _ _ _ _ _) fun _ => .bind (mild_reading _) fun number => .bind (.except _) fun port =>
    .bind (mild_reading _) fun declared => .pure _

end Device

namespace DeviceTree

theorem mild_loadDevice (s : Section) : Mild (loadDevice s) :=
  .bind (Device.mild_ofSection s) fun _ => .bind (.except _) fun _ => .pure _

theorem mild_loadChildren {below : DeviceId → Section → Nat → DeviceTree → Attempt TreeError DeviceTree}
    (hbelow : ∀ id s declared t, Mild (below id s declared t)) (parent : DeviceId) (s : Section) (left index : Nat)
    (t : DeviceTree) : Mild (loadChildren below parent s left index t) := by
  induction left generalizing index t with
  | zero => exact .pure t
  | succ left ih =>
    exact .bind (mild_loadDevice _) fun _ => .bind (.except _) fun _ => .bind (hbelow _ _ _ _) fun _ => ih _ _

theorem mild_loadBelow (depth : Nat) (parent : DeviceId) (s : Section) (declared : Nat) (t : DeviceTree) :
    Mild (loadBelow depth parent s declared t) := by
  induction depth generalizing parent s declared t with
  | zero => exact .pure t
  | succ depth ih => exact mild_loadChildren ih parent s declared 0 t

theorem mild_ofSection (s : Section) : Mild (ofSection s) :=
  .bind (mild_loadDevice s) fun _ => .bind (mild_loadBelow _ _ _ _ _) fun _ =>
    .bind (.report (by decide) _) fun _ => .pure _

theorem failed_insertSection (t : DeviceTree) (parent : DeviceId) (s : Section) :
    (t.insertSection parent s).failed = false := by
  rw [insertSection, Logged.failed_bind, mild_ofSection s, Bool.false_or]
  split
  · rfl
  · split
    · rfl
    · split <;> rfl

/-! ### Addresses, and devices that go -/

theorem failed_logicalFor (device : Device) (waits : Bool) (pool : AddressPool) :
    (logicalFor device waits pool).failed = false := by
  unfold logicalFor AddressPool.allocate
  split
  · rfl
  · split
    · rfl
    · split <;> rfl

theorem failed_assignAddresses (t : DeviceTree) (emulated : DeviceId) (pool : AddressPool) :
    (t.assignAddresses emulated pool).failed = false := by
  refine Logged.failed_foldlM (fun state id => ?_) _ _
  unfold assignDevice
  dsimp only
  split
  · rfl
  · rw [Logged.failed_bind, failed_logicalFor]
    rfl

theorem mild_removeSubtree (t : DeviceTree) (id : DeviceId) : Mild (t.removeSubtree id) := by
  unfold removeSubtree
  dsimp only
  split
  · exact .throw _
  · cases t.parent? id with
    | none => exact .throw _
    | some parent => exact .bind (.report (by decide) _) fun _ => .pure _

end DeviceTree

/-! ### Messages -/

namespace Bus

variable (b : Bus) (p : Profile)

theorem failed_announce (id : DeviceId) : (b.announce id).failed = false := by
  unfold announce
  split <;> rfl

theorem failed_addDevice : (b.addDevice p).failed = false := by
  unfold addDevice
  dsimp only
  split
  · rfl
  · split
    · rfl
    · rw [Logged.failed_bind, DeviceTree.failed_insertSection, Bool.false_or]
      split
      · rfl
      · simp [assignAddresses, DeviceTree.failed_assignAddresses, failed_announce]

theorem mild_removeDevice : Mild (b.removeDevice p) := by
  unfold removeDevice
  dsimp only
  split
  · split
    · exact .throw _
    · exact .bind (.adapt _ (DeviceTree.mild_removeSubtree _ _)) fun _ => .bind (.report (by decide) _) fun _ => .pure _
  · exact .throw _

theorem failed_orKeep (x : Attempt MessageFault (Option Frame × Bus)) :
    (b.orKeep x).failed = (ExceptT.run x).failed := by
  rw [orKeep, Logged.failed_bind]
  split <;> exact Bool.or_false _

theorem failed_printRequested : (b.printRequested p).failed = false := by
  unfold printRequested
  split <;> simp [printDevices, printPorts, printStatus, DeviceTree.printMap]

theorem failed_changeState : (b.changeState p).failed = false := by
  unfold changeState
  split
  · exact b.failed_addDevice p
  · exact (b.failed_orKeep _).trans (Mild.bind (b.mild_removeDevice p) fun _ => Mild.pure _)
  · rw [Logged.failed_bind, failed_printRequested]
    rfl
  · rfl

theorem failed_apply {kind : MessageKind} (hkind : kind ≠ .command) (payload : ByteArray) :
    (b.apply kind payload).failed = false := by
  unfold Bus.apply
  split
  · cases kind with
    | command => exact absurd rfl hkind
    | state => exact b.failed_changeState _
    | event => rfl
    | config => rfl
  · rfl

/-- Handling a message reports an error on the way, or a fault in the end. -/
theorem failed_handle (kind : MessageKind) (payload : ByteArray) : (b.handle kind payload).failed ↔
    (b.apply kind payload).failed ∨ ∃ fault, (b.apply kind payload).value.1 = .error fault := by
  rw [Bus.handle, Logged.failed_bind, Bool.or_eq_true]
  split
  · next hv => simp [hv]
  · next hv => simp [hv]

/-- An error is reported for a state message exactly when it is refused. -/
theorem failed_handle_state (payload : ByteArray) :
    (b.handle .state payload).failed ↔ ∃ fault, (b.apply .state payload).value.1 = .error fault := by
  rw [failed_handle, b.failed_apply (by decide)]
  simp

end Bus

end CecBus
