import CecBus.DeviceTree.Addressing
import CecBus.Proofs.DeviceTree.Change
import CecBus.Proofs.Outcome

/-! What giving addresses does to a tree: one device after the other is changed in its place, and nothing but its
addresses. -/

namespace CecBus

theorem AddressPool.firstFree?_eq_some {pool : AddressPool} {kind : Device.Kind} {a : LogicalAddress}
    (h : pool.firstFree? kind = some a) : a ∈ kind.candidates ∧ a ≠ .broadcast ∧ pool.isTaken a = false := by
  have hfree := List.find?_some h
  simp only [ne_eq, decide_not, Bool.and_eq_true, Bool.not_eq_true', decide_eq_false_iff_not] at hfree
  exact ⟨List.mem_of_find?_eq_some h, hfree⟩

namespace DeviceTree

variable {t u : DeviceTree} {pool : AddressPool} {emulated id x : DeviceId} {device : Device}
  {a : LogicalAddress}

/-- Whether the device with an id waits for its own claim. -/
def waits (t : DeviceTree) (emulated id : DeviceId) : Bool := id = t.root && id = emulated

theorem assignDevice_of_none (h : t.node? id = none) : (assignDevice emulated (t, pool) id).value = (t, pool) := by
  simp [assignDevice, h]

theorem assignDevice_of_some {node : DeviceNode} (h : t.node? id = some node) :
    (assignDevice emulated (t, pool) id).value =
      (t.update id (addressed (t.placeOf node) (logicalFor node.device (t.waits emulated id) pool).value.1),
        (logicalFor node.device (t.waits emulated id) pool).value.2) := by
  simp [assignDevice, h, waits]

/-- What a new place and a new logical address of one device preserve is preserved when all addresses are given. -/
theorem assignAddresses_preserves {P : DeviceTree → AddressPool → Prop}
    (hstep : ∀ u pool id node, P u pool → u.node? id = some node →
      P (u.update id (addressed (u.placeOf node) (logicalFor node.device (u.waits emulated id) pool).value.1))
        (logicalFor node.device (u.waits emulated id) pool).value.2) (h : P t pool) :
    P (t.assignAddresses emulated pool).value.1 (t.assignAddresses emulated pool).value.2 := by
  rw [assignAddresses, Logged.value_foldlM]
  generalize t.members t.root = ids
  induction ids generalizing t pool with
  | nil => exact h
  | cons id rest ih =>
    rw [List.foldl_cons]
    cases hn : t.node? id with
    | none =>
      rw [assignDevice_of_none hn]
      exact ih h
    | some node =>
      rw [assignDevice_of_some hn]
      exact ih (hstep _ _ _ _ h hn)

/-- The logical address that a device is given, and the pool afterwards: it keeps the one it has, or waits for its claim,
or draws one from the pool, or finds none there. -/
inductive Given (device : Device) (waits : Bool) (pool : AddressPool) : LogicalAddress → AddressPool → Prop
  | kept {a : LogicalAddress} (h : device.logical = some a) : Given device waits pool a pool
  | waiting (h : device.logical = none) (hw : waits = true) : Given device waits pool .broadcast pool
  | drawn {a : LogicalAddress} (h : device.logical = none) (hw : waits = false)
    (hfree : pool.firstFree? device.kind = some a) : Given device waits pool a (pool.mark a)
  | spent (h : device.logical = none) (hw : waits = false) (hfree : pool.firstFree? device.kind = none) :
    Given device waits pool .broadcast pool

theorem given_logicalFor (device : Device) (waits : Bool) (pool : AddressPool) :
    Given device waits pool (logicalFor device waits pool).value.1 (logicalFor device waits pool).value.2 := by
  cases hl : device.logical with
  | some a =>
    rw [logicalFor, hl]
    exact .kept hl
  | none =>
    cases waits with
    | true =>
      rw [logicalFor, hl]
      exact .waiting hl rfl
    | false =>
      simp only [logicalFor, hl, Bool.false_eq_true, if_false, AddressPool.allocate]
      cases hf : pool.firstFree? device.kind with
      | none => exact .spent hl rfl hf
      | some a => exact .drawn hl rfl hf

theorem logicalFor_of_some (h : device.logical = some a) (waits : Bool) :
    (logicalFor device waits pool).value = (a, pool) := by
  rw [logicalFor, h]
  rfl

/-! ### Every device gets one -/

def HasAddress (t : DeviceTree) (id : DeviceId) : Prop := ∀ device, t.device? id = some device → device.logical.isSome

theorem hasAddress_assignDevice :
    id = x ∨ t.HasAddress x → (assignDevice emulated (t, pool) id).value.1.HasAddress x := by
  intro h d hd
  cases hn : t.node? id with
  | none =>
    rw [assignDevice_of_none hn] at hd
    rcases h with rfl | h
    · simp [device?, hn] at hd
    · exact h d hd
  | some node =>
    rw [assignDevice_of_some hn, device?_update, Option.map_eq_some_iff] at hd
    obtain ⟨e, he, rfl⟩ := hd
    by_cases hx : x = id
    · rw [if_pos hx]
      rfl
    · rw [if_neg hx]
      exact (h.resolve_left (Ne.symm hx)) e he

theorem hasAddress_assignAll (ids : List DeviceId) (h : x ∈ ids ∨ t.HasAddress x) :
    (ids.foldl (fun state id => (assignDevice emulated state id).value) (t, pool)).1.HasAddress x := by
  induction ids generalizing t pool with
  | nil => exact h.resolve_left List.not_mem_nil
  | cons id rest ih =>
    rw [List.foldl_cons]
    refine ih (t := (assignDevice emulated (t, pool) id).value.1) ?_
    rcases h with hmem | h
    · rcases List.mem_cons.1 hmem with rfl | hmem
      · exact .inr (hasAddress_assignDevice (.inl rfl))
      · exact .inl hmem
    · exact .inr (hasAddress_assignDevice (.inr h))

theorem isLive_assignAddresses (emulated : DeviceId) (pool : AddressPool) :
    (t.assignAddresses emulated pool).value.1.isLive x = t.isLive x :=
  assignAddresses_preserves (P := fun u _ => u.isLive x = t.isLive x)
    (fun u pool id node hu _ => by rw [isLive_update, hu]) rfl

/-- After the addresses are given every device has one. -/
theorem Shows.hasAddress_assignAddresses {top : Branch (DeviceId × Device)} (h : t.Shows top) :
    (t.assignAddresses emulated pool).value.1.HasAddress x := by
  intro d hd
  have hlive : t.isLive x := by
    rw [← isLive_assignAddresses emulated pool]
    exact isLive_of_device? hd
  have hmem : x ∈ t.members t.root := by rw [h.members_root]; exact h.complete x hlive
  rw [assignAddresses, Logged.value_foldlM] at hd
  exact hasAddress_assignAll _ (.inl hmem) d hd

end DeviceTree

end CecBus
