import CecBus.Proofs.Bus.Agreement
import CecBus.Proofs.DeviceTree.Generations
import CecBus.Proofs.DeviceTree.Staging

/-! Giving addresses once more. Callers give addresses to the whole tree after every change, with a pool that may or may
not agree with it. `Drawn` is what one device after the other preserves: the pool marks what it marked and what was newly
drawn from it, and nothing is drawn twice. A tree in which every device has an address and stands in its place is
`Settled`, and giving addresses to such a tree does nothing. Main result: `Handled.incremental_assignAddresses`. -/

namespace CecBus

namespace DeviceTree

variable {t u : DeviceTree} {pool pool' pool'' : AddressPool} {emulated id x : DeviceId} {device : Device}
  {a : LogicalAddress}

/-! ### What is newly drawn -/

/-- A device without a logical address had none before either. -/
theorem Readdressed.exists_logical_eq_none (h : t.Readdressed u) (hd : u.device? id = some device)
    (hl : device.logical = none) :
    ∃ old, t.device? id = some old ∧ old.logical = none := by
  obtain ⟨old, hold, he⟩ := h.exists_of_device? hd
  refine ⟨old, hold, Option.eq_none_iff_forall_ne_some.2 fun b hb => ?_⟩
  rw [he.logical b hb] at hl
  cases hl

/-- A device that had no logical address has one of its own in another tree. -/
def Drew (t u : DeviceTree) (id : DeviceId) (a : LogicalAddress) : Prop :=
  (∃ device, t.device? id = some device ∧ device.logical = none) ∧ u.own? id = some a

/-- A pool has lost what devices drew from it: addresses that were free, each to one device, and no others. -/
structure Drawn (t : DeviceTree) (pool : AddressPool) (u : DeviceTree) (pool' : AddressPool) : Prop where
  taken_iff (a : LogicalAddress) : pool'.isTaken a ↔ pool.isTaken a ∨ ∃ id, t.Drew u id a
  free (id : DeviceId) (a : LogicalAddress) : t.Drew u id a → pool.isTaken a = false
  once (id x : DeviceId) (a : LogicalAddress) : t.Drew u id a → t.Drew u x a → id = x

namespace Drawn

theorem refl (t : DeviceTree) (pool : AddressPool) : Drawn t pool t pool := by
  have hnone : ∀ id a, ¬ t.Drew t id a := by
    rintro id a ⟨⟨device, hd, hl⟩, hown⟩
    rw [own?, hd, Option.bind_some, Device.own?, hl] at hown
    cases hown
  exact ⟨fun a => by simp [hnone], fun id a h => absurd h (hnone id a), fun id _ a h => absurd h (hnone id a)⟩

theorem congr {v : DeviceTree} (h : Drawn t pool u pool') (hown : ∀ x, v.own? x = u.own? x) : Drawn t pool v pool' := by
  have hsame : ∀ id a, t.Drew v id a ↔ t.Drew u id a := fun id a => by rw [Drew, Drew, hown]
  exact ⟨fun a => by simp only [hsame, h.taken_iff], fun id a hid => h.free id a ((hsame id a).1 hid),
    fun id x a hid hx => h.once id x a ((hsame id a).1 hid) ((hsame x a).1 hx)⟩

/-- A device that had no address draws one that is still there. -/
theorem draw (h : Drawn t pool u pool') {old : Device} (hold : t.device? id = some old) (hunaddressed : old.logical = none)
    (hd : u.device? id = some device) (hl : device.logical = none) (hne : a ≠ .broadcast) (hfree : pool'.isTaken a = false)
    (place : PhysicalAddress) : Drawn t pool (u.update id (addressed place a)) (pool'.mark a) := by
  have hbefore : ∀ b, ¬ t.Drew u id b := by
    rintro b ⟨-, hown⟩
    rw [own?, hd, Option.bind_some, Device.own?, hl] at hown
    cases hown
  have hdrew : ∀ x b, t.Drew (u.update id (addressed place a)) x b ↔ x = id ∧ b = a ∨ t.Drew u x b := by
    intro x b
    rw [Drew, own?_update hd]
    by_cases hx : x = id
    · subst hx
      have hown : (addressed place a device).own? = some a := Device.own?_eq_some.2 ⟨rfl, hne⟩
      simp [hown, hbefore, hold, hunaddressed, eq_comm]
    · simp [hx, Drew]
  obtain ⟨hpool, hothers⟩ : pool.isTaken a = false ∧ ∀ x, ¬ t.Drew u x a := by
    have hnot := mt (h.taken_iff a).2 (by rw [hfree]; exact Bool.false_ne_true)
    rw [not_or, not_exists, Bool.not_eq_true] at hnot
    exact hnot
  refine ⟨fun b => ?_, fun x b hx => ?_, fun x y b hx hy => ?_⟩
  · rw [AddressPool.isTaken_mark, Bool.or_eq_true, h.taken_iff, decide_eq_true_iff, or_assoc]
    simp only [hdrew, exists_or, exists_and_right, exists_eq, true_and]
    rw [@eq_comm _ a b]
    tauto
  · rcases (hdrew x b).1 hx with ⟨-, rfl⟩ | hx
    · exact hpool
    · exact h.free x b hx
  · rcases (hdrew x b).1 hx with ⟨hxid, rfl⟩ | hx'
    · rcases (hdrew y b).1 hy with ⟨hyid, -⟩ | hy'
      · rw [hxid, hyid]
      · exact absurd hy' (hothers y)
    · rcases (hdrew y b).1 hy with ⟨-, rfl⟩ | hy'
      · exact absurd hx' (hothers x)
      · exact h.once x y b hx' hy'

theorem given (h : Drawn t pool u pool') (hr : t.Readdressed u) (hd : u.device? id = some device) {waits : Bool}
    (hg : Given device waits pool' a pool'') (place : PhysicalAddress) :
    Drawn t pool (u.update id (addressed place a)) pool'' := by
  have hkeep : (addressed place a device).own? = device.own? → Drawn t pool (u.update id (addressed place a)) pool' := by
    intro hsame
    refine h.congr fun x => ?_
    rw [own?_update hd]
    by_cases hx : x = id
    · rw [if_pos hx, hsame, hx, own?, hd, Option.bind_some]
    · rw [if_neg hx]
  cases hg with
  | kept hl => exact hkeep (by rw [Device.own?, Device.own?, hl]; rfl)
  | waiting hl _ => exact hkeep (by rw [Device.own?, Device.own?, hl]; rfl)
  | spent hl _ _ => exact hkeep (by rw [Device.own?, Device.own?, hl]; rfl)
  | drawn hl _ hf =>
    obtain ⟨-, hne, hfree⟩ := AddressPool.firstFree?_eq_some hf
    obtain ⟨old, hold, hunaddressed⟩ := hr.exists_logical_eq_none hd hl
    exact h.draw hold hunaddressed hd hl hne hfree place

end Drawn

theorem drawn_assignAddresses (t : DeviceTree) (emulated : DeviceId) (pool : AddressPool) :
    Drawn t pool (t.assignAddresses emulated pool).value.1 (t.assignAddresses emulated pool).value.2 := by
  refine (assignAddresses_preserves (P := fun u pool' => t.Readdressed u ∧ Drawn t pool u pool')
    (fun u pool' id node hu hn => ?_) ⟨.refl t, .refl t pool⟩).2
  exact ⟨hu.1.trans (readdressed_given hn _ _ _), hu.2.given hu.1 (device?_of_node? hn)
    (given_logicalFor node.device (u.waits emulated id) pool') (u.placeOf node)⟩

/-! ### A tree that has all its addresses -/

/-- Every device has a logical address, and is in its place. -/
def Settled (t : DeviceTree) : Prop :=
  ∀ id node, t.node? id = some node → node.device.logical.isSome ∧ node.device.physical = t.placeOf node

/-- Giving addresses to it, for any emulated device and from any pool, changes neither the tree nor the pool. -/
theorem Settled.assignAddresses (h : t.Settled) (emulated : DeviceId) (pool : AddressPool) :
    (t.assignAddresses emulated pool).value = (t, pool) := by
  have hone : ∀ id, (assignDevice emulated (t, pool) id).value = (t, pool) := by
    intro id
    cases hn : t.node? id with
    | none => exact assignDevice_of_none hn
    | some node =>
      obtain ⟨hsome, hplace⟩ := h id node hn
      obtain ⟨a, ha⟩ := Option.isSome_iff_exists.1 hsome
      rw [assignDevice_of_some hn, logicalFor_of_some ha, update_eq_self]
      intro device hd
      rw [device?_of_node? hn, Option.some.injEq] at hd
      rw [← hd, addressed, ← hplace, ← ha]
  rw [DeviceTree.assignAddresses, Logged.value_foldlM]
  induction t.members t.root with
  | nil => rfl
  | cons id rest ih => rw [List.foldl_cons, hone, ih]

theorem Shows.settled_assignAddresses {top : Branch (DeviceId × Device)} (h : t.Shows top) (emulated : DeviceId)
    (pool : AddressPool) : (t.assignAddresses emulated pool).value.1.Settled := fun _ node hn =>
  ⟨h.hasAddress_assignAddresses node.device (device?_of_node? hn), h.physical_assignAddresses hn⟩

/-! ### Giving addresses once more -/

/-- The slots stay, in their generations, and the same ones are vacant. -/
structure SameSlots (t u : DeviceTree) : Prop where
  length : u.slots.length = t.slots.length
  generation (index : Nat) : u.generation index = t.generation index
  vacant : u.vacant = t.vacant

theorem sameSlots_assignAddresses (t : DeviceTree) (emulated : DeviceId) (pool : AddressPool) :
    t.SameSlots (t.assignAddresses emulated pool).value.1 where
  length := assignAddresses_preserves (P := fun u _ => u.slots.length = t.slots.length)
    (fun _ _ _ _ hu _ => (length_slots_update _).trans hu) rfl
  generation _ := generation_assignAddresses emulated pool
  vacant := assignAddresses_preserves (P := fun u _ => u.vacant = t.vacant) (fun _ _ _ _ hu _ => hu) rfl

/-- A tree and a pool after addresses were given, if that only adds to what was there. -/
structure Incremental (t : DeviceTree) (pool : AddressPool) (u : DeviceTree) (pool' : AddressPool) : Prop where
  /-- Nothing but places and absent logical addresses changes. -/
  readdressed : t.Readdressed u
  slots : t.SameSlots u
  /-- No mark is taken away, and what is newly given was free and is given to one device only. -/
  drawn : Drawn t pool u pool'
  /-- No device is left out. -/
  complete (id : DeviceId) (device : Device) : u.device? id = some device → device.logical.isSome
  /-- Doing it again changes nothing. -/
  again (other : DeviceId) (another : AddressPool) : (u.assignAddresses other another).value = (u, another)

/-- Whatever was done with a tree, also by hand, and whatever the pool marks: giving addresses only adds to what is
there, and once is enough. -/
theorem Handled.incremental_assignAddresses (h : t.Handled) (emulated : DeviceId) (pool : AddressPool) :
    t.Incremental pool (t.assignAddresses emulated pool).value.1 (t.assignAddresses emulated pool).value.2 := by
  obtain ⟨top, hshows⟩ := h.isTree
  exact
    { readdressed := readdressed_assignAddresses t emulated pool
      slots := sameSlots_assignAddresses t emulated pool
      drawn := drawn_assignAddresses t emulated pool
      complete := fun id device hd => hshows.hasAddress_assignAddresses device hd
      again := (hshows.settled_assignAddresses emulated pool).assignAddresses }

/-- A television with a tuner that was given its address by hand, and another tuner that has none. -/
def twoTuners : DeviceTree :=
  (televisionAndTuner.update ⟨1, 1⟩ fun d => { d with logical := some .tuner2 }).after
    (.insert ⟨0, 0⟩ { Device.named "Radio" .tuner with port := 2 })

/-- The pool marks one address that no device has, and does not mark the one that a tuner has. -/
theorem twoTuners_incremental : twoTuners.Handled ∧ twoTuners.own? ⟨1, 1⟩ = some .tuner2 ∧
    twoTuners.Incremental (AddressPool.empty.mark .tuner1)
      (twoTuners.assignAddresses ⟨0, 0⟩ (AddressPool.empty.mark .tuner1)).value.1
      (twoTuners.assignAddresses ⟨0, 0⟩ (AddressPool.empty.mark .tuner1)).value.2 ∧
    twoTuners.Drew (twoTuners.assignAddresses ⟨0, 0⟩ (AddressPool.empty.mark .tuner1)).value.1 ⟨2, 0⟩ .tuner2 := by
  have hhandled : twoTuners.Handled :=
    .after (.update (.after (.after (.after (.single _) _) _) _) _ _) _
  refine ⟨hhandled, by decide +kernel, Handled.incremental_assignAddresses hhandled _ _, ?_, by decide +kernel⟩
  exact ⟨{ Device.named "Radio" .tuner with port := 2 }, by decide +kernel, rfl⟩

end DeviceTree

end CecBus
