import CecBus.Proofs.Bus.Addresses
import CecBus.Proofs.DeviceTree.Generations
import CecBus.Proofs.DeviceTree.Staging
import CecBus.Proofs.Severity

/-! The emulated device is spared. A removal climbs from the emulated device towards the root and is refused when it
meets the device that it would remove. The climb has no bound of its own: it ends because the parents of an id do, and it
meets a device exactly from what a walk down from that device goes through. Main result: `within_and_spared`. -/

namespace CecBus

namespace DeviceTree

/-- The climb from an id by parents, without a bound, and whether it meets a device before it ends. -/
inductive Climbs (t : DeviceTree) (ancestor : DeviceId) : DeviceId → Bool → Prop
  | met : Climbs t ancestor ancestor true
  | ended {id : DeviceId} (hne : id ≠ ancestor) (hp : t.parent? id = none) : Climbs t ancestor id false
  | up {id parent : DeviceId} {meets : Bool} (hne : id ≠ ancestor) (hp : t.parent? id = some parent)
      (hrest : Climbs t ancestor parent meets) : Climbs t ancestor id meets

variable {t : DeviceTree} {ancestor id : DeviceId} {meets : Bool} {top : Branch (DeviceId × Device)}

theorem Climbs.iff_isAbove (h : t.Climbs ancestor id meets) : meets = true ↔ t.IsAbove ancestor id := by
  induction h with
  | met => exact iff_of_true rfl .refl
  | ended hne hp =>
    refine iff_of_false Bool.false_ne_true fun habove => ?_
    rcases Relation.ReflTransGen.cases_head habove with rfl | ⟨y, hy, -⟩
    · exact hne rfl
    · rw [hp] at hy
      cases hy
  | up hne hp _ ih =>
    refine ih.trans ⟨fun habove => .head hp habove, fun habove => ?_⟩
    rcases Relation.ReflTransGen.cases_head habove with rfl | ⟨y, hy, hrest⟩
    · exact absurd rfl hne
    · rw [hp] at hy
      cases hy
      exact hrest

theorem Shows.exists_climbs (h : t.Shows top) (ancestor id : DeviceId) : ∃ meets, t.Climbs ancestor id meets := by
  induction h.acc_parent id with
  | intro x _ ih =>
    by_cases hx : x = ancestor
    · exact ⟨true, hx ▸ .met⟩
    · cases hp : t.parent? x with
      | none => exact ⟨false, .ended hx hp⟩
      | some parent =>
        obtain ⟨meets, hrest⟩ := ih parent hp
        exact ⟨meets, .up hx hp hrest⟩

/-- The climb meets a device exactly from what the walk from that device goes through. -/
structure ClimbsAsWalked (t : DeviceTree) (ancestor : DeviceId) : Prop where
  loop (id : DeviceId) (meets : Bool) : t.Climbs ancestor id meets ↔ t.isWithin id ancestor = meets
  walked (id : DeviceId) : t.isWithin id ancestor ↔ id ∈ (t.walk ancestor).map Prod.fst

theorem Shows.climbsAsWalked (h : t.Shows top) (hlive : t.isLive ancestor) : t.ClimbsAsWalked ancestor where
  loop id meets := by
    have hmeets : ∀ {meets}, t.Climbs ancestor id meets → t.isWithin id ancestor = meets := fun hclimbs => by
      rw [Bool.eq_iff_iff, hclimbs.iff_isAbove, ← h.mem_members_iff hlive, h.mem_members_iff_isAbove hlive]
    refine ⟨hmeets, fun hwithin => ?_⟩
    obtain ⟨other, hclimbs⟩ := h.exists_climbs ancestor id
    rwa [← hwithin, hmeets hclimbs]
  walked id := (h.mem_members_iff hlive).symm

end DeviceTree

namespace Bus

variable {b : Bus} {payload : ByteArray} {p : Profile} {id : DeviceId}

/-- A message that names a device to be removed, on a bus whose emulated device is not to go. -/
structure Spared (b : Bus) (payload : ByteArray) (id : DeviceId) : Prop where
  refused_iff : (b.handle .state payload).failed ↔ b.emulated ∈ (b.tree.walk id).map Prod.fst
  unchanged : (b.handle .state payload).failed → (b.handle .state payload).value.2 = b
  /-- The subtree of the root can never be taken out. Of any other, the emulated device is taken out exactly if the
  message is refused. -/
  purged : id ≠ b.tree.root → ∃ removed tree, outcome (b.tree.removeSubtree id) = .ok (removed, tree) ∧
    ((b.handle .state payload).failed ↔ tree.isLive b.emulated = false) ∧
    ((b.handle .state payload).failed ↔ ∃ device ∈ removed, b.emulatedDevice? = some device)

/-- What the removal of a device that is found comes to. -/
theorem removeDevice_cases (h : b.Sound) (hfound : b.tree.find? (p.field "parameters/name") = some id) :
    (b.tree.isWithin b.emulated id = true ∧
        outcome (b.removeDevice p) = .error (.holdsEmulated (p.field "parameters/name"))) ∨
      (b.tree.isWithin b.emulated id = false ∧ ∃ b', outcome (b.removeDevice p) = .ok b') := by
  cases hwithin : b.tree.isWithin b.emulated id with
  | true => exact .inl ⟨rfl, by simp [Bus.removeDevice, hfound, hwithin]⟩
  | false =>
    obtain ⟨device, hemulated, -⟩ := h.emulated
    have hlive := h.wellFormed.isLive_of_find? hfound
    obtain ⟨top, hshows, -⟩ := h.wellFormed
    -- Everything is within the root, so that it is another device.
    have hne : id ≠ b.tree.root := by
      rintro rfl
      rw [← Bool.not_eq_true, ← hshows.mem_members_iff hlive, hshows.members_root, ← hshows.isLive_iff] at hwithin
      exact hwithin (DeviceTree.isLive_of_device? hemulated)
    obtain ⟨parent, hparent, -⟩ := hshows.exists_parent hlive hne
    exact .inr ⟨rfl, _, removeDevice_eq_ok.2
      ⟨id, _, _, hfound, hwithin, DeviceTree.removeSubtree_eq_ok.2 ⟨hne, parent, hparent, rfl⟩, rfl⟩⟩

theorem Sound.spared (h : b.Sound) (hp : Profile.ofBytes payload = .ok p) (hstate : p.field "state" = "RemoveDevice")
    (hfound : b.tree.find? (p.field "parameters/name") = some id) : b.Spared payload id := by
  have hlive := h.wellFormed.isLive_of_find? hfound
  obtain ⟨device, hemulated, -⟩ := h.emulated
  have hw := h.wellFormed
  obtain ⟨top, hshows⟩ := hw.isTree
  have hrefused : (b.handle .state payload).failed ↔ b.emulated ∈ b.tree.members id := by
    rw [failed_handle_state, apply_removeDevice hp hstate, hshows.mem_members_iff hlive]
    rcases removeDevice_cases h hfound with ⟨hwithin, hr⟩ | ⟨hwithin, b', hr⟩
    · simp [hr, hwithin]
    · simp [hr, hwithin]
  refine ⟨hrefused, fun hfailed => ?_, fun hne => ?_⟩
  · obtain ⟨fault, hfault⟩ := (failed_handle_state b payload).1 hfailed
    rw [apply_removeDevice hp hstate] at hfault
    rw [bus_handle, apply_removeDevice hp hstate]
    cases hr : outcome (b.removeDevice p) with
    | error fault => rfl
    | ok b' => rw [hr] at hfault; cases hfault
  · obtain ⟨parent, hparent, -⟩ := hshows.exists_parent hlive hne
    have hok := DeviceTree.removeSubtree_eq_ok.2 ⟨hne, parent, hparent, rfl⟩
    obtain ⟨hremoved, -, hview⟩ := hw.removeSubtree_spec hok
    refine ⟨_, _, hok, hrefused.trans ?_, hrefused.trans ?_⟩
    · rw [DeviceTree.isLive, hview]
      by_cases hmem : b.emulated ∈ b.tree.members id
      · simp [hmem]
      · have hstays := DeviceTree.isLive_of_device? hemulated
        rw [DeviceTree.isLive] at hstays
        simp [hmem, hstays]
    · rw [hremoved]
      constructor
      · intro hmem
        exact ⟨device, List.mem_filterMap.2 ⟨_, hmem, hemulated⟩, hemulated⟩
      · rintro ⟨other, hmem, hother⟩
        obtain ⟨x, hx, hd⟩ := List.mem_filterMap.1 hmem
        rwa [hw.eq_of_name (x := b.emulated) hd hother rfl] at hx

/-- In every tree, also one that was changed by hand, a climb from an id meets a device exactly if the walk from that
device goes through the id. So a message that names a device to be removed is refused exactly if the emulated device
would go with it. -/
theorem within_and_spared :
    (∀ (t : DeviceTree) (ancestor : DeviceId), t.Handled → t.isLive ancestor → t.ClimbsAsWalked ancestor) ∧
      ∀ (b : Bus) (payload : ByteArray) (p : Profile) (id : DeviceId), b.Reachable → Profile.ofBytes payload = .ok p →
        p.field "state" = "RemoveDevice" → b.tree.find? (p.field "parameters/name") = some id → b.Spared payload id := by
  refine ⟨fun t ancestor ht hlive => ?_, fun b payload p id hb hp hstate hfound => hb.sound.spared hp hstate hfound⟩
  obtain ⟨top, hshows⟩ := ht.isTree
  exact hshows.climbsAsWalked hlive

def televisionLeaves : ByteArray := "\x7b\"state\":\"RemoveDevice\",\"parameters\":\x7b\"name\":\"TV\"\x7d\x7d".toUTF8

def playerLeaves : ByteArray := "\x7b\"state\":\"RemoveDevice\",\"parameters\":\x7b\"name\":\"Player\"\x7d\x7d".toUTF8

theorem televisionBus_spared : DeviceTree.televisionAndTuner.ClimbsAsWalked ⟨0, 0⟩ ∧ televisionBus.Spared televisionLeaves ⟨0, 0⟩ ∧
    televisionBus.Spared playerLeaves ⟨1, 0⟩ ∧ (televisionBus.handle .state televisionLeaves).failed = true ∧
      (televisionBus.handle .state playerLeaves).failed = false := by
  have hread : ∀ payload id, (Profile.ofBytes payload).toOption.map (fun p =>
      (p.field "state", televisionBus.tree.find? (p.field "parameters/name"))) = some ("RemoveDevice", some id) →
        televisionBus.Spared payload id := by
    intro payload id hread
    cases hp : Profile.ofBytes payload with
    | error e => rw [hp] at hread; cases hread
    | ok p =>
      rw [hp, Except.toOption, Option.map_some, Option.some.injEq, Prod.mk.injEq] at hread
      exact within_and_spared.2 televisionBus payload p id reachable_televisionBus hp hread.1 hread.2
  have hhandled : DeviceTree.televisionAndTuner.Handled := .after (.after (.after (.single _) _) _) _
  exact ⟨within_and_spared.1 _ _ hhandled (by decide +kernel), hread _ _ (by decide +kernel), hread _ _ (by decide +kernel),
    by decide +kernel, by decide +kernel⟩

end Bus

end CecBus
