import CecBus.Proofs.Bus.Emulation

/-! Emulated sources. When a bus is opened every device draws an address from the pool, but for the emulated root: it is
left without one until it makes a claim, and claims are for televisions. `Supplied` says why a device has no address of
its own, and every device that is given its addresses keeps it so. Main results: `exists_source_supplied`, when an
emulated source has an address, and `exists_source_at_root`, a source at the root that has none. -/

namespace CecBus

/-- The kinds of devices that send something to a television or store what it shows. -/
def Device.Kind.sources : List Kind := [.playback, .audioSystem, .recorder, .tuner]

namespace AddressPool

def IsSpent (pool : AddressPool) (kind : Device.Kind) : Prop :=
  ∀ a ∈ kind.candidates, a ≠ .broadcast → pool.isTaken a

variable {pool : AddressPool} {kind : Device.Kind}

theorem isSpent_of_firstFree? (h : pool.firstFree? kind = none) : pool.IsSpent kind := by
  intro a ha hne
  simpa [hne] using List.find?_eq_none.1 h a ha

theorem IsSpent.mark (h : pool.IsSpent kind) (a : LogicalAddress) : (pool.mark a).IsSpent kind := by
  intro b hb hne
  rw [isTaken_mark, h b hb hne, Bool.true_or]

end AddressPool

namespace DeviceTree

variable {t : DeviceTree} {pool pool' : AddressPool} {emulated id : DeviceId} {device : Device} {kind : Device.Kind}
  {a : LogicalAddress}

/-- A device that has no address of its own waits for its claim, or the pool has nothing for it; and one that waits has
none. -/
structure Supplied (t : DeviceTree) (emulated : DeviceId) (pool : AddressPool) : Prop where
  spent (id : DeviceId) (device : Device) : t.device? id = some device → device.logical = some .broadcast →
    t.waits emulated id = false → pool.IsSpent device.kind
  waiting (id : DeviceId) (device : Device) : t.device? id = some device → t.waits emulated id = true →
    device.own? = none

theorem waits_update (g : Device → Device) (x : DeviceId) : (t.update id g).waits emulated x = t.waits emulated x := by
  rw [waits, waits, root_update]

/-! ### One device is given its address -/

theorem Given.isSpent {waits : Bool} (hg : Given device waits pool a pool') (h : pool.IsSpent kind) : pool'.IsSpent kind := by
  cases hg with
  | kept _ => exact h
  | waiting _ _ => exact h
  | drawn _ _ _ => exact h.mark a
  | spent _ _ _ => exact h

/-- A device that does not wait is left without an address only if the pool has none for it. -/
theorem Given.isSpent_of_broadcast (hg : Given device false pool .broadcast pool')
    (hold : device.logical = some .broadcast → pool.IsSpent device.kind) : pool'.IsSpent device.kind := by
  cases hg with
  | kept hl => exact hold hl
  | waiting _ hw => cases hw
  | drawn _ _ hf => exact absurd rfl (AddressPool.firstFree?_eq_some hf).2.1
  | spent _ _ hf => exact AddressPool.isSpent_of_firstFree? hf

/-- A device that waits and has no address of its own gets none. -/
theorem Given.eq_broadcast (hg : Given device true pool a pool') (h : device.own? = none) : a = .broadcast := by
  cases hg with
  | kept hl =>
    by_contra hne
    rw [Device.own?_eq_some.2 ⟨hl, hne⟩] at h
    cases h
  | waiting _ _ => rfl
  | drawn _ hw _ => cases hw
  | spent _ hw _ => cases hw

namespace Supplied

theorem given (h : t.Supplied emulated pool) (hd : t.device? id = some device)
    (hg : Given device (t.waits emulated id) pool a pool') (place : PhysicalAddress) :
    (t.update id (addressed place a)).Supplied emulated pool' := by
  constructor
  · intro x e hx hl hwaits
    rw [waits_update] at hwaits
    obtain ⟨d, hd', rfl⟩ := device?_update_eq_some hx
    by_cases hxi : x = id
    · subst hxi
      rw [hd] at hd'
      cases hd'
      rw [if_pos rfl] at hl ⊢
      obtain rfl := Option.some.inj hl
      rw [hwaits] at hg
      exact hg.isSpent_of_broadcast fun hold => h.spent x device hd hold hwaits
    · rw [if_neg hxi] at hl ⊢
      exact hg.isSpent (h.spent x d hd' hl hwaits)
  · intro x e hx hwaits
    rw [waits_update] at hwaits
    obtain ⟨d, hd', rfl⟩ := device?_update_eq_some hx
    by_cases hxi : x = id
    · subst hxi
      rw [hd] at hd'
      cases hd'
      rw [hwaits] at hg
      rw [if_pos rfl, hg.eq_broadcast (h.waiting x device hd hwaits)]
      rfl
    · rw [if_neg hxi]
      exact h.waiting x d hd' hwaits

theorem assignAddresses (h : t.Supplied emulated pool) :
    (t.assignAddresses emulated pool).value.1.Supplied emulated (t.assignAddresses emulated pool).value.2 := by
  refine assignAddresses_preserves (P := fun u pool => u.Supplied emulated pool) (fun u pool id node hu hn => ?_) h
  have hd : u.device? id = some node.device := device?_of_node? hn
  exact hu.given hd (given_logicalFor node.device (u.waits emulated id) pool) (u.placeOf node)

theorem update (h : t.Supplied emulated pool) {g : Device → Device} (hkind : ∀ d, (g d).kind = d.kind)
    (hlogical : ∀ d, (g d).logical = d.logical) : (t.update id g).Supplied emulated pool := by
  have hkept : ∀ x e, (t.update id g).device? x = some e →
      ∃ d, t.device? x = some d ∧ e.kind = d.kind ∧ e.logical = d.logical := by
    intro x e hx
    obtain ⟨d, hd, rfl⟩ := device?_update_eq_some hx
    refine ⟨d, hd, ?_, ?_⟩
    · split
      · exact hkind d
      · rfl
    · split
      · exact hlogical d
      · rfl
  constructor
  · intro x e hx hl hwaits
    obtain ⟨d, hd, hk, hsame⟩ := hkept x e hx
    rw [hk]
    exact h.spent x d hd (hsame ▸ hl) (waits_update g x ▸ hwaits)
  · intro x e hx hwaits
    obtain ⟨d, hd, -, hsame⟩ := hkept x e hx
    rw [Device.own?, hsame]
    exact h.waiting x d hd (waits_update g x ▸ hwaits)

end Supplied

/-- Before any address is given there is nothing to say. -/
theorem Unaddressed.supplied (h : t.Unaddressed) : t.Supplied emulated pool where
  spent id device hd hl := by
    rw [h id device hd] at hl
    cases hl
  waiting id device hd _ := by
    rw [Device.own?, h id device hd]
    rfl

end DeviceTree

namespace Bus

variable {b : Bus} {device : Device}

/-! ### The emulated device -/

theorem supplied_assigned {setup : Setup} (hu : setup.tree.Unaddressed) (emulated : DeviceId) :
    (assigned setup emulated).tree.Supplied emulated (assigned setup emulated).pool := by
  rw [assigned, assignAddresses_value]
  exact hu.supplied.assignAddresses.update (fun d => (readdressed_atRootIfTv d).kind_eq) logical_atRootIfTv

theorem ne_broadcast_of_mem_candidates {kind : Device.Kind} (hkind : kind ∈ Device.Kind.sources) {a : LogicalAddress}
    (ha : a ∈ kind.candidates) : a ≠ .broadcast := by
  revert kind a
  decide

/-- On a sound bus whose devices are supplied, an emulated source has an address exactly if it does not wait and not all
addresses for it are held by others. -/
theorem Sound.supplied_iff (h : b.Sound) (hs : b.tree.Supplied b.emulated b.pool) (hd : b.emulatedDevice? = some device)
    (hkind : device.kind ∈ Device.Kind.sources) : device.logical ≠ some .broadcast ↔
      b.emulated ≠ b.tree.root ∧ ∃ a ∈ device.kind.candidates, ¬ b.HeldByOther a := by
  have hagree := addressesAgree_of_sound h
  have hwaits : b.tree.waits b.emulated b.emulated = true ↔ b.emulated = b.tree.root := by simp [DeviceTree.waits]
  constructor
  · intro hown
    obtain ⟨a, ha⟩ := hagree.assigned _ device hd
    have hne : a ≠ .broadcast := fun he => hown (ha.trans (congrArg some he))
    refine ⟨fun hroot => ?_, a, hagree.candidate _ device a hd ha hne, ?_⟩
    · have hnone := hs.waiting _ device hd (hwaits.2 hroot)
      rw [Device.own?_eq_some.2 ⟨ha, hne⟩] at hnone
      cases hnone
    · rintro ⟨x, other, hother, hx, hl⟩
      exact hother (hagree.unique x _ other device a hx hd hl ha hne)
  · rintro ⟨hroot, a, ha, hfree⟩ hl
    have hwaiting : b.tree.waits b.emulated b.emulated = false := Bool.eq_false_iff.2 fun hw => hroot (hwaits.1 hw)
    have hne := ne_broadcast_of_mem_candidates hkind ha
    obtain ⟨x, other, hx, hlx⟩ := (hagree.marked a hne).1 (hs.spent _ device hd hl hwaiting a ha hne)
    refine hfree ⟨x, other, ?_, hx, hlx⟩
    rintro rfl
    rw [← emulatedDevice?, hd] at hx
    cases hx
    rw [hl] at hlx
    exact hne (Option.some.inj hlx).symm

/-- An accepted profile can be opened, and if the emulated device is a source it then has an address exactly if it is not
at the root and not all addresses for its kind are held by other devices. -/
theorem exists_source_supplied {p : Profile} {setup : Setup} (hp : outcome (Setup.ofProfile p) = .ok setup) :
    ∃ b device, (ofSetup setup).value = some b ∧ b.emulatedDevice? = some device ∧ device.name = setup.emulated ∧
      (device.kind ∈ Device.Kind.sources → (device.logical ≠ some .broadcast ↔
        b.emulated ≠ b.tree.root ∧ ∃ a ∈ device.kind.candidates, ¬ b.HeldByOther a)) := by
  obtain ⟨b, hb⟩ := Option.isSome_iff_exists.1 (isSome_ofSetup_of_ofProfile hp)
  have hread := (setup_of_ofProfile hp).1
  have hsound := (Reachable.opened hp hb).sound
  obtain ⟨named, -, -, device, hd, hname, -⟩ := emulates_ofSetup (.ofSection hread) hb
  refine ⟨b, device, hb, hd, hname, fun hkind => ?_⟩
  obtain ⟨emulated, other, -, hother, hopened⟩ := ofSetup_eq_some.1 hb
  have hassigned : b = assigned setup emulated := by
    refine hopened.trans (if_neg fun htv => ?_)
    -- An emulated television would still be one.
    rw [hopened, if_pos htv] at hd
    obtain rfl := Option.some.inj ((emulatedDevice?_setLogical hother .broadcast _).symm.trans hd)
    rw [htv] at hkind
    exact absurd hkind (by decide)
  subst hassigned
  exact hsound.supplied_iff (supplied_assigned (DeviceTree.unaddressed_ofSection hread) emulated) hd hkind

/-- A profile with a television and an emulated player at its first port. -/
def playerProfile : Profile :=
  let player := .mapping [(.string "name", .string "Player"), (.string "type", .string "PlaybackDevice"),
    (.string "port_id", .integer 1)]
  let television := .mapping [(.string "name", .string "TV"), (.string "type", .string "TV"),
    (.string "number_children", .integer 1), (.string "children", .mapping [(.integer 0, player)])]
  ⟨.mapping [(.string "hdmicec", .mapping [(.string "emulated_device", .string "Player"),
    (.string "number_devices", .integer 2), (.string "device_map", .mapping [(.integer 0, television)])])]⟩

theorem playerProfile_supplied : ∃ b device, (ofSetup { televisionSetup with emulated := "Player" }).value = some b ∧
    b.emulatedDevice? = some device ∧ device.logical ≠ some .broadcast := by
  have hp : outcome (Setup.ofProfile playerProfile) = .ok { televisionSetup with emulated := "Player" } := by
    decide +kernel
  have hopened : ((ofSetup { televisionSetup with emulated := "Player" }).value.map fun b =>
      (b.emulatedDevice?.map Device.kind, decide (b.emulated = b.tree.root), b.pool.isTaken .playbackDevice2)) =
        some (some .playback, false, false) := by decide +kernel
  obtain ⟨b, device, hb, hd, -, hsupplied⟩ := exists_source_supplied hp
  rw [hb, Option.map_some, hd, Option.map_some] at hopened
  simp only [Option.some.injEq, Prod.mk.injEq, decide_eq_false_iff_not] at hopened
  obtain ⟨hkind, hroot, hfree⟩ := hopened
  refine ⟨b, device, hb, hd, (hsupplied (by rw [hkind]; decide)).2 ⟨hroot, .playbackDevice2, ?_, ?_⟩⟩
  · rw [hkind]
    decide
  · rintro ⟨x, other, -, hx, hl⟩
    have htaken := ((addressesAgree_of_sound (Reachable.opened hp hb).sound).marked .playbackDevice2 (by decide)).2
      ⟨x, other, hx, hl⟩
    rw [hfree] at htaken
    cases htaken

/-- A profile with nothing but an emulated player. -/
def solePlayerProfile : Profile :=
  let player := .mapping [(.string "name", .string "Player"), (.string "type", .string "PlaybackDevice")]
  ⟨.mapping [(.string "hdmicec", .mapping [(.string "emulated_device", .string "Player"),
    (.string "number_devices", .integer 1), (.string "device_map", .mapping [(.integer 0, player)])])]⟩

/-- What the profile says. -/
def solePlayerSetup : Setup where
  emulated := "Player"
  declaredDevices := 1
  ports := []
  tree := DeviceTree.single (Device.named "Player" .playback)

/-- A source at the root: it is opened without an address, though no other device holds any. -/
theorem exists_source_at_root : ∃ p setup b device, outcome (Setup.ofProfile p) = .ok setup ∧
    (ofSetup setup).value = some b ∧ b.emulatedDevice? = some device ∧ device.kind = .playback ∧
      device.logical = some .broadcast ∧ ∀ a ∈ device.kind.candidates, ¬ b.HeldByOther a := by
  have hp : outcome (Setup.ofProfile solePlayerProfile) = .ok solePlayerSetup := by decide +kernel
  have hb : (ofSetup solePlayerSetup).value = some (assigned solePlayerSetup ⟨0, 0⟩) := by decide +kernel
  have hd : (assigned solePlayerSetup ⟨0, 0⟩).emulatedDevice? =
      some { Device.named "Player" .playback with physical := .root, logical := some .broadcast } := by decide +kernel
  refine ⟨solePlayerProfile, solePlayerSetup, _, _, hp, hb, hd, rfl, rfl, ?_⟩
  rintro a ha ⟨x, other, -, hx, hl⟩
  have hne : a ≠ .broadcast := ne_broadcast_of_mem_candidates (by decide) ha
  have htaken := ((addressesAgree_of_sound (Reachable.opened hp hb).sound).marked a hne).2 ⟨x, other, hx, hl⟩
  have hfree : (assigned solePlayerSetup ⟨0, 0⟩).pool = .empty := by decide +kernel
  rw [hfree, AddressPool.isTaken_empty] at htaken
  cases htaken

end Bus

end CecBus
