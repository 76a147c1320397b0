import CecBus.Proofs.Bus.Addresses
import CecBus.Proofs.DeviceTree.Coherence

/-! The physical addresses on a bus. The ports on the way down from the root give every device a place. `WiredBy` says
that the devices hold these places, but for an emulated television, which holds that of the root; giving addresses
establishes it, and every message and every claim keeps it. Main results: `Reachable.placesFollowPorts`, the law for
every device by its parent, and `exists_displaced`, a bus on which a device below the television does not stand behind
its port of the television. -/

namespace CecBus.Bus

variable {b : Bus} {place : DeviceId → PhysicalAddress}

def IsSink (b : Bus) (x : DeviceId) (device : Device) : Prop := x = b.emulated ∧ device.kind = .tv

instance (b : Bus) (x : DeviceId) (device : Device) : Decidable (b.IsSink x device) :=
  inferInstanceAs (Decidable (_ ∧ _))

/-- The places of the devices follow their ports, and the devices hold them, but for an emulated television. -/
structure WiredBy (b : Bus) (place : DeviceId → PhysicalAddress) : Prop where
  along : b.tree.FollowsPorts place
  held (x : DeviceId) (device : Device) : b.tree.device? x = some device →
    device.physical = if b.IsSink x device then .root else place x

/-! ### Every operation keeps a bus wired -/

theorem physical_atRootIfTv (device : Device) :
    (atRootIfTv device).physical = if device.kind = .tv then .root else device.physical := by
  unfold atRootIfTv
  split <;> rfl

/-- The television moves to the root when the places of all devices are given, and no other device follows it. -/
theorem exists_wiredBy_assignAddresses (h : b.tree.WellFormed) : ∃ place, b.assignAddresses.value.WiredBy place := by
  obtain ⟨place, hfollows, hheld⟩ := h.exists_followsPorts b.emulated b.pool
  rw [assignAddresses_value]
  refine ⟨place, hfollows.update fun device => (readdressed_atRootIfTv device).port_eq, fun x device hd => ?_⟩
  obtain ⟨e, he, rfl⟩ := DeviceTree.device?_update_eq_some hd
  by_cases hx : x = b.emulated
  · simp only [IsSink, hx, if_true, true_and, physical_atRootIfTv, (readdressed_atRootIfTv e).kind_eq]
    rw [← hheld _ e (hx ▸ he)]
  · simp only [IsSink, hx, if_false, false_and]
    exact hheld x e he

theorem WiredBy.setLogical (h : b.WiredBy place) (address : LogicalAddress) (pool : AddressPool) :
    (b.setLogical address pool).WiredBy place where
  along := h.along.update (g := fun d => { d with logical := some address }) fun _ => rfl
  held x device hd := by
    obtain ⟨e, he, rfl⟩ := DeviceTree.device?_update_eq_some hd
    have hsame := h.held x e he
    split
    · exact hsame
    · exact hsame

theorem WiredBy.removeDevice (h : b.WiredBy place) (hw : b.tree.WellFormed) {p : Profile} {b' : Bus}
    (hr : outcome (b.removeDevice p) = .ok b') : b'.WiredBy place := by
  obtain ⟨id, removed, tree, -, -, hremove, rfl⟩ := removeDevice_eq_ok.1 hr
  refine ⟨h.along.removeSubtree hw hremove, fun x device hd => h.held x device ?_⟩
  rw [hw.device?_removeSubtree hremove, Option.ite_none_left_eq_some] at hd
  exact hd.2

theorem Reachable.exists_wiredBy (h : b.Reachable) : ∃ place, b.WiredBy place := by
  induction h with
  | opened hp hb =>
    obtain ⟨emulated, device, -, -, rfl⟩ := ofSetup_eq_some.1 hb
    obtain ⟨place, hwired⟩ := exists_wiredBy_assignAddresses
      (b := { tree := _, emulated, ports := _ }) (.ofSection (setup_of_ofProfile hp).1)
    refine ⟨place, ?_⟩
    split
    · exact hwired.setLogical .broadcast _
    · exact hwired
  | @handle b hb kind payload ih =>
    have hw := hb.sound.wellFormed
    refine handle_preserves (P := fun b => ∃ place, b.WiredBy place) hw ih
      (fun p parent stop g tree hg => exists_wiredBy_assignAddresses hg.wellFormed) (fun p b' hr => ?_) kind payload
    obtain ⟨place, hwired⟩ := ih
    exact ⟨place, hwired.removeDevice hw hr⟩
  | claim _ hc ih =>
    obtain ⟨place, hwired⟩ := ih
    obtain ⟨_, -, -, rfl, ⟨-, rfl⟩ | ⟨-, -, rfl⟩⟩ := claim_eq_ok.1 hc
    · exact ⟨place, hwired⟩
    · exact ⟨place, hwired.setLogical _ _⟩
  | unclaim _ hc ih =>
    obtain ⟨place, hwired⟩ := ih
    obtain ⟨_, _, -, -, rfl, -, rfl⟩ := unclaim_eq_ok.1 hc
    exact ⟨place, hwired.setLogical _ _⟩

/-! ### The law by parents -/

/-- Where the devices of a bus stand. Below a television that is not the root they stand where they would if the
television stood behind its own port. -/
structure PlacesFollowPorts (b : Bus) : Prop where
  root : ∃ device, b.tree.device? b.tree.root = some device ∧ device.physical = .root
  sink (x : DeviceId) (device : Device) : b.tree.device? x = some device → b.IsSink x device →
    device.physical = .root
  exists_above (x : DeviceId) (device : Device) : b.tree.device? x = some device → x ≠ b.tree.root →
    ∃ parent above, b.tree.parent? x = some parent ∧ b.tree.device? parent = some above
  behind (x parent : DeviceId) (device above : Device) : b.tree.device? x = some device →
    b.tree.parent? x = some parent → b.tree.device? parent = some above → ¬ b.IsSink x device →
    (b.IsSink parent above → parent = b.tree.root) → device.physical = above.physical.child device.port.toNat
  belowSink (x parent outer : DeviceId) (device above beyond : Device) : b.tree.device? x = some device →
    b.tree.parent? x = some parent → b.tree.device? parent = some above → b.IsSink parent above →
    b.tree.parent? parent = some outer → b.tree.device? outer = some beyond →
    device.physical = (beyond.physical.child above.port.toNat).child device.port.toNat

theorem placeBehind_of_parent? {t : DeviceTree} (h : t.FollowsPorts place) {x parent : DeviceId} {device : Device}
    (hd : t.device? x = some device) (hp : t.parent? x = some parent) :
    place x = (place parent).child device.port.toNat := by
  obtain ⟨node, hn, rfl⟩ := Option.map_eq_some_iff.1 hd
  rw [DeviceTree.parent?, hn, Option.bind_some] at hp
  rw [h x node hn, hp]
  rfl

/-- On every reachable bus the devices stand behind their ports, below the emulated television behind those it has
in the tree. -/
theorem Reachable.placesFollowPorts (h : b.Reachable) : b.PlacesFollowPorts := by
  obtain ⟨place, hwired⟩ := h.exists_wiredBy
  obtain ⟨top, hshows, -⟩ := h.sound.wellFormed
  have hroot : place b.tree.root = .root := by
    obtain ⟨hnode, -⟩ := hshows.holds
    rw [← hshows.root] at hnode
    rw [hwired.along _ _ hnode]
    rfl
  have hheld : ∀ x device, b.tree.device? x = some device → (b.IsSink x device → x = b.tree.root) →
      device.physical = place x := by
    intro x device hd hsink
    rw [hwired.held x device hd]
    split
    · next hs => rw [hsink hs, hroot]
    · rfl
  refine ⟨?_, fun x device hd hs => ?_, fun x device hd hx => ?_, fun x parent device above hd hp ha hx hpar => ?_,
    fun x parent outer device above beyond hd hp ha hs ho hb => ?_⟩
  · obtain ⟨node, hn⟩ := Option.isSome_iff_exists.1 (hshows.isLive_iff.2 hshows.root_mem)
    have hd : b.tree.device? b.tree.root = some node.device := DeviceTree.device?_of_node? hn
    exact ⟨node.device, hd, (hheld _ _ hd fun _ => rfl).trans hroot⟩
  · rw [hwired.held x device hd, if_pos hs]
  · obtain ⟨parent, hp, hlive⟩ := hshows.exists_parent (DeviceTree.isLive_of_device? hd) hx
    obtain ⟨node, hn⟩ := Option.isSome_iff_exists.1 hlive
    exact ⟨parent, node.device, hp, DeviceTree.device?_of_node? hn⟩
  · rw [hheld parent above ha hpar, hwired.held x device hd, if_neg hx, placeBehind_of_parent? hwired.along hd hp]
  · -- There is one emulated device, so neither the device nor the one beyond is the television.
    have hirrefl : ∀ y, b.tree.parent? y ≠ some y := fun y hy => hshows.acyclic y (.single hy)
    have hx : ¬ b.IsSink x device := fun h => hirrefl x (hp.trans (congrArg some (hs.1.trans h.1.symm)))
    have hbeyond : ¬ b.IsSink outer beyond := fun h => hirrefl parent (ho.trans (congrArg some (h.1.trans hs.1.symm)))
    rw [hwired.held x device hd, if_neg hx, hwired.held outer beyond hb, if_neg hbeyond,
      placeBehind_of_parent? hwired.along hd hp, placeBehind_of_parent? hwired.along ha ho]

/-- A profile with an emulated television at the first port of a hub, and a player at the second of the
television. -/
def hubProfile : Profile :=
  let player := .mapping [(.string "name", .string "Player"), (.string "type", .string "PlaybackDevice"),
    (.string "port_id", .integer 2)]
  let television := .mapping [(.string "name", .string "TV"), (.string "type", .string "TV"),
    (.string "port_id", .integer 1), (.string "number_children", .integer 1),
    (.string "children", .mapping [(.integer 0, player)])]
  let hub := .mapping [(.string "name", .string "Hub"), (.string "type", .string "AudioSystem"),
    (.string "number_children", .integer 1), (.string "children", .mapping [(.integer 0, television)])]
  ⟨.mapping [(.string "hdmicec", .mapping [(.string "emulated_device", .string "TV"),
    (.string "number_devices", .integer 3), (.string "device_map", .mapping [(.integer 0, hub)])])]⟩

/-- What the profile says. -/
def hubSetup : Setup where
  emulated := "TV"
  declaredDevices := 3
  ports := []
  tree := (((DeviceTree.single (Device.named "Hub" .audioSystem)).attach ⟨0, 0⟩
    { Device.named "TV" .tv with port := 1 }).attach ⟨1, 0⟩ { Device.named "Player" .playback with port := 2 })

def hubBus : Bus :=
  (assigned hubSetup ⟨1, 0⟩).startUnclaimed { Device.named "TV" .tv with logical := some .tv }

theorem reachable_hubBus : hubBus.Reachable := by
  have hsetup : outcome (Setup.ofProfile hubProfile) = .ok hubSetup := by decide +kernel
  have hopened : (ofSetup hubSetup).value = some hubBus := by decide +kernel
  exact .opened hsetup hopened

theorem hubBus_placesFollowPorts : hubBus.pool.taken = [.playbackDevice1, .audioSystem] ∧ hubBus.PlacesFollowPorts :=
  ⟨by decide +kernel, Reachable.placesFollowPorts reachable_hubBus⟩

/-- A device below the television that does not stand behind its port of the television. -/
theorem exists_displaced : ∃ b : Bus, b.Reachable ∧ ∃ x parent device above, b.tree.device? x = some device ∧
    x ≠ b.tree.root ∧ ¬ b.IsSink x device ∧ b.tree.parent? x = some parent ∧ b.tree.device? parent = some above ∧
      device.physical ≠ above.physical.child device.port.toNat :=
  ⟨hubBus, reachable_hubBus, ⟨2, 0⟩, ⟨1, 0⟩,
    { Device.named "Player" .playback with
      port := 2, physical := .ofBytes 1 2 0 0, logical := some .playbackDevice1 },
    { Device.named "TV" .tv with port := 1, physical := .root, logical := some .broadcast },
    by decide +kernel⟩

end CecBus.Bus
