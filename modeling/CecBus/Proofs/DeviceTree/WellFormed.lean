import CecBus.Proofs.DeviceTree.Addressing
import CecBus.Proofs.DeviceTree.Insertion

/-! The invariant of trees. `WellFormed` says that a tree shows some forest whose devices have distinct names; every
operation preserves it, with any arguments and also when it fails. -/

namespace CecBus

namespace DeviceTree

variable {t u : DeviceTree} {id parent : DeviceId} {top : Branch (DeviceId × Device)}

/-- The slots show one tree, whatever the names in it. -/
def IsTree (t : DeviceTree) : Prop := ∃ top : Branch (DeviceId × Device), t.Shows top

/-- The tree shows a forest of devices with distinct names. -/
def WellFormed (t : DeviceTree) : Prop :=
  ∃ top : Branch (DeviceId × Device), t.Shows top ∧ (top.toList.map fun e => e.2.name).Nodup

theorem IsTree.listed (h : t.IsTree) : VacantListed t := by
  obtain ⟨top, hshows⟩ := h
  exact hshows.listed

theorem IsTree.insert (h : t.IsTree) {device : Device} (hi : t.insert parent device = .ok (id, u)) : u.IsTree := by
  obtain ⟨top, hshows⟩ := h
  obtain ⟨hlive, -, rfl, rfl⟩ := insert_eq_ok.1 hi
  exact ⟨_, hshows.attach hlive device⟩

theorem WellFormed.isTree (h : t.WellFormed) : t.IsTree := by
  obtain ⟨top, hshows, -⟩ := h
  exact ⟨top, hshows⟩

theorem WellFormed.listed (h : t.WellFormed) : VacantListed t := h.isTree.listed

theorem WellFormed.device?_of_find? (h : t.WellFormed) {name : String} (hf : t.find? name = some id) :
    ∃ device, t.device? id = some device ∧ device.name = name := by
  obtain ⟨top, hshows, -⟩ := h
  obtain ⟨device, hmem, hname⟩ := hshows.find?_eq_some hf
  exact ⟨device, hshows.device?_eq_some_iff.2 hmem, hname⟩

theorem WellFormed.isLive_of_find? (h : t.WellFormed) {name : String} (hf : t.find? name = some id) : t.isLive id := by
  obtain ⟨device, hd, -⟩ := h.device?_of_find? hf
  exact isLive_of_device? hd

theorem WellFormed.eq_of_name (h : t.WellFormed) {x : DeviceId} {device other : Device} (hid : t.device? id = some device)
    (hx : t.device? x = some other) (hname : device.name = other.name) : id = x := by
  obtain ⟨top, hshows, hnames⟩ := h
  exact congrArg Prod.fst
    (List.inj_on_of_nodup_map hnames (hshows.device?_eq_some_iff.1 hid) (hshows.device?_eq_some_iff.1 hx) hname)

theorem WellFormed.nodup_names (h : t.WellFormed) (hshows : t.Shows top) : (top.toList.map fun e => e.2.name).Nodup := by
  refine List.Nodup.map_on (fun e he x hx hname => ?_) (List.Nodup.of_map _ hshows.nodup)
  have hid : e.1 = x.1 := h.eq_of_name (hshows.device?_eq_some_iff.2 he) (hshows.device?_eq_some_iff.2 hx) hname
  exact List.inj_on_of_nodup_map hshows.nodup he hx hid

theorem WellFormed.find?_of_device? (h : t.WellFormed) {device : Device} (hd : t.device? id = some device) :
    t.find? device.name = some id := by
  have hunique := fun x other (hx : t.device? x = some other) (hname : other.name = device.name) =>
    h.eq_of_name hx hd hname
  obtain ⟨top, hshows, -⟩ := h
  cases hf : t.find? device.name with
  | none => exact absurd rfl (hshows.find?_eq_none_iff.1 hf _ (hshows.device?_eq_some_iff.1 hd))
  | some x =>
    obtain ⟨other, hmem, hname⟩ := hshows.find?_eq_some hf
    rw [hunique x other (hshows.device?_eq_some_iff.2 hmem) hname]

/-! ### Every operation keeps a tree well formed -/

theorem wellFormed_single (device : Device) : (single device).WellFormed :=
  ⟨_, shows_single device, List.nodup_singleton _⟩

theorem WellFormed.insert (h : t.WellFormed) {device : Device} (hi : t.insert parent device = .ok (id, u)) :
    u.WellFormed := by
  obtain ⟨top, hshows, hnames⟩ := h
  obtain ⟨hlive, hfree, rfl, rfl⟩ := insert_eq_ok.1 hi
  refine ⟨_, hshows.attach hlive device, ?_⟩
  have hperm := (hshows.toList_leafBelow_perm hlive (t.nextId, device)).map fun e => e.2.name
  refine hperm.nodup_iff.2 (List.nodup_cons.2 ⟨?_, hnames⟩)
  rw [List.mem_map]
  rintro ⟨e, he, hname⟩
  exact hshows.find?_eq_none_iff.1 hfree e he hname

theorem WellFormed.ofSection {s : Section} (h : outcome (ofSection s) = .ok t) : t.WellFormed :=
  ofSection_preserves (fun device _ _ => wellFormed_single device)
    (fun _ _ _ _ _ _ ht hi => ht.insert hi) h

theorem WellFormed.insertSection (h : t.WellFormed) (parent : DeviceId) (s : Section) :
    (t.insertSection parent s).value.2.WellFormed :=
  insertSection_preserves (fun _ _ _ _ _ _ _ _ _ ht hi => ht.insert hi) h

theorem WellFormed.update (h : t.WellFormed) (g : Device → Device) (hname : ∀ device, (g device).name = device.name) :
    (t.update id g).WellFormed := by
  obtain ⟨top, hshows, hnames⟩ := h
  refine ⟨_, hshows.update g, ?_⟩
  have hsame : (fun e : DeviceId × Device => e.2.name) ∘ changeAt id g = fun e => e.2.name := by
    funext e
    simp only [Function.comp, changeAt]
    split
    · exact hname _
    · rfl
  rw [toList_changedBranch, List.map_map, hsame]
  exact hnames

/-- What the removal of a device that is not the root comes to: its parent is found, and the subtree is pruned. -/
theorem removeSubtree_eq_ok {removed : List Device} :
    outcome (t.removeSubtree id) = .ok (removed, u) ↔
      id ≠ t.root ∧ ∃ parent, t.parent? id = some parent ∧ t.prune parent id = (removed, u) := by
  unfold DeviceTree.removeSubtree
  by_cases hroot : id = t.root
  · simp [hroot]
  · cases hp : t.parent? id with
    | none => simp [hroot]
    | some parent => simp [hroot, Prod.ext_iff]

theorem WellFormed.prune (h : t.WellFormed) (hne : id ≠ t.root) (hparent : t.parent? id = some parent) :
    (t.prune parent id).2.WellFormed := by
  obtain ⟨top, hshows, hnames⟩ := h
  obtain ⟨b, hs, hv⟩ := hshows.exists_subtree (isLive_of_parent? hparent)
  obtain ⟨-, hpruned, -⟩ := hshows.prune hne hparent hs hv
  refine ⟨_, hpruned, ?_⟩
  have hperm := (hshows.toList_prunedBranch_perm hne hs).map fun e => e.2.name
  rw [List.map_append] at hperm
  exact (List.nodup_append.1 (hperm.nodup_iff.1 hnames)).2.1

/-- What a removal leaves: the members of the subtree are gone, the top one also from the children of its parent, and
all else is as it was. The devices come back in preorder. -/
theorem WellFormed.removeSubtree_spec (h : t.WellFormed) {removed : List Device}
    (hr : outcome (t.removeSubtree id) = .ok (removed, u)) :
    removed = (t.members id).filterMap t.device? ∧ u.root = t.root ∧
      ∀ x, u.node? x = if x ∈ t.members id then none else
        (t.node? x).map fun node => { node with children := node.children.filter (· ≠ id) } := by
  obtain ⟨hne, parent, hparent, hprune⟩ := removeSubtree_eq_ok.1 hr
  obtain ⟨top, hshows, -⟩ := h
  obtain ⟨b, hs, hv⟩ := hshows.exists_subtree (isLive_of_parent? hparent)
  obtain ⟨hdevices, hpruned, hview⟩ := hshows.prune hne hparent hs hv
  obtain ⟨place, hheld⟩ := hshows.holds.subtree hs
  rw [hprune] at hdevices hpruned hview
  rw [hshows.members_eq hs hv]
  exact ⟨hdevices.trans hheld.filterMap_device?.symm, hpruned.root.trans hshows.root.symm, hview⟩

theorem WellFormed.device?_removeSubtree (h : t.WellFormed) {removed : List Device}
    (hr : outcome (t.removeSubtree id) = .ok (removed, u)) (x : DeviceId) :
    u.device? x = if x ∈ t.members id then none else t.device? x := by
  rw [device?, (h.removeSubtree_spec hr).2.2 x, device?]
  split
  · rfl
  · rw [Option.map_map]
    rfl

/-- No device has more children than before. -/
theorem WellFormed.length_children_removeSubtree (h : t.WellFormed) {removed : List Device}
    (hr : outcome (t.removeSubtree id) = .ok (removed, u)) (x : DeviceId) :
    (u.children x).length ≤ (t.children x).length := by
  rw [children, (h.removeSubtree_spec hr).2.2 x, children]
  split
  · exact Nat.zero_le _
  · cases t.node? x with
    | none => exact Nat.zero_le _
    | some node => exact List.length_filter_le _ _

theorem WellFormed.removeSubtree (h : t.WellFormed) {removed : List Device}
    (hr : outcome (t.removeSubtree id) = .ok (removed, u)) : u.WellFormed := by
  obtain ⟨hne, parent, hparent, hprune⟩ := removeSubtree_eq_ok.1 hr
  have := h.prune hne hparent
  rwa [hprune] at this

/-- Addresses change, but no names. -/
theorem WellFormed.assignAddresses (h : t.WellFormed) (emulated : DeviceId) (pool : AddressPool) :
    (t.assignAddresses emulated pool).value.1.WellFormed :=
  assignAddresses_preserves (P := fun u _ => u.WellFormed) (fun _ _ _ _ hu _ => hu.update _ fun _ => rfl) h

end DeviceTree

end CecBus
