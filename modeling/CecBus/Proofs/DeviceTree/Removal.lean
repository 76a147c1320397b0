import CecBus.Proofs.DeviceTree.Generations
import CecBus.Proofs.DeviceTree.Traversal

/-! Removing a device. The root stays, and an id that stands for nothing is refused; otherwise the subtree of the device
is taken out as a whole, and nothing else is touched. The subtree is detached before it is walked, but its own links are
still there, so that the walk goes through all of it. Main result: `Handled.removal`. -/

namespace CecBus.DeviceTree

variable {t u : DeviceTree} {id parent x : DeviceId} {removed : List Device} {top : Branch (DeviceId × Device)}

/-- A tree after a subtree was taken out of it. -/
structure TakenOut (t : DeviceTree) (id : DeviceId) (removed : List Device) (u : DeviceTree) : Prop where
  /-- The devices of the subtree come back in preorder. -/
  devices : removed.map some = (t.walk id).map fun e => t.device? e.1
  /-- The ids of the subtree stand for nothing any more, and all others as before. -/
  isLive_iff (x : DeviceId) : u.isLive x ↔ t.isLive x ∧ ¬ t.IsAbove id x
  count : u.count + removed.length = t.count
  root : u.root = t.root
  device (x : DeviceId) : ¬ t.IsAbove id x → u.device? x = t.device? x
  parent (x : DeviceId) : ¬ t.IsAbove id x → u.parent? x = t.parent? x
  children (x : DeviceId) : ¬ t.IsAbove id x → t.parent? id ≠ some x → u.children x = t.children x
  /-- The parent loses one child, and the others stay in their order. -/
  siblings : ∃ parent before after, t.parent? id = some parent ∧ ¬ t.IsAbove id parent ∧
    t.children parent = before ++ id :: after ∧ id ∉ before ++ after ∧ u.children parent = before ++ after
  /-- Every vacant slot is listed once. -/
  listed : VacantListed u

/-- What a removal comes to. -/
structure Removal (t : DeviceTree) (id : DeviceId) : Prop where
  of_root : id = t.root → outcome (t.removeSubtree id) = .error .rootRemoval
  of_stale : t.isLive id = false → outcome (t.removeSubtree id) = .error .staleId
  /-- Otherwise it succeeds. -/
  takenOut : id ≠ t.root → t.isLive id → ∃ removed,
    outcome (t.removeSubtree id) = .ok (removed, t.after (.removeSubtree id)) ∧
      t.TakenOut id removed (t.after (.removeSubtree id))
  unchanged (e : TreeError) : outcome (t.removeSubtree id) = .error e → t.after (.removeSubtree id) = t
  /-- The loop that follows the children of the detached device goes through its whole subtree. -/
  loop (parent : DeviceId) (order : List (DeviceId × Nat)) : t.parent? id = some parent →
    ((t.detach parent id).Visits [(id, 0)] order ↔ order = t.walk id)

namespace Shows

/-- The parent is not in the subtree of its child. -/
theorem not_isAbove_parent (h : t.Shows top) (hparent : t.parent? id = some parent) : ¬ t.IsAbove id parent := by
  intro habove
  refine h.acyclic id ?_
  exact Relation.transGen_swap.1 (Relation.TransGen.head' hparent habove)

theorem visits_detach_iff (h : t.Shows top) (hparent : t.parent? id = some parent) {order : List (DeviceId × Nat)} :
    (t.detach parent id).Visits [(id, 0)] order ↔ order = t.walk id := by
  obtain ⟨b, hs, rfl⟩ := h.exists_subtree (isLive_of_parent? hparent)
  have hnodup : b.ids.Nodup := by rw [← Branch.ids_forest]; exact h.nodup_subtree hs
  obtain ⟨place, hheld⟩ := h.holds_detach hparent hs rfl hnodup
  have hloop : (t.detach parent b.value.1).Visits [(b.value.1, 0)] (b.forest.places 0 ++ []) := hheld.unfolds.visits .nil
  rw [List.append_nil] at hloop
  have hwalk : t.walk b.value.1 = b.forest.places 0 := h.walk_eq hs rfl
  rw [hwalk]
  exact ⟨fun ho => ho.eq hloop, fun ho => ho ▸ hloop⟩

theorem takenOut (h : t.Shows top) (hne : id ≠ t.root) (hparent : t.parent? id = some parent) :
    t.TakenOut id (t.prune parent id).1 (t.prune parent id).2 := by
  have hlive := isLive_of_parent? hparent
  obtain ⟨b, hs, hv⟩ := h.exists_subtree hlive
  obtain ⟨place, hheld⟩ := h.holds.subtree hs
  obtain ⟨hdevices, hpruned, hview⟩ := h.prune hne hparent hs hv
  -- What is not above stays as it is, but for the id among its children.
  have hmem : ∀ x, x ∈ b.ids ↔ t.IsAbove id x := fun x => by
    rw [← h.members_eq hs hv, h.mem_members_iff_isAbove hlive]
  have hstays : ∀ x, ¬ t.IsAbove id x → (t.prune parent id).2.node? x =
      (t.node? x).map fun node => { node with children := node.children.filter (· ≠ id) } := fun x hx => by
    rw [hview, if_neg (mt (hmem x).1 hx)]
  have hchildren : ∀ x, ¬ t.IsAbove id x →
      (t.prune parent id).2.children x = (t.children x).filter (· ≠ id) := fun x hx => by
    rw [DeviceTree.children, hstays x hx, DeviceTree.children]
    cases t.node? x <;> rfl
  refine ⟨?_, fun x => ?_, ?_, hpruned.root.trans h.root.symm, fun x hx => ?_, fun x hx => ?_, fun x hx hother => ?_, ?_,
    hpruned.listed⟩
  · have hwalk : (t.walk id).map (fun e => t.device? e.1) = b.ids.map t.device? := by
      rw [← h.members_eq hs hv, members, List.map_map]
      rfl
    rw [hwalk, hdevices, Branch.ids, List.map_map, List.map_map]
    refine List.map_congr_left fun e he => (hheld.device?_of_mem ?_).symm
    rwa [Branch.toList_forest]
  · rw [isLive, hview, ← hmem]
    by_cases hx : x ∈ b.ids <;> simp [hx, isLive]
  · have hlength := (h.toList_prunedBranch_perm hne hs).length_eq
    rw [List.length_append] at hlength
    rw [hpruned.count_eq, h.count_eq, hdevices, List.length_map, hlength, Nat.add_comm]
  · rw [DeviceTree.device?, hstays x hx, DeviceTree.device?, Option.map_map]
    rfl
  · rw [DeviceTree.parent?, hstays x hx, DeviceTree.parent?]
    cases t.node? x <;> rfl
  · rw [hchildren x hx, List.filter_eq_self]
    intro y hy
    refine decide_eq_true fun he => hother ?_
    rw [← he]
    exact h.children_of_parent hy
  · obtain ⟨before, after, hsplit⟩ := List.append_of_mem (h.mem_children_of_parent hparent)
    have hnodup := h.children_nodup parent
    rw [hsplit, List.nodup_middle, List.nodup_cons] at hnodup
    have hkept : (before ++ after).filter (· ≠ id) = before ++ after :=
      List.filter_eq_self.2 fun y hy => decide_eq_true fun he => hnodup.1 (he ▸ hy)
    have habove := h.not_isAbove_parent hparent
    refine ⟨parent, before, after, hparent, habove, hsplit, hnodup.1, ?_⟩
    rw [hchildren parent habove, hsplit, List.filter_append, List.filter_cons_of_neg (by simp), ← List.filter_append, hkept]

end Shows

/-- Whatever was done with a tree, also by hand: a removal is refused and changes nothing, or it takes out the subtree
of the device and nothing else. -/
theorem Handled.removal (h : t.Handled) (id : DeviceId) : t.Removal id := by
  obtain ⟨top, hshows⟩ := h.isTree
  have hroot : t.isLive t.root := hshows.isLive_iff.2 hshows.root_mem
  refine ⟨?_, fun hdead => ?_, fun hne hlive => ?_, fun e he => ?_, fun parent order hparent => hshows.visits_detach_iff hparent⟩
  · rintro rfl
    simp [removeSubtree]
  · have hne : id ≠ t.root := by
      rintro rfl
      rw [hroot] at hdead
      cases hdead
    have hparent : t.parent? id = none := by
      rw [isLive, Option.isSome_eq_false_iff, Option.isNone_iff_eq_none] at hdead
      rw [parent?, hdead]
      rfl
    simp [removeSubtree, hne, hparent]
  · obtain ⟨parent, hparent, -⟩ := hshows.exists_parent hlive hne
    have hok : outcome (t.removeSubtree id) = .ok (t.prune parent id) := removeSubtree_eq_ok.2 ⟨hne, parent, hparent, rfl⟩
    have hafter : t.after (.removeSubtree id) = (t.prune parent id).2 := by rw [DeviceTree.after, hok]
    rw [hafter]
    exact ⟨_, hok, hshows.takenOut hne hparent⟩
  · rw [DeviceTree.after, he]

/-- The tuner goes, and with it the player behind it; the other player stays. -/
theorem tuner_removal : (playerBehindTuner.after (.insert ⟨0, 0⟩ (Device.named "Recorder" .recorder))).Handled ∧
    (playerBehindTuner.after (.insert ⟨0, 0⟩ (Device.named "Recorder" .recorder))).Removal ⟨1, 1⟩ ∧
    (((playerBehindTuner.after (.insert ⟨0, 0⟩ (Device.named "Recorder" .recorder))).after
      (.removeSubtree ⟨1, 1⟩)).walk ⟨0, 0⟩) = [(⟨0, 0⟩, 0), (⟨3, 0⟩, 1)] := by
  have hhandled : (playerBehindTuner.after (.insert ⟨0, 0⟩ (Device.named "Recorder" .recorder))).Handled :=
    .after (.after (.after (.after (.after (.single _) _) _) _) _) _
  exact ⟨hhandled, Handled.removal hhandled _, by decide +kernel⟩

end CecBus.DeviceTree
