import CecBus.Proofs.DeviceTree.Grafting
import CecBus.Proofs.DeviceTree.Overview
import CecBus.Proofs.DeviceTree.Placement

/-! Removing what a tree has gained. The subtree of the device that came is exactly what is new, so its removal leaves
every id with the node that it stood for before. Addresses that are given in between do not matter, as long as the
old devices keep theirs. -/

namespace CecBus.DeviceTree

variable {t u v : DeviceTree} {id x parent : DeviceId} {device : Device} {g : Layout}

/-! ### Addresses that are given in between -/

theorem Readdressed.holds (h : t.Readdressed u) {above : Option DeviceId} {f : Layout} (hf : t.Holds above f) :
    ∃ f', u.Holds above f' ∧ f'.headIds = f.headIds ∧ f'.ids = f.ids := by
  induction f generalizing above with
  | nil => exact ⟨.nil, trivial, rfl, rfl⟩
  | cons entry below beside below_ih beside_ih =>
    obtain ⟨hnode, hbelow, hbeside⟩ := hf
    obtain ⟨below', hb, hheads, hids⟩ := below_ih hbelow
    obtain ⟨beside', hs, hheads', hids'⟩ := beside_ih hbeside
    obtain ⟨e, -, he⟩ := h.live _ _ hnode
    refine ⟨.cons (entry.1, e) below' beside', ⟨?_, hb, hs⟩, congrArg (entry.1 :: ·) hheads', ?_⟩
    · rw [he, hheads]
    · rw [Forest.ids_cons, Forest.ids_cons, hids, hids']

/-- A tree in which old devices are as they were has gained the new ones, whatever addresses these have. -/
theorem Gained.readdressed (h : t.Gained u parent (.cons (id, device) g .nil)) (hr : u.Readdressed v)
    (hsame : ∀ x d, t.device? x = some d → v.device? x = some d) :
    ∃ e g', device.Readdressed e ∧ t.Gained v parent (.cons (id, e) g' .nil) := by
  obtain ⟨hnode, hbelow, -⟩ := h.held
  obtain ⟨e, he, hv⟩ := hr.live _ _ hnode
  obtain ⟨g', hg', hheads, hids⟩ := hr.holds hbelow
  have hall : (Forest.cons (id, e) g' .nil).ids = (Forest.cons (id, device) g .nil).ids := by
    rw [Forest.ids_cons, Forest.ids_cons, hids]
  refine ⟨e, g', he, hr.root.trans h.root, ⟨by rw [hv, hheads], hg', trivial⟩, by rw [hall]; exact h.nodup,
    fun x hx => h.fresh x (hall ▸ hx), fun x hx => ?_, fun x hx => ?_⟩
  · obtain ⟨node, hn⟩ := Option.isSome_iff_exists.1 hx
    have hold := h.old x hx
    rw [hn, Option.map_some] at hold
    obtain ⟨d, -, hd⟩ := hr.live _ _ hold
    have hkept : d = node.device := by
      have hv := hsame x node.device (device?_of_node? hn)
      rw [DeviceTree.device?, hd] at hv
      exact Option.some.inj hv
    rw [hd, hn, Option.map_some, hkept]
    by_cases hxp : x = parent
    · simp [hxp, Forest.headIds, Forest.heads]
    · simp [hxp]
  · rw [hr.isLive_eq] at hx
    rw [hall]
    exact h.complete x hx

/-! ### The way back -/

/-- What is below the device that came, itself included, is what is new. -/
theorem Gained.mem_members_iff (h : t.Gained u parent (.cons (id, device) g .nil)) (ht : t.WellFormed)
    (hu : u.WellFormed) : x ∈ u.members id ↔ u.isLive x ∧ ¬ t.isLive x := by
  have hid : id ∈ (Forest.cons (id, device) g .nil).ids := by simp
  obtain ⟨below, hbelow, -⟩ := ht
  obtain ⟨top, hshows, -⟩ := hu
  obtain ⟨b, hs, hv⟩ := hshows.exists_subtree (h.held.isLive_of_mem hid)
  obtain ⟨place, hheld⟩ := hshows.holds.subtree hs
  have hnodup := hshows.nodup_subtree hs
  rw [hshows.members_eq hs hv, ← Branch.ids_forest]
  constructor
  · -- The parent of an old device is old, so from the new top only new ones are reached.
    intro hx
    refine ⟨hheld.isLive_of_mem hx, hheld.forall_mem (P := fun x => ¬ t.isLive x) (fun x y hnew hy hold => hnew ?_)
      (fun x hx => ?_) x hx⟩
    · have hparent : t.parent? y = some x := by
        rw [← hshows.children_of_parent hy, parent?, parent?, h.old y hold, Option.bind_map]
        congr 1
        funext node
        by_cases hyp : y = parent <;> simp [hyp]
      exact isLive_of_mem_children (hbelow.mem_children_of_parent hparent)
    · rw [List.mem_singleton.1 hx, hv]
      exact h.fresh id hid
  · rintro ⟨hux, htx⟩
    refine h.held.forall_mem (P := fun x => x ∈ b.forest.ids)
      (fun x y hx hy => (hheld.children_subset hnodup hx hy).1) (fun x hx => ?_) x
      ((h.complete x hux).resolve_left htx)
    rw [List.mem_singleton.1 hx, ← hv]
    exact b.forest.headIds_subset List.mem_cons_self

/-- Removing the device that came restores every node. -/
theorem Gained.exists_removeSubtree (h : t.Gained u parent (.cons (id, device) g .nil)) (ht : t.WellFormed)
    (hu : u.WellFormed) : ∃ removed v, outcome (u.removeSubtree id) = .ok (removed, v) ∧ t.SameNodes v := by
  have hfresh : ¬ t.isLive id := h.fresh id (by simp)
  have hmembers := fun x => h.mem_members_iff (x := x) ht hu
  obtain ⟨top, hshows, -⟩ := ht
  have hroot : id ≠ u.root := by
    rw [h.root]
    rintro rfl
    exact hfresh (hshows.isLive_iff.2 hshows.root_mem)
  have hparent : u.parent? id = some parent := h.held.parent_of_headIds List.mem_cons_self
  obtain ⟨removed, v, hr⟩ : ∃ removed v, outcome (u.removeSubtree id) = .ok (removed, v) :=
    ⟨_, _, removeSubtree_eq_ok.2 ⟨hroot, parent, hparent, rfl⟩⟩
  obtain ⟨-, hvroot, hview⟩ := hu.removeSubtree_spec hr
  refine ⟨removed, v, hr, hvroot.trans h.root, fun x => ?_⟩
  rw [hview]
  cases hn : t.node? x with
  | some node =>
    have hx : t.isLive x := isLive_of_node? hn
    have hold : id ∉ node.children := fun hid => by
      have hchild : id ∈ t.children x := by rwa [children, hn]
      exact hfresh (isLive_of_parent? (hshows.children_of_parent hchild))
    have hkept : node.children.filter (· ≠ id) = node.children :=
      List.filter_eq_self.2 fun y hy => decide_eq_true fun he => hold (he ▸ hy)
    have hgone : (node.children ++ [id]).filter (· ≠ id) = node.children := by
      rw [List.filter_append, hkept]
      simp
    rw [if_neg fun hm => ((hmembers x).1 hm).2 hx, h.old x hx, hn, Option.map_some, Option.map_some]
    have hheads : (Forest.cons (id, device) g .nil).headIds = [id] := rfl
    by_cases hxp : x = parent
    · rw [if_pos hxp, hheads]
      dsimp only
      rw [hgone]
    · rw [if_neg hxp, hkept]
  | none =>
    have hx : ¬ t.isLive x := by simp [DeviceTree.isLive, hn]
    rw [ite_eq_left_iff]
    intro hm
    have hdead : u.node? x = none := by
      rw [← Option.not_isSome_iff_eq_none]
      exact fun hux => hm ((hmembers x).2 ⟨hux, hx⟩)
    rw [hdead]
    rfl

end CecBus.DeviceTree
