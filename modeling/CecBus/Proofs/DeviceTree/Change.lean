import CecBus.Proofs.DeviceTree.Shape

/-! What the operations on a tree come to when it is read as a forest: a new device is a leaf, a removal takes a
subtree out, and a change of a device stays in its place. -/

namespace CecBus.DeviceTree

variable {t u : DeviceTree} {id x parent : DeviceId} {top : Branch (DeviceId × Device)}

/-! ### The first device -/

theorem shows_single (device : Device) : (single device).Shows ⟨(⟨0, 0⟩, device), .nil⟩ where
  root := rfl
  holds := ⟨rfl, trivial, trivial⟩
  nodup := List.nodup_singleton _
  complete id h := by
    obtain ⟨node, hnode⟩ := Option.isSome_iff_exists.1 h
    obtain ⟨slot, hs, hg, -⟩ := node?_eq_some.1 hnode
    obtain ⟨i, g⟩ := id
    have hi : i = 0 := by
      have := (List.getElem?_eq_some_iff.1 hs).1
      simpa [single, occupy] using this
    subst hi
    cases hs
    simp only at hg
    simp [← hg, Branch.ids, Branch.toList]
  listed := ⟨List.nodup_nil, fun index => by
    simp only [single, occupy, List.not_mem_nil, false_iff, not_exists, not_and]
    intro slot hs
    cases index with
    | zero => cases hs; simp
    | succ n => simp at hs⟩

/-! ### Adding a leaf -/

theorem node?_attach (h : VacantListed t) (hp : t.isLive parent) (device : Device) :
    (t.attach parent device).node? x =
      if x = t.nextId then some { device, parent := some parent }
      else (t.node? x).map fun node =>
        if x = parent then { node with children := node.children ++ [t.nextId] } else node := by
  have hne : ¬ t.nextId = parent := by
    intro he
    rw [← he, not_isLive_nextId h] at hp
    cases hp
  rw [attach, node?_modify, node?_occupy h]
  by_cases hx : x = t.nextId
  · rw [if_pos hx, if_neg (by rwa [hx]), if_pos hx]
  · rw [if_neg hx, if_neg hx]
    by_cases hxp : x = parent <;> simp [hxp]

theorem Holds.add {above : Option DeviceId} {f : Layout} {device : Device} (h : t.Holds above f)
    (hnode : t.node? id = some { device, parent := above }) : t.Holds above (f.add (id, device)) := by
  induction f with
  | nil => exact ⟨hnode, trivial, trivial⟩
  | cons entry below beside _ beside_ih =>
    obtain ⟨hentry, hbelow, hbeside⟩ := h
    exact ⟨hentry, hbelow, beside_ih hbeside⟩

/-- Attaching a device below one of a held forest adds a leaf there. -/
theorem Holds.attach {above : Option DeviceId} {f : Layout} (hlisted : VacantListed t) (hp : t.isLive parent)
    (device : Device) (h : t.Holds above f) (hnodup : f.ids.Nodup) (hnew : t.nextId ∉ f.ids) :
    (t.attach parent device).Holds above (f.addBelow parent (t.nextId, device)) := by
  induction f generalizing above with
  | nil => trivial
  | cons entry below beside below_ih beside_ih =>
    obtain ⟨hnode, hbelow, hbeside⟩ := h
    simp only [Forest.ids_cons, List.nodup_cons, List.mem_append, not_or] at hnodup
    obtain ⟨⟨hnb, hns⟩, hrest⟩ := hnodup
    obtain ⟨hb, hs, -⟩ := List.nodup_append.1 hrest
    simp only [Forest.ids_cons, List.mem_cons, List.mem_append, not_or] at hnew
    obtain ⟨hentry, hnewb, hnews⟩ := hnew
    rw [Forest.addBelow]
    have hview := node?_attach (x := entry.1) hlisted hp device
    rw [if_neg (Ne.symm hentry), hnode] at hview
    refine ⟨?_, ?_, beside_ih hbeside hs hnews⟩
    · rw [hview]
      by_cases he : entry.1 = parent <;> simp [he, Forest.headIds]
    · by_cases he : entry.1 = parent
      · subst he
        rw [if_pos rfl]
        refine (hbelow.congr fun x hx => ?_).add ?_
        · have hxe : ¬ x = entry.1 := fun h => hnb (h ▸ hx)
          have hxn : ¬ x = t.nextId := fun h => hnewb (h ▸ hx)
          rw [node?_attach hlisted hp, if_neg hxn]
          simp [hxe]
        · rw [node?_attach hlisted hp, if_pos rfl]
      · rw [if_neg he]
        exact below_ih hbelow hb hnewb

def leafBelow (parent : DeviceId) (entry : DeviceId × Device) (top : Branch (DeviceId × Device)) :
    Branch (DeviceId × Device) :=
  ⟨top.value, if top.value.1 = parent then top.below.add entry else top.below.addBelow parent entry⟩

theorem forest_leafBelow (entry : DeviceId × Device) :
    (leafBelow parent entry top).forest = top.forest.addBelow parent entry := rfl

namespace Shows

theorem nextId_not_mem (h : t.Shows top) : t.nextId ∉ top.ids := by
  intro hmem
  have hlive := h.isLive_iff.2 hmem
  rw [not_isLive_nextId h.listed] at hlive
  cases hlive

theorem toList_leafBelow_perm (h : t.Shows top) (hp : t.isLive parent) (entry : DeviceId × Device) :
    (leafBelow parent entry top).toList.Perm (entry :: top.toList) := by
  have hnodup : top.forest.ids.Nodup := by rw [Branch.ids_forest]; exact h.nodup
  have hmem : parent ∈ top.forest.ids := by rw [Branch.ids_forest]; exact h.complete _ hp
  have hperm := Forest.toList_addBelow_perm entry hnodup hmem
  rwa [← forest_leafBelow, Branch.toList_forest, Branch.toList_forest] at hperm

theorem attach (h : t.Shows top) (hp : t.isLive parent) (device : Device) :
    (t.attach parent device).Shows (leafBelow parent (t.nextId, device) top) where
  root := by rw [DeviceTree.attach, root_modify, root_occupy]; exact h.root
  holds := by
    rw [forest_leafBelow]
    have hids : top.forest.ids = top.ids := Branch.ids_forest top
    exact h.holds.attach h.listed hp device (by rw [hids]; exact h.nodup) (by rw [hids]; exact h.nextId_not_mem)
  nodup := by
    have hperm := (h.toList_leafBelow_perm hp (t.nextId, device)).map Prod.fst
    exact hperm.nodup_iff.2 (List.nodup_cons.2 ⟨h.nextId_not_mem, h.nodup⟩)
  complete x hx := by
    have hperm := (h.toList_leafBelow_perm hp (t.nextId, device)).map Prod.fst
    refine hperm.mem_iff.2 ?_
    by_cases hn : x = t.nextId
    · rw [hn]
      exact List.mem_cons_self
    · refine List.mem_cons_of_mem _ (h.complete x ?_)
      rw [isLive, node?_attach h.listed hp, if_neg hn, Option.isSome_map] at hx
      exact hx
  listed := (h.listed.occupy _).modify _

end Shows

/-! ### Changing a device in its place -/

theorem node?_update (g : Device → Device) :
    (t.update id g).node? x =
      (t.node? x).map fun node => if x = id then { node with device := g node.device } else node := by
  rw [update, node?_modify]
  by_cases hx : x = id <;> simp [hx]

@[simp] theorem isLive_update (g : Device → Device) : (t.update id g).isLive x = t.isLive x := isLive_modify _

@[simp] theorem root_update (g : Device → Device) : (t.update id g).root = t.root := rfl

@[simp] theorem children_update (g : Device → Device) : (t.update id g).children x = t.children x := by
  rw [children, node?_update, children]
  cases t.node? x with
  | none => rfl
  | some node => by_cases hx : x = id <;> simp [hx]

@[simp] theorem length_slots_update (g : Device → Device) : (t.update id g).slots.length = t.slots.length :=
  length_slots_modify _

theorem device?_update (g : Device → Device) :
    (t.update id g).device? x = (t.device? x).map fun device => if x = id then g device else device := by
  rw [device?, node?_update, device?, Option.map_map, Option.map_map]
  congr 1
  funext node
  by_cases hx : x = id <;> simp [hx]

theorem update_eq_self {g : Device → Device} (h : ∀ device, t.device? id = some device → g device = device) :
    t.update id g = t := by
  have hnode : ∀ slot, t.slots[id.index]? = some slot → slot.generation = id.generation →
      slot.node.map (fun node => { node with device := g node.device }) = slot.node := by
    intro slot hs hg
    cases hn : slot.node with
    | none => rfl
    | some node =>
      have hd : t.device? id = some node.device := device?_of_node? (node?_eq_some.2 ⟨slot, hs, hg, hn⟩)
      rw [Option.map_some, h _ hd]
  have hslots : (t.update id g).slots = t.slots := by
    apply List.ext_getElem?
    intro index
    simp only [update, modify, List.getElem?_modify]
    cases hs : t.slots[index]? with
    | none => rfl
    | some slot =>
      by_cases hi : id.index = index
      · subst hi
        by_cases hg : slot.generation = id.generation
        · simp only [if_true, Option.map_eq_map, Option.map_some, if_pos hg, hnode slot hs hg]
        · simp [hg]
      · simp [hi]
  calc t.update id g = { t with slots := (t.update id g).slots } := rfl
    _ = t := by rw [hslots]

def changeAt (id : DeviceId) (g : Device → Device) (entry : DeviceId × Device) : DeviceId × Device :=
  (entry.1, if entry.1 = id then g entry.2 else entry.2)

def changedBranch (id : DeviceId) (g : Device → Device) (top : Branch (DeviceId × Device)) :
    Branch (DeviceId × Device) :=
  ⟨changeAt id g top.value, top.below.map (changeAt id g)⟩

theorem toList_changedBranch (g : Device → Device) :
    (changedBranch id g top).toList = top.toList.map (changeAt id g) := by
  simp [changedBranch, Branch.toList]

theorem ids_changedBranch (g : Device → Device) : (changedBranch id g top).ids = top.ids := by
  rw [Branch.ids, toList_changedBranch, List.map_map]
  rfl

theorem Holds.update {above : Option DeviceId} {f : Layout} (h : t.Holds above f) (g : Device → Device) :
    (t.update id g).Holds above (f.map (changeAt id g)) := by
  induction f generalizing above with
  | nil => trivial
  | cons entry below beside below_ih beside_ih =>
    obtain ⟨hnode, hbelow, hbeside⟩ := h
    have hheads : (below.map (changeAt id g)).headIds = below.headIds := by
      rw [Forest.headIds, Forest.heads_map, List.map_map]
      rfl
    refine ⟨?_, below_ih hbelow, beside_ih hbeside⟩
    rw [node?_update, hnode, hheads]
    by_cases he : entry.1 = id <;> simp [he]

theorem Shows.update (h : t.Shows top) (g : Device → Device) :
    (t.update id g).Shows (changedBranch id g top) where
  root := h.root
  holds := h.holds.update g
  nodup := by rw [ids_changedBranch]; exact h.nodup
  complete x hx := by rw [ids_changedBranch]; exact h.complete x (by rwa [isLive_update] at hx)
  listed := h.listed.modify _

/-! ### Taking a subtree out -/

theorem node?_detach : (t.detach parent id).node? x =
    (t.node? x).map fun node =>
      if x = parent then { node with children := node.children.filter (· ≠ id) } else node := by
  rw [detach, node?_modify]
  by_cases hx : x = parent <;> simp [hx]

def prunedBranch (id : DeviceId) (top : Branch (DeviceId × Device)) : Branch (DeviceId × Device) :=
  ⟨top.value, top.below.without id⟩

theorem forest_prunedBranch (hne : top.value.1 ≠ id) : (prunedBranch id top).forest = top.forest.without id := by
  rw [Branch.forest, Branch.forest, Forest.without, if_neg hne]
  rfl

/-- A forest stays held without a subtree when the rest of the slots only lose its id among their children. -/
theorem Holds.without {above : Option DeviceId} {f : Layout} (h : t.Holds above f)
    (hsame : ∀ x ∈ (f.without id).ids, u.node? x =
      (t.node? x).map fun node => { node with children := node.children.filter (· ≠ id) }) :
    u.Holds above (f.without id) := by
  induction f generalizing above with
  | nil => trivial
  | cons entry below beside below_ih beside_ih =>
    obtain ⟨hnode, hbelow, hbeside⟩ := h
    rw [Forest.without] at hsame ⊢
    by_cases he : entry.1 = id
    · rw [if_pos he] at hsame ⊢
      exact beside_ih hbeside hsame
    · rw [if_neg he] at hsame ⊢
      refine ⟨?_, below_ih hbelow fun x hx => hsame x ?_, beside_ih hbeside fun x hx => hsame x ?_⟩
      · rw [hsame _ (by simp), hnode]
        simp only [Option.map_some, Forest.headIds, Forest.heads_without, List.filter_map]
        rfl
      · simp [hx]
      · simp [hx]

namespace Shows

variable {b : Branch (DeviceId × Device)}

theorem toList_prunedBranch_perm (h : t.Shows top) (hne : id ≠ t.root) (hs : top.forest.subtree? id = some b) :
    top.toList.Perm (b.toList ++ (prunedBranch id top).toList) := by
  have hperm := Forest.toList_perm_without (by rw [Branch.ids_forest]; exact h.nodup) hs
  have htop : top.value.1 ≠ id := by rw [← h.root]; exact hne.symm
  rwa [← forest_prunedBranch htop, Branch.toList_forest, Branch.toList_forest] at hperm

/-- Only the parent can lose the id, so the detached tree is the filtered one everywhere. -/
theorem node?_detach_of_parent (h : t.Shows top) (hparent : t.parent? id = some parent) (x : DeviceId) :
    (t.detach parent id).node? x =
      (t.node? x).map fun node => { node with children := node.children.filter (· ≠ id) } := by
  rw [node?_detach]
  cases hn : t.node? x with
  | none => rfl
  | some node =>
    by_cases hx : x = parent
    · simp [hx]
    · have hout : id ∉ node.children := by
        intro hmem
        have hother := h.children_of_parent (x := x) (by simpa [children, hn] using hmem)
        rw [hparent] at hother
        exact hx (Option.some.inj hother).symm
      have hfilter : node.children.filter (· ≠ id) = node.children := by
        rw [List.filter_eq_self]
        intro y hy
        exact decide_eq_true fun he => hout (he ▸ hy)
      rw [Option.map_some, if_neg hx, Option.map_some, hfilter]

/-- The parent is not below its child, so the subtree is still there as a whole. -/
theorem holds_detach (h : t.Shows top) (hparent : t.parent? id = some parent)
    (hs : top.forest.subtree? id = some b) (hv : b.value.1 = id) (hnodup : b.ids.Nodup) :
    ∃ place, (t.detach parent id).Holds place b.forest := by
  obtain ⟨place, hheld⟩ := h.holds.subtree hs
  have hparentOut : parent ∉ b.ids := by
    intro hmem
    have hchild := h.mem_children_of_parent hparent
    rw [← Branch.ids_forest] at hmem hnodup
    refine (hheld.children_subset hnodup hmem hchild).2 ?_
    rw [← hv]
    exact List.mem_cons_self
  refine ⟨place, hheld.congr fun x hx => ?_⟩
  have hne : x ≠ parent := fun he => hparentOut (by rwa [← he, ← Branch.ids_forest])
  rw [detach, node?_modify, if_neg hne]

/-- The members of a subtree that is taken out are found after it was detached. -/
theorem members_detach (h : t.Shows top) (hparent : t.parent? id = some parent)
    (hs : top.forest.subtree? id = some b) (hv : b.value.1 = id) (hnodup : b.ids.Nodup) :
    (t.detach parent id).members id = b.ids := by
  obtain ⟨place, hheld⟩ := h.holds_detach hparent hs hv hnodup
  have hlength : b.toList.length ≤ (t.detach parent id).slots.length := by
    rw [detach, length_slots_modify]
    exact h.length_subtree_le hs
  have hmembers := hheld.members_eq hlength
  rwa [hv] at hmembers

/-- What pruning does: the devices of the subtree come back in preorder, their ids stand for nothing any more, and
the rest is the forest without the subtree. -/
theorem prune (h : t.Shows top) (hne : id ≠ t.root) (hparent : t.parent? id = some parent)
    (hs : top.forest.subtree? id = some b) (hv : b.value.1 = id) :
    (t.prune parent id).1 = b.toList.map Prod.snd ∧ (t.prune parent id).2.Shows (prunedBranch id top) ∧
      ∀ x, (t.prune parent id).2.node? x = if x ∈ b.ids then none else
        (t.node? x).map fun node => { node with children := node.children.filter (· ≠ id) } := by
  have hpermIds : top.ids.Perm (b.ids ++ (prunedBranch id top).ids) := by
    have := (h.toList_prunedBranch_perm hne hs).map Prod.fst
    rwa [List.map_append] at this
  obtain ⟨hnodupb, hnodupw, hdisj⟩ := List.nodup_append.1 (hpermIds.nodup_iff.1 h.nodup)
  obtain ⟨place, hheld⟩ := h.holds_detach hparent hs hv hnodupb
  have hmembers := h.members_detach hparent hs hv hnodupb
  have hlive : ∀ x ∈ b.ids, (t.detach parent id).isLive x := fun x hx =>
    hheld.isLive_of_mem (by rwa [Branch.ids_forest])
  have hlisted : VacantListed (t.detach parent id) := h.listed.modify _
  obtain ⟨hdevices, hnodes, hlisted, hroot⟩ := vacateAll_spec hlisted b.ids hnodupb hlive
  have hview : ∀ x, (t.prune parent id).2.node? x = if x ∈ b.ids then none else
      (t.node? x).map fun node => { node with children := node.children.filter (· ≠ id) } := by
    intro x
    rw [DeviceTree.prune, hmembers, hnodes, h.node?_detach_of_parent hparent]
  have htop : top.value.1 ≠ id := by rw [← h.root]; exact hne.symm
  refine ⟨?_, ⟨?_, ?_, ?_, ?_, ?_⟩, hview⟩
  · rw [DeviceTree.prune, hmembers, hdevices]
    exact hheld.filterMap_device?
  · rw [DeviceTree.prune, hmembers, hroot]
    exact h.root
  · rw [forest_prunedBranch htop]
    refine h.holds.without fun x hx => ?_
    rw [← forest_prunedBranch htop, Branch.ids_forest] at hx
    rw [hview, if_neg fun hb => hdisj x hb x hx rfl]
  · exact hnodupw
  · intro x hx
    rw [isLive, hview] at hx
    by_cases hb : x ∈ b.ids
    · rw [if_pos hb] at hx
      cases hx
    · rw [if_neg hb, Option.isSome_map] at hx
      have hmem := h.complete x hx
      rw [hpermIds.mem_iff, List.mem_append] at hmem
      exact hmem.resolve_left hb
  · rw [DeviceTree.prune, hmembers]
    exact hlisted

end Shows

end CecBus.DeviceTree
