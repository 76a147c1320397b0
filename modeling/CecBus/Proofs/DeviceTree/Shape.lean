import Mathlib.Data.List.Nodup
import CecBus.Proofs.DeviceTree.Forest
import CecBus.Proofs.DeviceTree.Slots

/-! A tree read as a forest. `Holds` says that the slots hold a forest of devices with their ids, each node with the
device above it and with its children in order; `Shows` adds that the ids are distinct and that nothing else is live.
Under `Shows` the loops over slots are recursions over the forest: the walk is its preorder, looking a name up is a
search in that list, and the number of devices is its length. -/

namespace CecBus.DeviceTree

variable {t u : DeviceTree} {id x parent : DeviceId}

/-- Devices with their ids, in their places. -/
abbrev Layout := Forest (DeviceId × Device)

/-- The slots hold a forest below a device, or at the top. -/
def Holds (t : DeviceTree) (above : Option DeviceId) : Layout → Prop
  | .nil => True
  | .cons (id, device) below beside =>
    t.node? id = some ⟨device, above, below.headIds⟩ ∧ t.Holds (some id) below ∧ t.Holds above beside

/-- The tree is the one given, and nothing else is live. -/
structure Shows (t : DeviceTree) (top : Branch (DeviceId × Device)) : Prop where
  root : t.root = top.value.1
  holds : t.Holds none top.forest
  nodup : top.ids.Nodup
  complete (id : DeviceId) : t.isLive id → id ∈ top.ids
  listed : VacantListed t

/-! ### What a forest in slots says of its ids -/

theorem Holds.congr {above : Option DeviceId} {f : Layout} (h : t.Holds above f)
    (hsame : ∀ x ∈ f.ids, u.node? x = t.node? x) : u.Holds above f := by
  induction f generalizing above with
  | nil => trivial
  | cons entry below beside below_ih beside_ih =>
    obtain ⟨hnode, hbelow, hbeside⟩ := h
    refine ⟨?_, below_ih hbelow fun x hx => hsame x ?_, beside_ih hbeside fun x hx => hsame x ?_⟩
    · rw [hsame _ (by simp), hnode]
    · simp [hx]
    · simp [hx]

theorem Holds.device?_of_mem {above : Option DeviceId} {f : Layout} {device : Device} (h : t.Holds above f)
    (hmem : (id, device) ∈ f.toList) : t.device? id = some device := by
  induction f generalizing above with
  | nil => cases hmem
  | cons entry below beside below_ih beside_ih =>
    obtain ⟨hnode, hbelow, hbeside⟩ := h
    rcases List.mem_cons.1 hmem with rfl | hmem
    · simp [device?, hnode]
    · rcases List.mem_append.1 hmem with hmem | hmem
      · exact below_ih hbelow hmem
      · exact beside_ih hbeside hmem

theorem Holds.filterMap_device? {above : Option DeviceId} {b : Branch (DeviceId × Device)}
    (h : t.Holds above b.forest) : b.ids.filterMap t.device? = b.toList.map Prod.snd := by
  rw [Branch.ids, List.filterMap_map, ← List.filterMap_eq_map]
  apply List.filterMap_congr
  rintro ⟨i, device⟩ he
  exact h.device?_of_mem (by rwa [Branch.toList_forest])

theorem Holds.isLive_of_mem {above : Option DeviceId} {f : Layout} (h : t.Holds above f) (hmem : id ∈ f.ids) :
    t.isLive id := by
  obtain ⟨⟨i, device⟩, he, rfl⟩ := List.mem_map.1 hmem
  exact isLive_of_device? (h.device?_of_mem he)

theorem Holds.parent_of_headIds {above : Option DeviceId} {f : Layout} (h : t.Holds above f)
    (hmem : id ∈ f.headIds) : t.parent? id = above := by
  induction f with
  | nil => cases hmem
  | cons entry below beside _ beside_ih =>
    obtain ⟨hnode, -, hbeside⟩ := h
    rcases List.mem_cons.1 hmem with rfl | hmem
    · simp [parent?, hnode]
    · exact beside_ih hbeside hmem

/-- A tree inside a forest is held as well, below some device. -/
theorem Holds.subtree {above : Option DeviceId} {f : Layout} {b : Branch (DeviceId × Device)}
    (h : t.Holds above f) (hs : f.subtree? id = some b) : ∃ place, t.Holds place b.forest := by
  induction f generalizing above with
  | nil => cases hs
  | cons entry below beside below_ih beside_ih =>
    obtain ⟨hnode, hbelow, hbeside⟩ := h
    rw [Forest.subtree?] at hs
    by_cases he : entry.1 = id
    · rw [if_pos he] at hs
      cases hs
      exact ⟨above, hnode, hbelow, trivial⟩
    · rw [if_neg he] at hs
      rcases Option.or_eq_some_iff.1 hs with hs | ⟨-, hs⟩
      · exact below_ih hbelow hs
      · exact beside_ih hbeside hs

/-- Everything below the top of a held forest is the child of a device of that forest. -/
theorem Holds.parent_mem {above : Option DeviceId} {f : Layout} (h : t.Holds above f) (hmem : id ∈ f.ids) :
    id ∈ f.headIds ∨ ∃ parent ∈ f.ids, t.parent? id = some parent ∧ id ∈ t.children parent := by
  induction f generalizing above with
  | nil => cases hmem
  | cons entry below beside below_ih beside_ih =>
    obtain ⟨hnode, hbelow, hbeside⟩ := h
    simp only [Forest.ids_cons, List.mem_cons, List.mem_append] at hmem
    rcases hmem with rfl | hmem | hmem
    · exact .inl List.mem_cons_self
    · rcases below_ih hbelow hmem with hhead | ⟨parent, hp, hparent, hchild⟩
      · have hchild : id ∈ t.children entry.1 := by simpa [children, hnode] using hhead
        exact .inr ⟨entry.1, by simp, hbelow.parent_of_headIds hhead, hchild⟩
      · exact .inr ⟨parent, by simp [hp], hparent, hchild⟩
    · rcases beside_ih hbeside hmem with hhead | ⟨parent, hp, hparent, hchild⟩
      · exact .inl (List.mem_cons_of_mem _ hhead)
      · exact .inr ⟨parent, by simp [hp], hparent, hchild⟩

/-- The children of the top of a held tree are those below it there. -/
theorem Holds.children_eq {place : Option DeviceId} {b : Branch (DeviceId × Device)}
    (h : t.Holds place b.forest) : t.children b.value.1 = b.below.headIds := by
  obtain ⟨hnode, -⟩ := h
  simp [children, hnode]

/-- Among distinct ids, children of devices of a held forest stand in it below the top. -/
theorem Holds.children_subset {above : Option DeviceId} {f : Layout} (h : t.Holds above f) (hnodup : f.ids.Nodup)
    (hx : x ∈ f.ids) (hid : id ∈ t.children x) : id ∈ f.ids ∧ id ∉ f.headIds := by
  induction f generalizing above with
  | nil => cases hx
  | cons entry below beside below_ih beside_ih =>
    obtain ⟨hnode, hbelow, hbeside⟩ := h
    simp only [Forest.ids_cons, List.nodup_cons, List.mem_append, not_or] at hnodup
    obtain ⟨⟨hnb, hns⟩, hrest⟩ := hnodup
    obtain ⟨hb, hs, hdisj⟩ := List.nodup_append.1 hrest
    have hheads : (Forest.cons entry below beside).headIds = entry.1 :: beside.headIds := rfl
    have hout : id ∈ below.ids → id ∉ (Forest.cons entry below beside).headIds := by
      intro hmem hhead
      rw [hheads] at hhead
      rcases List.mem_cons.1 hhead with rfl | hhead
      · exact hnb hmem
      · exact hdisj id hmem id (beside.headIds_subset hhead) rfl
    simp only [Forest.ids_cons, List.mem_cons, List.mem_append] at hx ⊢
    rcases hx with rfl | hx | hx
    · have hmem : id ∈ below.ids := below.headIds_subset (by simpa [children, hnode] using hid)
      exact ⟨.inr (.inl hmem), hout hmem⟩
    · have hmem := (below_ih hbelow hb hx).1
      exact ⟨.inr (.inl hmem), hout hmem⟩
    · obtain ⟨hmem, hnot⟩ := beside_ih hbeside hs hx
      refine ⟨.inr (.inr hmem), fun hhead => ?_⟩
      rw [hheads] at hhead
      rcases List.mem_cons.1 hhead with rfl | hhead
      · exact hns hmem
      · exact hnot hhead

/-- What holds at the top of a held forest, and of the children of every device it holds of, holds in all of the
forest. -/
theorem Holds.forall_mem {P : DeviceId → Prop} {above : Option DeviceId} {f : Layout} (h : t.Holds above f)
    (hchild : ∀ x y, P x → y ∈ t.children x → P y) (hheads : ∀ x ∈ f.headIds, P x) : ∀ x ∈ f.ids, P x := by
  induction f generalizing above with
  | nil => exact fun x hx => absurd hx List.not_mem_nil
  | cons entry below beside below_ih beside_ih =>
    obtain ⟨hnode, hbelow, hbeside⟩ := h
    have hentry : P entry.1 := hheads _ List.mem_cons_self
    have hchildren : t.children entry.1 = below.headIds := by simp [children, hnode]
    intro x hx
    simp only [Forest.ids_cons, List.mem_cons, List.mem_append] at hx
    rcases hx with rfl | hx | hx
    · exact hentry
    · exact below_ih hbelow (fun y hy => hchild _ _ hentry (by rwa [hchildren])) x hx
    · exact beside_ih hbeside (fun y hy => hheads y (List.mem_cons_of_mem _ hy)) x hx

/-! ### The walk -/

/-- From a stack that starts with a held forest the loop visits that forest in preorder first. -/
theorem Holds.visit {above : Option DeviceId} {f : Layout} (h : t.Holds above f) (depth steps : Nat)
    (stack : List (DeviceId × Nat)) (hsteps : f.toList.length ≤ steps) :
    t.visit steps (f.headIds.map (·, depth) ++ stack) =
      (f.levels depth).map (fun e => (e.1.1, e.2)) ++ t.visit (steps - f.toList.length) stack := by
  induction f generalizing above depth steps stack with
  | nil => rfl
  | cons entry below beside below_ih beside_ih =>
    obtain ⟨hnode, hbelow, hbeside⟩ := h
    simp only [Forest.toList, List.length_cons, List.length_append] at hsteps ⊢
    obtain ⟨rest, rfl⟩ : ∃ rest, steps = rest + 1 := ⟨steps - 1, by omega⟩
    have hfirst := below_ih hbelow (depth + 1) rest (beside.headIds.map (·, depth) ++ stack) (by omega)
    have hthen := beside_ih hbeside depth (rest - below.toList.length) stack (by omega)
    have hheads : (Forest.cons entry below beside).headIds = entry.1 :: beside.headIds := rfl
    rw [hheads, List.map_cons, List.cons_append, DeviceTree.visit, hnode]
    simp only [Forest.levels, List.map_cons, List.map_append]
    rw [hfirst, hthen, List.cons_append, List.append_assoc]
    congr 4
    omega

@[simp] theorem visit_nil (steps : Nat) : t.visit steps [] = [] := by
  cases steps <;> rfl

theorem visit_stale (h : t.node? id = none) (depth steps : Nat) : t.visit steps [(id, depth)] = [] := by
  cases steps with
  | zero => rfl
  | succ steps => rw [visit, h]; exact visit_nil steps

theorem Holds.visit_root {place : Option DeviceId} {b : Branch (DeviceId × Device)} (h : t.Holds place b.forest)
    {steps : Nat} (hsteps : b.toList.length ≤ steps) :
    t.visit steps [(b.value.1, 0)] = (b.forest.levels 0).map fun e => (e.1.1, e.2) := by
  have hvisit := h.visit 0 steps [] (by rwa [Branch.toList_forest])
  rw [visit_nil, List.append_nil, List.append_nil] at hvisit
  rw [← hvisit]
  rfl

theorem Holds.walk_eq {place : Option DeviceId} {b : Branch (DeviceId × Device)} (h : t.Holds place b.forest)
    (hlength : b.toList.length ≤ t.slots.length) :
    t.walk b.value.1 = (b.forest.levels 0).map fun e => (e.1.1, e.2) := h.visit_root hlength

theorem Holds.members_eq {place : Option DeviceId} {b : Branch (DeviceId × Device)} (h : t.Holds place b.forest)
    (hlength : b.toList.length ≤ t.slots.length) : t.members b.value.1 = b.ids := by
  rw [members, h.walk_eq hlength, ← Branch.ids_forest, Forest.ids, ← Forest.map_fst_levels b.forest 0,
    List.map_map, List.map_map]
  rfl

variable {top : Branch (DeviceId × Device)}

/-! ### Climbing towards the root -/

theorem climbsTo_mono {ancestor : DeviceId} {steps more : Nat} (hsteps : steps ≤ more)
    (h : t.climbsTo ancestor steps id) : t.climbsTo ancestor more id := by
  induction steps generalizing more id with
  | zero =>
    have hid : id = ancestor := by simpa [climbsTo] using h
    cases more <;> simp [climbsTo, hid]
  | succ steps ih =>
    obtain ⟨more, rfl⟩ : ∃ m, more = m + 1 := ⟨more - 1, by omega⟩
    simp only [climbsTo, Bool.or_eq_true, Option.any_eq_true] at h ⊢
    rcases h with hid | ⟨parent, hparent, hclimb⟩
    · exact .inl hid
    · exact .inr ⟨parent, hparent, ih (by omega) hclimb⟩

/-- From everywhere in a held forest the climb arrives where it arrives from the top of the forest. -/
theorem Holds.climbsTo {above : Option DeviceId} {f : Layout} (h : t.Holds above f) (ancestor : DeviceId) (steps : Nat)
    (hheads : ∀ x ∈ f.headIds, t.climbsTo ancestor steps x) :
    ∀ x ∈ f.ids, t.climbsTo ancestor (steps + f.toList.length) x := by
  induction f generalizing above steps with
  | nil => exact fun x hx => absurd hx List.not_mem_nil
  | cons entry below beside below_ih beside_ih =>
    obtain ⟨hnode, hbelow, hbeside⟩ := h
    have hentry := hheads _ List.mem_cons_self
    intro x hx
    simp only [Forest.toList, List.length_cons, List.length_append]
    simp only [Forest.ids_cons, List.mem_cons, List.mem_append] at hx
    rcases hx with rfl | hx | hx
    · exact climbsTo_mono (by omega) hentry
    · refine climbsTo_mono ?_ (below_ih hbelow (steps + 1) (fun y hy => ?_) x hx)
      · omega
      · rw [DeviceTree.climbsTo, hbelow.parent_of_headIds hy]
        simp [hentry]
    · refine climbsTo_mono ?_ (beside_ih hbeside steps (fun y hy => hheads y (List.mem_cons_of_mem _ hy)) x hx)
      omega

namespace Shows

theorem isLive_iff (h : t.Shows top) : t.isLive id ↔ id ∈ top.ids :=
  ⟨h.complete id, fun hmem => h.holds.isLive_of_mem (by rwa [Branch.ids_forest])⟩

theorem device?_eq_some_iff (h : t.Shows top) {device : Device} :
    t.device? id = some device ↔ (id, device) ∈ top.toList := by
  constructor
  · intro hd
    obtain ⟨⟨i, other⟩, he, rfl⟩ := List.mem_map.1 (h.complete id (isLive_of_device? hd))
    have hother := h.holds.device?_of_mem (by rwa [Branch.toList_forest])
    rw [hd] at hother
    cases hother
    exact he
  · intro hmem
    exact h.holds.device?_of_mem (by rwa [Branch.toList_forest])

theorem root_mem (h : t.Shows top) : t.root ∈ top.ids := by
  rw [h.root, Branch.ids, Branch.toList]
  exact List.mem_cons_self

theorem exists_subtree (h : t.Shows top) (hlive : t.isLive id) :
    ∃ b, top.forest.subtree? id = some b ∧ b.value.1 = id :=
  Forest.exists_subtree?_of_mem (by rw [Branch.ids_forest]; exact h.complete id hlive)

theorem nodup_subtree (h : t.Shows top) {b : Branch (DeviceId × Device)} (hs : top.forest.subtree? id = some b) :
    b.forest.ids.Nodup := by
  rw [Branch.ids_forest]
  exact Forest.nodup_of_subtree? (by rw [Branch.ids_forest]; exact h.nodup) hs

theorem children_of_parent (h : t.Shows top) (hid : id ∈ t.children x) : t.parent? id = some x := by
  obtain ⟨b, hs, hv⟩ := h.exists_subtree (isLive_of_mem_children hid)
  obtain ⟨place, hheld⟩ := h.holds.subtree hs
  rw [← hv, hheld.children_eq] at hid
  obtain ⟨-, hbelow, -⟩ := hheld
  rw [hbelow.parent_of_headIds hid, hv]

theorem mem_children_of_parent (h : t.Shows top) (hparent : t.parent? id = some parent) :
    id ∈ t.children parent := by
  have hmem : id ∈ top.forest.ids := by rw [Branch.ids_forest]; exact h.complete id (isLive_of_parent? hparent)
  rcases h.holds.parent_mem hmem with hhead | ⟨other, -, hother, hchild⟩
  · rw [h.holds.parent_of_headIds hhead] at hparent
    cases hparent
  · rw [hparent] at hother
    cases hother
    exact hchild

theorem children_nodup (h : t.Shows top) (id : DeviceId) : (t.children id).Nodup := by
  cases hn : t.node? id with
  | none => simp [children, hn]
  | some node =>
    obtain ⟨b, hs, hv⟩ := h.exists_subtree (isLive_of_node? hn)
    obtain ⟨place, hheld⟩ := h.holds.subtree hs
    rw [← hv, hheld.children_eq]
    have hnodup := h.nodup_subtree hs
    rw [Branch.forest, Forest.ids_cons, List.nodup_cons, List.nodup_append] at hnodup
    exact b.below.headIds_sublist.nodup hnodup.2.1

/-! ### The number of devices -/

/-- Vacant slots and devices together are all slots. -/
theorem length_slots (h : t.Shows top) : t.slots.length = t.vacant.length + top.toList.length := by
  have hlive : ∀ id ∈ top.ids, t.isLive id := fun id hid => h.isLive_iff.2 hid
  have hindices : (top.ids.map DeviceId.index).Nodup :=
    List.Nodup.map_on (fun id hid x hx he => eq_of_index_eq (hlive id hid) (hlive x hx) he) h.nodup
  have hdisjoint : ∀ index ∈ t.vacant, index ∉ top.ids.map DeviceId.index := by
    intro index hvacant hmem
    obtain ⟨id, hid, rfl⟩ := List.mem_map.1 hmem
    obtain ⟨slot, hs, hn⟩ := (h.listed.mem_iff _).1 hvacant
    obtain ⟨node, hnode⟩ := Option.isSome_iff_exists.1 (hlive id hid)
    obtain ⟨slot', hs', -, hn'⟩ := node?_eq_some.1 hnode
    rw [hs] at hs'
    cases hs'
    rw [hn] at hn'
    cases hn'
  have hperm : (t.vacant ++ top.ids.map DeviceId.index).Perm (List.range t.slots.length) := by
    refine (List.perm_ext_iff_of_nodup (List.nodup_append.2 ⟨h.listed.nodup, hindices, ?_⟩) List.nodup_range).2 ?_
    · intro a ha b hb hab
      exact hdisjoint a ha (hab ▸ hb)
    · intro index
      rw [List.mem_append, List.mem_range, h.listed.mem_iff]
      constructor
      · rintro (⟨slot, hs, -⟩ | hmem)
        · exact (List.getElem?_eq_some_iff.1 hs).1
        · obtain ⟨id, hid, rfl⟩ := List.mem_map.1 hmem
          obtain ⟨node, hnode⟩ := Option.isSome_iff_exists.1 (hlive id hid)
          obtain ⟨slot, hs, -⟩ := node?_eq_some.1 hnode
          exact (List.getElem?_eq_some_iff.1 hs).1
      · intro hlt
        have hs : t.slots[index]? = some t.slots[index] := List.getElem?_eq_getElem hlt
        cases hn : t.slots[index].node with
        | none => exact .inl ⟨_, hs, hn⟩
        | some node =>
          have hnode : t.node? ⟨index, t.slots[index].generation⟩ = some node :=
            node?_eq_some.2 ⟨_, hs, rfl, hn⟩
          exact .inr (List.mem_map.2 ⟨_, h.complete _ (isLive_of_node? hnode), rfl⟩)
  have hlength := hperm.length_eq
  simp only [List.length_append, List.length_map, List.length_range, Branch.ids] at hlength
  omega

theorem count_eq (h : t.Shows top) : t.count = top.toList.length := by
  rw [count, h.length_slots]
  omega

theorem length_subtree_le (h : t.Shows top) {b : Branch (DeviceId × Device)}
    (hs : top.forest.subtree? id = some b) : b.toList.length ≤ t.slots.length := by
  have hnodup : top.forest.ids.Nodup := by rw [Branch.ids_forest]; exact h.nodup
  have hperm := (Forest.toList_perm_without hnodup hs).length_eq
  rw [Branch.toList_forest, List.length_append] at hperm
  rw [h.length_slots]
  omega

/-- Everything in a subtree lies within it. -/
theorem isWithin_of_mem (h : t.Shows top) {b : Branch (DeviceId × Device)} (hs : top.forest.subtree? id = some b)
    (hv : b.value.1 = id) (hx : x ∈ b.ids) : t.isWithin x id := by
  obtain ⟨place, hheld⟩ := h.holds.subtree hs
  have hclimb := hheld.climbsTo id 0
    (fun y hy => by rw [List.mem_singleton.1 hy, hv]; simp [climbsTo]) x (by rwa [Branch.ids_forest])
  refine climbsTo_mono ?_ hclimb
  rw [Nat.zero_add, Branch.toList_forest]
  exact h.length_subtree_le hs

/-- Only what is in a subtree climbs to its top: with the device above, a device is in the subtree itself. -/
theorem mem_of_climbsTo (h : t.Shows top) {b : Branch (DeviceId × Device)} (hs : top.forest.subtree? id = some b)
    (hv : b.value.1 = id) {steps : Nat} (hclimb : t.climbsTo id steps x) : x ∈ b.ids := by
  have hid : id ∈ b.ids := by rw [← hv]; exact List.mem_cons_self
  obtain ⟨place, hheld⟩ := h.holds.subtree hs
  have hnodup := h.nodup_subtree hs
  induction steps generalizing x with
  | zero =>
    have hx : x = id := by simpa [climbsTo] using hclimb
    rwa [hx]
  | succ steps ih =>
    simp only [climbsTo, Bool.or_eq_true, decide_eq_true_eq, Option.any_eq_true] at hclimb
    rcases hclimb with rfl | ⟨parent, hparent, hclimb⟩
    · exact hid
    · have hmem := ih hclimb
      rw [← Branch.ids_forest] at hmem ⊢
      exact (hheld.children_subset hnodup hmem (h.mem_children_of_parent hparent)).1

theorem isWithin_iff (h : t.Shows top) {b : Branch (DeviceId × Device)} (hs : top.forest.subtree? id = some b)
    (hv : b.value.1 = id) : t.isWithin x id ↔ x ∈ b.ids :=
  ⟨h.mem_of_climbsTo hs hv, h.isWithin_of_mem hs hv⟩

/-! ### Walking and looking a name up -/

theorem walk_eq (h : t.Shows top) {b : Branch (DeviceId × Device)} (hs : top.forest.subtree? id = some b)
    (hid : b.value.1 = id) : t.walk id = (b.forest.levels 0).map fun e => (e.1.1, e.2) := by
  obtain ⟨place, hheld⟩ := h.holds.subtree hs
  rw [← hid]
  exact hheld.walk_eq (h.length_subtree_le hs)

/-- The loop of the walk comes to its end: with more steps it finds nothing more. -/
theorem visit_eq_walk (h : t.Shows top) (start : DeviceId) {steps : Nat} (hsteps : t.slots.length ≤ steps) :
    t.visit steps [(start, 0)] = t.walk start := by
  cases hn : t.node? start with
  | none => rw [walk, visit_stale hn, visit_stale hn]
  | some node =>
    obtain ⟨b, hs, hv⟩ := h.exists_subtree (isLive_of_node? hn)
    obtain ⟨place, hheld⟩ := h.holds.subtree hs
    rw [h.walk_eq hs hv, ← hv]
    exact hheld.visit_root (Nat.le_trans (h.length_subtree_le hs) hsteps)

theorem members_eq (h : t.Shows top) {b : Branch (DeviceId × Device)} (hs : top.forest.subtree? id = some b)
    (hid : b.value.1 = id) : t.members id = b.ids := by
  obtain ⟨place, hheld⟩ := h.holds.subtree hs
  rw [← hid]
  exact hheld.members_eq (h.length_subtree_le hs)

theorem mem_members_iff (h : t.Shows top) (hlive : t.isLive id) : x ∈ t.members id ↔ t.isWithin x id := by
  obtain ⟨b, hs, hv⟩ := h.exists_subtree hlive
  rw [h.members_eq hs hv, h.isWithin_iff hs hv]

theorem subtree?_root (h : t.Shows top) : top.forest.subtree? t.root = some top := by
  rw [Branch.forest, Forest.subtree?, if_pos h.root.symm]

theorem members_root (h : t.Shows top) : t.members t.root = top.ids := h.members_eq h.subtree?_root h.root.symm

theorem find?_eq_some (h : t.Shows top) {name : String} (hf : t.find? name = some id) :
    ∃ device, (id, device) ∈ top.toList ∧ device.name = name := by
  have hmem := List.mem_of_find?_eq_some hf
  have hname := List.find?_some hf
  rw [h.members_root] at hmem
  obtain ⟨⟨i, device⟩, he, rfl⟩ := List.mem_map.1 hmem
  refine ⟨device, he, ?_⟩
  rw [h.device?_eq_some_iff.2 he] at hname
  simpa using hname

theorem find?_eq_none_iff (h : t.Shows top) {name : String} :
    t.find? name = none ↔ ∀ e ∈ top.toList, e.2.name ≠ name := by
  rw [find?, List.find?_eq_none, h.members_root]
  constructor
  · intro hnone e he hname
    refine hnone e.1 (List.mem_map_of_mem he) ?_
    rw [h.device?_eq_some_iff.2 he]
    simpa using hname
  · intro hnone x hx
    obtain ⟨e, he, rfl⟩ := List.mem_map.1 hx
    rw [h.device?_eq_some_iff.2 he]
    simpa using hnone e he

end Shows

end CecBus.DeviceTree
