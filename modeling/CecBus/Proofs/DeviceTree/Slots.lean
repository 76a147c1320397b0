import Mathlib.Data.List.Nodup
import CecBus.DeviceTree

/-! Slots and ids. A tree is seen through `node?`, which says what an id stands for: every operation on slots has one
lemma that gives the new view from the old one, and later modules use these lemmas only. The invariant behind them is
`VacantListed`: the slots that are listed as vacant are those without a device, and each is listed once. -/

namespace CecBus.DeviceTree

variable {t : DeviceTree} {id x : DeviceId}

/-- The vacant slots are those that are listed, each once. -/
structure VacantListed (t : DeviceTree) : Prop where
  nodup : t.vacant.Nodup
  mem_iff (index : Nat) : index ∈ t.vacant ↔ ∃ slot, t.slots[index]? = some slot ∧ slot.node = none

theorem node?_eq_some {node : DeviceNode} :
    t.node? id = some node ↔
      ∃ slot, t.slots[id.index]? = some slot ∧ slot.generation = id.generation ∧ slot.node = some node := by
  simp only [node?, Option.bind_eq_some_iff, Option.ite_none_right_eq_some]

theorem isLive_of_node? {node : DeviceNode} (h : t.node? id = some node) : t.isLive id := by
  rw [isLive, h]
  rfl

theorem device?_of_node? {node : DeviceNode} (h : t.node? id = some node) : t.device? id = some node.device := by
  rw [device?, h]
  rfl

theorem exists_device?_of_isLive (h : t.isLive id) : ∃ device, t.device? id = some device := by
  obtain ⟨node, hnode⟩ := Option.isSome_iff_exists.1 h
  exact ⟨node.device, device?_of_node? hnode⟩

theorem isLive_of_device? {device : Device} (h : t.device? id = some device) : t.isLive id := by
  obtain ⟨node, hnode, -⟩ := Option.map_eq_some_iff.1 h
  exact isLive_of_node? hnode

theorem isLive_of_parent? (h : t.parent? id = some x) : t.isLive id := by
  obtain ⟨node, hnode, -⟩ := Option.bind_eq_some_iff.1 h
  exact isLive_of_node? hnode

theorem isLive_of_mem_children (h : x ∈ t.children id) : t.isLive id := by
  cases hn : t.node? id with
  | none => simp [children, hn] at h
  | some node => exact isLive_of_node? hn

/-- Two ids of one slot that both stand for a device are the same. -/
theorem eq_of_index_eq (hid : t.isLive id) (hx : t.isLive x) (h : id.index = x.index) : id = x := by
  obtain ⟨node, hid⟩ := Option.isSome_iff_exists.1 hid
  obtain ⟨node', hx⟩ := Option.isSome_iff_exists.1 hx
  obtain ⟨slot, hs, hg, -⟩ := node?_eq_some.1 hid
  obtain ⟨slot', hs', hg', -⟩ := node?_eq_some.1 hx
  rw [h, hs'] at hs
  cases hs
  obtain ⟨i, g⟩ := id
  obtain ⟨j, k⟩ := x
  simp_all

/-! ### Changing what an id stands for -/

theorem node?_modify (f : DeviceNode → DeviceNode) :
    (t.modify id f).node? x = if x = id then (t.node? x).map f else t.node? x := by
  obtain ⟨i, g⟩ := id
  obtain ⟨j, k⟩ := x
  simp only [node?, modify, List.getElem?_modify, DeviceId.mk.injEq]
  by_cases hij : i = j
  · subst hij
    cases t.slots[i]? with
    | none => simp
    | some slot =>
      by_cases hg : slot.generation = g <;> by_cases hk : slot.generation = k <;> grind
  · have hji : ¬ j = i := fun h => hij h.symm
    simp [hij, hji]

@[simp] theorem vacant_modify (f : DeviceNode → DeviceNode) : (t.modify id f).vacant = t.vacant := rfl

@[simp] theorem root_modify (f : DeviceNode → DeviceNode) : (t.modify id f).root = t.root := rfl

@[simp] theorem length_slots_modify (f : DeviceNode → DeviceNode) :
    (t.modify id f).slots.length = t.slots.length := by
  simp [modify]

@[simp] theorem isLive_modify (f : DeviceNode → DeviceNode) : (t.modify id f).isLive x = t.isLive x := by
  simp only [isLive, node?_modify]
  split <;> simp

theorem VacantListed.modify (h : VacantListed t) (f : DeviceNode → DeviceNode) :
    VacantListed (t.modify id f) where
  nodup := h.nodup
  mem_iff index := by
    rw [vacant_modify, h.mem_iff]
    simp only [DeviceTree.modify, List.getElem?_modify]
    by_cases hi : id.index = index
    · cases t.slots[index]? with
      | none => simp
      | some slot => by_cases hg : slot.generation = id.generation <;> simp [hi, hg]
    · simp [hi]

/-! ### Occupying the next slot -/

theorem node?_nextId (h : VacantListed t) : t.node? t.nextId = none := by
  unfold nextId
  split
  case h_1 index rest hv =>
    obtain ⟨slot, hs, hn⟩ := (h.mem_iff index).1 (by rw [hv]; exact List.mem_cons_self)
    simp [node?, hs, hn]
  case h_2 => simp [node?]

theorem not_isLive_nextId (h : VacantListed t) : t.isLive t.nextId = false := by
  rw [isLive, node?_nextId h]
  rfl

theorem node?_occupy (h : VacantListed t) (node : DeviceNode) :
    (t.occupy node).node? x = if x = t.nextId then some node else t.node? x := by
  obtain ⟨j, k⟩ := x
  unfold occupy nextId
  split
  case h_1 index rest hv =>
    obtain ⟨slot, hs, hn⟩ := (h.mem_iff index).1 (by rw [hv]; exact List.mem_cons_self)
    simp only [node?, List.getElem?_modify, DeviceId.mk.injEq]
    by_cases hij : index = j
    · subst hij
      by_cases hk : slot.generation = k
      · simp [hs, hk]
      · simp [hs, hk, Ne.symm hk]
    · have hji : ¬ j = index := fun h => hij h.symm
      simp [hij, hji]
  case h_2 =>
    simp only [node?, DeviceId.mk.injEq]
    by_cases hj : j = t.slots.length
    · subst hj
      by_cases hk : k = 0
      · simp [hk]
      · simp [hk, Ne.symm hk]
    · by_cases hlt : j < t.slots.length
      · simp [List.getElem?_append_left hlt, hj]
      · have hge : t.slots.length < j := by omega
        have hout : (t.slots ++ [{ node := some node }])[j]? = none := by
          rw [List.getElem?_eq_none]
          simp
          omega
        rw [hout, List.getElem?_eq_none (by omega)]
        simp [hj]

@[simp] theorem root_occupy (node : DeviceNode) : (t.occupy node).root = t.root := by
  unfold occupy
  split <;> rfl

theorem VacantListed.occupy (h : VacantListed t) (node : DeviceNode) : VacantListed (t.occupy node) := by
  unfold DeviceTree.occupy
  split
  case h_1 index rest hv =>
    have hnodup := h.nodup
    rw [hv] at hnodup
    obtain ⟨hnot, hrest⟩ := List.nodup_cons.1 hnodup
    refine ⟨hrest, fun j => ?_⟩
    have hmem := h.mem_iff j
    rw [hv, List.mem_cons] at hmem
    simp only [List.getElem?_modify]
    by_cases hij : index = j
    · subst hij
      constructor
      · intro hj
        exact absurd hj hnot
      · rintro ⟨slot, hs, hn⟩
        cases hslot : t.slots[index]? with
        | none => simp [hslot] at hs
        | some old =>
          simp [hslot] at hs
          simp [← hs] at hn
    · have hji : ¬ j = index := fun h => hij h.symm
      simp only [hij, hji, false_or] at hmem ⊢
      simpa using hmem
  case h_2 hv =>
    refine ⟨by simp [hv], fun j => ?_⟩
    have hmem := h.mem_iff j
    rw [hv] at hmem ⊢
    simp only [List.not_mem_nil, false_iff, not_exists, not_and] at hmem ⊢
    intro slot hs
    rcases Nat.lt_trichotomy j t.slots.length with hj | hj | hj
    · rw [List.getElem?_append_left hj] at hs
      exact hmem slot hs
    · subst hj
      simp at hs
      simp [← hs]
    · rw [List.getElem?_eq_none (by simp; omega)] at hs
      cases hs

/-! ### Vacating slots -/

theorem node?_vacate (hid : t.isLive id) :
    (t.vacate id.index).node? x = if x = id then none else t.node? x := by
  obtain ⟨node, hid⟩ := Option.isSome_iff_exists.1 hid
  obtain ⟨slot, hs, hg, -⟩ := node?_eq_some.1 hid
  obtain ⟨i, g⟩ := id
  obtain ⟨j, k⟩ := x
  simp only at hs hg
  simp only [node?, vacate, List.getElem?_modify, DeviceId.mk.injEq]
  by_cases hij : i = j
  · subst hij
    by_cases hk : k = g
    · simp [hs, hk]
    · simp [hs, hg, hk, Ne.symm hk]
  · have hji : ¬ j = i := fun h => hij h.symm
    simp [hij, hji]

theorem VacantListed.vacate (h : VacantListed t) (hid : t.isLive id) : VacantListed (t.vacate id.index) := by
  obtain ⟨node, hid⟩ := Option.isSome_iff_exists.1 hid
  obtain ⟨slot, hs, -, hn⟩ := node?_eq_some.1 hid
  refine ⟨List.nodup_cons.2 ⟨fun hmem => ?_, h.nodup⟩, fun j => ?_⟩
  · obtain ⟨slot', hs', hn'⟩ := (h.mem_iff _).1 hmem
    rw [hs] at hs'
    cases hs'
    rw [hn] at hn'
    cases hn'
  · simp only [DeviceTree.vacate, List.mem_cons, List.getElem?_modify, h.mem_iff]
    by_cases hij : id.index = j
    · subst hij
      simp [hs]
    · have hji : ¬ j = id.index := fun h => hij h.symm
      simp [hij, hji]

/-- Vacating the slots of some ids: these stand for nothing afterwards, and the devices that were there come back in
order. -/
theorem vacateAll_spec (h : VacantListed t) (ids : List DeviceId) (hnodup : ids.Nodup)
    (hlive : ∀ id ∈ ids, t.isLive id) :
    (t.vacateAll ids).1 = ids.filterMap t.device? ∧
      (∀ x, (t.vacateAll ids).2.node? x = if x ∈ ids then none else t.node? x) ∧
      VacantListed (t.vacateAll ids).2 ∧ (t.vacateAll ids).2.root = t.root := by
  induction ids generalizing t with
  | nil => simp [vacateAll, h]
  | cons id rest ih =>
    obtain ⟨hnot, hrest⟩ := List.nodup_cons.1 hnodup
    have hid := hlive id List.mem_cons_self
    obtain ⟨node, hnode⟩ := Option.isSome_iff_exists.1 hid
    have hview : ∀ x, (t.vacate id.index).node? x = if x = id then none else t.node? x :=
      fun x => node?_vacate hid
    have hlive' : ∀ x ∈ rest, (t.vacate id.index).isLive x := by
      intro x hx
      have hne : x ≠ id := fun he => hnot (he ▸ hx)
      rw [isLive, hview, if_neg hne]
      exact hlive x (List.mem_cons_of_mem _ hx)
    obtain ⟨hdevices, hnodes, hlisted, hroot⟩ := ih (h.vacate hid) hrest hlive'
    have hstep : t.vacateAll (id :: rest) =
        (node.device :: ((t.vacate id.index).vacateAll rest).1, ((t.vacate id.index).vacateAll rest).2) := by
      simp only [vacateAll, hnode]
    rw [hstep]
    refine ⟨?_, fun x => ?_, hlisted, hroot⟩
    · have hdevice : t.device? id = some node.device := by simp [device?, hnode]
      have hsame : rest.filterMap (t.vacate id.index).device? = rest.filterMap t.device? := by
        apply List.filterMap_congr
        intro x hx
        have hne : x ≠ id := fun he => hnot (he ▸ hx)
        simp only [device?, hview, if_neg hne]
      rw [List.filterMap_cons_some hdevice, hdevices, hsame]
    · rw [hnodes, hview]
      by_cases hx : x = id <;> by_cases hxr : x ∈ rest <;> simp [hx, hxr]

end CecBus.DeviceTree
