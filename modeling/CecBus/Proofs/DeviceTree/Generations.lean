import CecBus.Proofs.DeviceTree.Coherence
import CecBus.Proofs.DeviceTree.Placement
import CecBus.Proofs.DeviceTree.Grafting

/-! What an operation does to a tree: it changes nothing, adds a subtree, takes one out or gives addresses
(`WellFormed.effect`). A slot moves on by one generation when its device is taken out, and at no other time
(`WellFormed.generation_after`). -/

namespace CecBus

namespace DeviceTree

variable {t u v : DeviceTree} {id x y parent : DeviceId} {operation : Operation} {index : Nat}

/-! ### Above and below -/

/-- A device is another one, or lies above it. -/
def IsAbove (t : DeviceTree) (x id : DeviceId) : Prop := Relation.ReflTransGen (fun y z => t.parent? y = some z) id x

theorem isAbove_of_climbsTo {steps : Nat} (h : t.climbsTo x steps id) : t.IsAbove x id := by
  induction steps generalizing id with
  | zero =>
    have hid : id = x := by simpa [climbsTo] using h
    rw [hid]
    exact .refl
  | succ steps ih =>
    simp only [climbsTo, Bool.or_eq_true, decide_eq_true_eq, Option.any_eq_true] at h
    rcases h with rfl | ⟨parent, hparent, hclimb⟩
    · exact .refl
    · exact .head hparent (ih hclimb)

theorem exists_climbsTo (h : t.IsAbove x id) : ∃ steps, t.climbsTo x steps id := by
  induction h using Relation.ReflTransGen.head_induction_on with
  | refl => exact ⟨0, by simp [climbsTo]⟩
  | head hparent _ ih =>
    obtain ⟨steps, hclimb⟩ := ih
    exact ⟨steps + 1, by simp [climbsTo, hparent, hclimb]⟩

/-- The members of a device are what it is above of. -/
theorem Shows.mem_members_iff_isAbove {top : Branch (DeviceId × Device)} (h : t.Shows top) (hlive : t.isLive x) :
    id ∈ t.members x ↔ t.IsAbove x id := by
  constructor
  · intro hmem
    exact isAbove_of_climbsTo ((h.mem_members_iff hlive).1 hmem)
  · intro habove
    obtain ⟨steps, hclimb⟩ := exists_climbsTo habove
    obtain ⟨b, hs, hv⟩ := h.exists_subtree hlive
    rw [h.members_eq hs hv]
    exact h.mem_of_climbsTo hs hv hclimb

theorem WellFormed.mem_members_iff_isAbove (h : t.WellFormed) (hlive : t.isLive x) : id ∈ t.members x ↔ t.IsAbove x id := by
  obtain ⟨top, hshows, -⟩ := h
  exact hshows.mem_members_iff_isAbove hlive

theorem WellFormed.isLive_of_mem_members (h : t.WellFormed) (hlive : t.isLive x) (hmem : id ∈ t.members x) : t.isLive id := by
  obtain ⟨top, hshows, -⟩ := h
  obtain ⟨b, hs, hv⟩ := hshows.exists_subtree hlive
  obtain ⟨place, hheld⟩ := hshows.holds.subtree hs
  rw [hshows.members_eq hs hv, ← Branch.ids_forest] at hmem
  exact hheld.isLive_of_mem hmem

/-! ### Generations of slots -/

/-- The generation of a slot. A slot that is yet to come is in its first one. -/
def generation (t : DeviceTree) (index : Nat) : UInt32 := (t.slots[index]?.map DeviceSlot.generation).getD 0

theorem generation_of_isLive (h : t.isLive id) : t.generation id.index = id.generation := by
  obtain ⟨node, hnode⟩ := Option.isSome_iff_exists.1 h
  obtain ⟨slot, hs, hg, -⟩ := node?_eq_some.1 hnode
  rw [generation, hs]
  exact hg

theorem eq_mk_generation (h : t.isLive id) : id = ⟨id.index, t.generation id.index⟩ := by
  rw [generation_of_isLive h]

@[simp] theorem generation_modify (f : DeviceNode → DeviceNode) : (t.modify id f).generation index = t.generation index := by
  simp only [generation, modify, List.getElem?_modify]
  cases t.slots[index]? with
  | none => simp
  | some slot => by_cases hi : id.index = index <;> by_cases hg : slot.generation = id.generation <;> simp [hi, hg]

@[simp] theorem generation_occupy (node : DeviceNode) : (t.occupy node).generation index = t.generation index := by
  unfold occupy
  split
  · simp only [generation, List.getElem?_modify]
    cases t.slots[index]? with
    | none => simp
    | some slot => split <;> simp
  · simp only [generation]
    rcases Nat.lt_trichotomy index t.slots.length with hi | rfl | hi
    · rw [List.getElem?_append_left hi]
    · simp
    · rw [List.getElem?_eq_none (by simp; omega), List.getElem?_eq_none (by omega)]

theorem generation_vacate (h : t.isLive id) :
    (t.vacate id.index).generation index = t.generation index + if index = id.index then 1 else 0 := by
  obtain ⟨node, hnode⟩ := Option.isSome_iff_exists.1 h
  obtain ⟨slot, hs, -, -⟩ := node?_eq_some.1 hnode
  simp only [generation, vacate, List.getElem?_modify]
  by_cases hi : index = id.index
  · simp [hi, hs]
  · simp [hi, Ne.symm hi]

/-- Of slots that are vacated each moves on once. -/
theorem generation_vacateAll (index : Nat) (ids : List DeviceId) (hnodup : ids.Nodup) (hlive : ∀ id ∈ ids, t.isLive id) :
    (t.vacateAll ids).2.generation index = t.generation index + if ⟨index, t.generation index⟩ ∈ ids then 1 else 0 := by
  induction ids generalizing t with
  | nil => simp [vacateAll]
  | cons id rest ih =>
    obtain ⟨hnot, hrest⟩ := List.nodup_cons.1 hnodup
    have hid := hlive id List.mem_cons_self
    obtain ⟨node, hnode⟩ := Option.isSome_iff_exists.1 hid
    have hstep : (t.vacateAll (id :: rest)).2 = ((t.vacate id.index).vacateAll rest).2 := by
      simp only [vacateAll, hnode]
    have hlive' : ∀ x ∈ rest, (t.vacate id.index).isLive x := by
      intro x hx
      have hne : x ≠ id := fun he => hnot (he ▸ hx)
      rw [isLive, node?_vacate hid, if_neg hne]
      exact hlive x (List.mem_cons_of_mem _ hx)
    rw [hstep, ih hrest hlive', generation_vacate hid]
    by_cases hi : index = id.index
    · -- the slot has moved on, so no other id of it is among the rest
      have hself : (⟨index, t.generation index⟩ : DeviceId) = id := by rw [hi]; exact (eq_mk_generation hid).symm
      have hout : (⟨index, t.generation index + 1⟩ : DeviceId) ∉ rest := by
        intro hmem
        have hsame : (⟨index, t.generation index + 1⟩ : DeviceId) = id :=
          eq_of_index_eq (hlive _ (List.mem_cons_of_mem _ hmem)) hid hi
        exact hnot (hsame ▸ hmem)
      rw [if_pos hi, if_neg hout, hself, if_pos List.mem_cons_self, UInt32.add_zero]
    · have hne : (⟨index, t.generation index⟩ : DeviceId) ≠ id := fun he => hi (congrArg DeviceId.index he)
      simp [hi, hne]

theorem generation_attach (device : Device) : (t.attach parent device).generation index = t.generation index := by
  rw [attach, generation_modify, generation_occupy]

theorem generation_insertSection (parent : DeviceId) (s : Section) :
    (t.insertSection parent s).value.2.generation index = t.generation index := by
  refine insertSection_preserves (P := fun u => u.generation index = t.generation index)
    (fun staged u original above device id v _ _ hu hi => ?_) rfl
  obtain ⟨-, -, -, rfl⟩ := insert_eq_ok.1 hi
  rw [generation_attach, hu]

theorem generation_assignAddresses (emulated : DeviceId) (pool : AddressPool) :
    (t.assignAddresses emulated pool).value.1.generation index = t.generation index := by
  refine assignAddresses_preserves (P := fun u _ => u.generation index = t.generation index)
    (fun u pool id node hu _ => ?_) rfl
  rw [update, generation_modify, hu]

/-- A removal moves the slots of the members on, and no others. -/
theorem WellFormed.generation_removeSubtree (h : t.WellFormed) {removed : List Device}
    (hr : outcome (t.removeSubtree id) = .ok (removed, u)) :
    u.generation index = t.generation index + if ⟨index, t.generation index⟩ ∈ t.members id then 1 else 0 := by
  obtain ⟨-, parent, hparent, hprune⟩ := removeSubtree_eq_ok.1 hr
  obtain ⟨top, hshows, -⟩ := h
  obtain ⟨b, hs, hv⟩ := hshows.exists_subtree (isLive_of_parent? hparent)
  have hnodup : b.ids.Nodup := by rw [← Branch.ids_forest]; exact hshows.nodup_subtree hs
  obtain ⟨place, hheld⟩ := hshows.holds_detach hparent hs hv hnodup
  have hvacated := generation_vacateAll (t := t.detach parent id) index b.ids hnodup fun x hx =>
    hheld.isLive_of_mem (by rwa [Branch.ids_forest])
  rw [DeviceTree.prune, hshows.members_detach hparent hs hv hnodup] at hprune
  rw [hprune, detach, generation_modify] at hvacated
  rw [hvacated, hshows.members_eq hs hv]

/-! ### What an operation does -/

/-- An operation that succeeds in removing a device. -/
inductive Removes (t : DeviceTree) (x : DeviceId) : Operation → Prop
  | byName {name : String} {removed : List Device} {u : DeviceTree} (hfind : t.find? name = some x)
      (hr : outcome (t.remove name) = .ok (removed, u)) : Removes t x (.remove name)
  | byId {removed : List Device} {u : DeviceTree} (hr : outcome (t.removeSubtree x) = .ok (removed, u)) :
      Removes t x (.removeSubtree x)

/-- The ids that an operation returns for a device that it puts below another. -/
def issuedBelow (t : DeviceTree) (parent : DeviceId) : Operation → List DeviceId
  | .insert above device =>
    match t.insert above device with
    | .ok (id, _) => if above = parent then [id] else []
    | .error _ => []
  | .insertSection above s =>
    match (t.insertSection above s).value.1 with
    | .ok id => if above = parent then [id] else []
    | .error _ => []
  | _ => []

def Operation.isAssignment : Operation → Bool
  | .assignAddresses _ _ => true
  | _ => false

/-- What an operation can do to a tree. -/
inductive Effect (t : DeviceTree) (operation : Operation) : Prop
  | unchanged (hsame : t.after operation = t) (hissued : ∀ x, t.issuedBelow x operation = [])
      (hremoves : ∀ x, ¬ t.Removes x operation)
  | gained (parent id : DeviceId) (device : Device) (g : Layout)
      (hgained : t.Gained (t.after operation) parent (.cons (id, device) g .nil))
      (hgenerations : ∀ index, (t.after operation).generation index = t.generation index)
      (hissued : ∀ x, t.issuedBelow x operation = if parent = x then [id] else []) (hremoves : ∀ x, ¬ t.Removes x operation)
  | removed (x : DeviceId) (hlive : t.isLive x) (hremoves : t.Removes x operation)
      (hissued : ∀ y, t.issuedBelow y operation = [])
      (hview : ∀ y, (t.after operation).node? y = if y ∈ t.members x then none else
        (t.node? y).map fun node => { node with children := node.children.filter (· ≠ x) })
      (hgenerations : ∀ index, (t.after operation).generation index =
        t.generation index + if ⟨index, t.generation index⟩ ∈ t.members x then 1 else 0)
  | readdressed (hassignment : operation.isAssignment = true) (hreaddressed : t.Readdressed (t.after operation))
      (hgenerations : ∀ index, (t.after operation).generation index = t.generation index)
      (hissued : ∀ x, t.issuedBelow x operation = []) (hremoves : ∀ x, ¬ t.Removes x operation)

/-- One device is attached. -/
theorem gained_attach (hlisted : VacantListed t) (hp : t.isLive parent) (device : Device) :
    t.Gained (t.attach parent device) parent (.cons (t.nextId, device) .nil .nil) :=
  .cons hlisted hp (.nil _ _) (.nil _ _)

theorem WellFormed.effect_insert (h : t.WellFormed) (parent : DeviceId) (device : Device) :
    t.Effect (.insert parent device) := by
  cases hi : t.insert parent device with
  | error e =>
    refine .unchanged ?_ (fun x => ?_) fun x => nofun
    · rw [DeviceTree.after, hi]
    · rw [issuedBelow, hi]
  | ok result =>
    obtain ⟨id, u⟩ := result
    obtain ⟨hlive, -, rfl, rfl⟩ := insert_eq_ok.1 hi
    refine .gained parent t.nextId device .nil ?_ (fun index => ?_) (fun x => ?_) fun x => nofun
    · rw [DeviceTree.after, hi]
      exact gained_attach h.listed hlive device
    · rw [DeviceTree.after, hi]
      exact generation_attach device
    · rw [issuedBelow, hi]

theorem WellFormed.effect_insertSection (h : t.WellFormed) (parent : DeviceId) (s : Section) :
    t.Effect (.insertSection parent s) := by
  rcases insertSection_cases h.isTree parent s with ⟨e, hv⟩ | ⟨_, stop, u, g, -, -, -, -, hv, hg, -⟩
  · refine .unchanged ?_ (fun x => ?_) fun x => nofun
    · rw [DeviceTree.after, hv]
    · rw [issuedBelow, hv]
  · refine .gained parent t.nextId stop.value.2 g ?_ (fun index => ?_) (fun x => ?_) fun x => nofun
    · rw [DeviceTree.after, hv]
      exact hg
    · exact generation_insertSection parent s
    · rw [issuedBelow, hv]

theorem WellFormed.effect_removeSubtree (h : t.WellFormed) (id : DeviceId) : t.Effect (.removeSubtree id) := by
  cases hr : outcome (t.removeSubtree id) with
  | error e =>
    refine .unchanged ?_ (fun x => rfl) fun x hx => ?_
    · rw [DeviceTree.after, hr]
    · cases hx with
      | byId hok => rw [hr] at hok; cases hok
  | ok result =>
    obtain ⟨removed, u⟩ := result
    obtain ⟨-, parent, hparent, -⟩ := removeSubtree_eq_ok.1 hr
    refine .removed id (isLive_of_parent? hparent) (.byId hr) (fun y => rfl) ?_ (fun index => ?_)
    · rw [DeviceTree.after, hr]
      exact (h.removeSubtree_spec hr).2.2
    · rw [DeviceTree.after, hr]
      exact h.generation_removeSubtree hr

theorem WellFormed.effect_remove (h : t.WellFormed) (name : String) : t.Effect (.remove name) := by
  cases hr : outcome (t.remove name) with
  | error e =>
    refine .unchanged ?_ (fun x => rfl) fun x hx => ?_
    · rw [DeviceTree.after, hr]
    · cases hx with
      | byName _ hok => rw [hr] at hok; cases hok
  | ok result =>
    obtain ⟨removed, u⟩ := result
    cases hf : t.find? name with
    | none => rw [DeviceTree.remove, hf] at hr; cases hr
    | some id =>
      have hsub := hr
      rw [DeviceTree.remove, hf] at hsub
      refine .removed id (h.isLive_of_find? hf) (.byName hf hr) (fun y => rfl) ?_ (fun index => ?_)
      · rw [DeviceTree.after, hr]
        exact (h.removeSubtree_spec hsub).2.2
      · rw [DeviceTree.after, hr]
        exact h.generation_removeSubtree hsub

/-- Every operation does one of four things. -/
theorem WellFormed.effect (h : t.WellFormed) (operation : Operation) : t.Effect operation := by
  cases operation with
  | insert parent device => exact h.effect_insert parent device
  | insertSection parent s => exact h.effect_insertSection parent s
  | remove name => exact h.effect_remove name
  | removeSubtree id => exact h.effect_removeSubtree id
  | assignAddresses emulated pool =>
    exact .readdressed rfl (readdressed_assignAddresses t emulated pool)
      (fun index => generation_assignAddresses emulated pool) (fun x => rfl) fun x => nofun

/-- Whether an operation releases a slot: a device in it is live no longer. -/
def releases (t : DeviceTree) (index : Nat) (operation : Operation) : Bool :=
  (t.members t.root).any fun id => id.index = index && !(t.after operation).isLive id

theorem WellFormed.releases_iff (h : t.WellFormed) : t.releases index operation = true ↔
    ∃ id, id.index = index ∧ t.isLive id ∧ (t.after operation).isLive id = false := by
  have hmem := (coherent_of_wellFormed h).mem_walk
  simp only [releases, List.any_eq_true, Bool.and_eq_true, decide_eq_true_eq, Bool.not_eq_true']
  constructor
  · rintro ⟨id, hid, hindex, hgone⟩
    exact ⟨id, hindex, (hmem id).1 hid, hgone⟩
  · rintro ⟨id, hindex, hlive, hgone⟩
    exact ⟨id, (hmem id).2 hlive, hindex, hgone⟩

/-- A slot moves on by one generation when an operation releases it, and at no other time. -/
theorem WellFormed.generation_after (h : t.WellFormed) (operation : Operation) (index : Nat) :
    (t.after operation).generation index = t.generation index + if t.releases index operation then 1 else 0 := by
  have hkept (hlive : ∀ id, t.isLive id → (t.after operation).isLive id = true) : t.releases index operation = false := by
    rw [← Bool.not_eq_true, h.releases_iff]
    rintro ⟨id, -, hid, hgone⟩
    rw [hlive id hid] at hgone
    cases hgone
  cases h.effect operation with
  | unchanged hsame =>
    rw [hkept fun id hid => by rwa [hsame], hsame]
    simp
  | gained parent id device g hgained hgenerations =>
    rw [hkept fun id hid => hgained.isLive hid, hgenerations]
    simp
  | readdressed _ hreaddressed hgenerations =>
    rw [hkept fun id hid => by rwa [hreaddressed.isLive_eq], hgenerations]
    simp
  | removed x hlive _ _ hview hgenerations =>
    rw [hgenerations]
    have hiff : (⟨index, t.generation index⟩ : DeviceId) ∈ t.members x ↔ t.releases index operation = true := by
      rw [h.releases_iff]
      constructor
      · intro hmem
        exact ⟨_, rfl, h.isLive_of_mem_members hlive hmem, by rw [isLive, hview, if_pos hmem]; rfl⟩
      · rintro ⟨id, rfl, hid, hgone⟩
        rw [← eq_mk_generation hid]
        by_contra hout
        rw [isLive, hview, if_neg hout, Option.isSome_map] at hgone
        rw [isLive, hgone] at hid
        cases hid
    simp only [hiff]

end DeviceTree

end CecBus
