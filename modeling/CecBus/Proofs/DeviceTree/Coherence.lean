import Mathlib.Logic.Relation
import CecBus.Proofs.DeviceTree.WellFormed

/-! What holds of every tree that the operations can build: its links, slots, names and the walk agree. Main result:
`Reachable.coherent`. -/

namespace CecBus

namespace DeviceTree

variable {t u : DeviceTree} {id parent : DeviceId} {top : Branch (DeviceId × Device)}

/-! ### The trees that can be built -/

/-- An operation on a tree, with its arguments. -/
inductive Operation where
  | insert (parent : DeviceId) (device : Device)
  | insertSection (parent : DeviceId) (s : Section)
  | remove (name : String)
  | removeSubtree (id : DeviceId)
  | assignAddresses (emulated : DeviceId) (pool : AddressPool)

/-- The tree after an operation, whether it succeeds or fails. -/
def after (t : DeviceTree) : Operation → DeviceTree
  | .insert parent device =>
    match t.insert parent device with
    | .ok (_, u) => u
    | .error _ => t
  | .insertSection parent s => (t.insertSection parent s).value.2
  | .remove name =>
    match outcome (t.remove name) with
    | .ok (_, u) => u
    | .error _ => t
  | .removeSubtree id =>
    match outcome (t.removeSubtree id) with
    | .ok (_, u) => u
    | .error _ => t
  | .assignAddresses emulated pool => (t.assignAddresses emulated pool).value.1

/-- A tree that operations make of a new tree or of one that was read from a document. -/
inductive Reachable : DeviceTree → Prop
  | single (device : Device) : Reachable (single device)
  | ofSection {s : Section} {t : DeviceTree} (h : outcome (ofSection s) = .ok t) : Reachable t
  | after {t : DeviceTree} (h : Reachable t) (operation : Operation) : Reachable (t.after operation)

/-- What insertions, removals and the giving of addresses preserve is preserved by every operation. -/
theorem after_preserves {P : DeviceTree → Prop}
    (hinsert : ∀ t parent device id u, P t → t.insert parent device = .ok (id, u) → P u)
    (hremove : ∀ t id removed u, P t → outcome (t.removeSubtree id) = .ok (removed, u) → P u)
    (hassign : ∀ t emulated pool, P t → P (t.assignAddresses emulated pool).value.1) (h : P t) (operation : Operation) :
    P (t.after operation) := by
  cases operation with
  | insert parent device =>
    rw [DeviceTree.after]
    split
    · next hi => exact hinsert _ _ _ _ _ h hi
    · exact h
  | insertSection parent s => exact insertSection_preserves (fun _ _ _ _ _ _ _ _ _ ht hi => hinsert _ _ _ _ _ ht hi) h
  | remove name =>
    rw [DeviceTree.after, DeviceTree.remove]
    cases t.find? name with
    | none => exact h
    | some id =>
      dsimp only
      split
      · next hr => exact hremove _ _ _ _ h hr
      · exact h
  | removeSubtree id =>
    rw [DeviceTree.after]
    split
    · next hr => exact hremove _ _ _ _ h hr
    · exact h
  | assignAddresses emulated pool => exact hassign _ _ _ h

theorem WellFormed.after (h : t.WellFormed) (operation : Operation) : (t.after operation).WellFormed :=
  after_preserves (fun _ _ _ _ _ ht hi => ht.insert hi) (fun _ _ _ _ ht hr => ht.removeSubtree hr)
    (fun _ emulated pool ht => ht.assignAddresses emulated pool) h operation

theorem Reachable.wellFormed (h : t.Reachable) : t.WellFormed := by
  induction h with
  | single device => exact wellFormed_single device
  | ofSection h => exact .ofSection h
  | after _ operation ih => exact ih.after operation

/-! ### What holds of a well-formed tree -/

/-- The links between live devices, the vacant slots, the names and the walk agree. The walk comes to its end within
the steps it is given. -/
structure Coherent (t : DeviceTree) : Prop where
  root_live : t.isLive t.root
  root_parent : t.parent? t.root = none
  parent_live (id : DeviceId) : t.isLive id → id ≠ t.root →
    ∃ parent, t.parent? id = some parent ∧ t.isLive parent ∧ (t.children parent).count id = 1
  child_live (parent id : DeviceId) : id ∈ t.children parent → t.isLive id ∧ t.parent? id = some parent
  from_root (id : DeviceId) : t.isLive id → Relation.ReflTransGen (fun x y => y ∈ t.children x) t.root id
  acyclic (id : DeviceId) : ¬ Relation.TransGen (fun y x => t.parent? x = some y) id id
  listed : VacantListed t
  names (id x : DeviceId) (device other : Device) : t.device? id = some device → t.device? x = some other →
    device.name = other.name → id = x
  walk_ends (start : DeviceId) (steps : Nat) : t.slots.length ≤ steps → t.visit steps [(start, 0)] = t.walk start
  walk_nodup : ((t.walk t.root).map Prod.fst).Nodup
  mem_walk (id : DeviceId) : id ∈ (t.walk t.root).map Prod.fst ↔ t.isLive id
  length_walk : (t.walk t.root).length = t.count

theorem Shows.parent?_root (h : t.Shows top) : t.parent? t.root = none :=
  h.holds.parent_of_headIds (by rw [h.root]; exact List.mem_cons_self)

theorem Shows.exists_parent (h : t.Shows top) (hlive : t.isLive id) (hne : id ≠ t.root) :
    ∃ parent, t.parent? id = some parent ∧ t.isLive parent := by
  rcases h.holds.parent_mem (by rw [Branch.ids_forest]; exact h.complete id hlive) with hhead | ⟨parent, hmem, hp, -⟩
  · rw [h.root] at hne
    exact absurd (List.mem_singleton.1 hhead) hne
  · exact ⟨parent, hp, h.holds.isLive_of_mem hmem⟩

theorem Shows.from_root (h : t.Shows top) (hlive : t.isLive id) :
    Relation.ReflTransGen (fun x y => y ∈ t.children x) t.root id := by
  refine h.holds.forall_mem (fun x y hx hy => hx.tail hy) (fun x hx => ?_) id
    (by rw [Branch.ids_forest]; exact h.complete id hlive)
  rw [h.root, List.mem_singleton.1 hx]

/-- The chain of parents of an id ends. -/
theorem Shows.acc_parent (h : t.Shows top) (id : DeviceId) : Acc (fun y x => t.parent? x = some y) id := by
  by_cases hlive : t.isLive id
  · refine h.holds.forall_mem (fun x y hx hy => ⟨_, fun z hz => ?_⟩) (fun x hx => ⟨_, fun z hz => ?_⟩) id
      (by rw [Branch.ids_forest]; exact h.complete id hlive)
    · rw [h.children_of_parent hy] at hz
      cases hz
      exact hx
    · rw [h.holds.parent_of_headIds hx] at hz
      cases hz
  · exact ⟨_, fun z hz => absurd (isLive_of_parent? hz) hlive⟩

theorem Shows.acyclic (h : t.Shows top) (id : DeviceId) :
    ¬ Relation.TransGen (fun y x => t.parent? x = some y) id id := by
  induction (h.acc_parent id).transGen with
  | intro x _ ih => exact fun hx => ih x hx hx

theorem coherent_of_wellFormed (h : t.WellFormed) : t.Coherent := by
  obtain ⟨top, hshows, -⟩ := id h
  have hmembers : (t.walk t.root).map Prod.fst = top.ids := hshows.members_root
  exact
    { root_live := hshows.isLive_iff.2 hshows.root_mem
      root_parent := hshows.parent?_root
      parent_live := fun id hlive hne => by
        obtain ⟨parent, hparent, hp⟩ := hshows.exists_parent hlive hne
        exact ⟨parent, hparent, hp,
          List.count_eq_one_of_mem (hshows.children_nodup parent) (hshows.mem_children_of_parent hparent)⟩
      child_live := fun parent id hid =>
        ⟨isLive_of_parent? (hshows.children_of_parent hid), hshows.children_of_parent hid⟩
      from_root := fun id hlive => hshows.from_root hlive
      acyclic := hshows.acyclic
      listed := hshows.listed
      names := fun _ _ _ _ hid hx hsame => h.eq_of_name hid hx hsame
      walk_ends := fun start steps hsteps => hshows.visit_eq_walk start hsteps
      walk_nodup := by rw [hmembers]; exact hshows.nodup
      mem_walk := fun id => by rw [hmembers]; exact hshows.isLive_iff.symm
      length_walk := by
        rw [← List.length_map (f := Prod.fst), hmembers, hshows.count_eq, Branch.ids, List.length_map] }

/-- In every tree that can be built the links, the vacant slots, the names and the walk agree. -/
theorem Reachable.coherent (h : t.Reachable) : t.Coherent := coherent_of_wellFormed h.wellFormed

/-- A television with a tuner in the slot that a player left. -/
def televisionAndTuner : DeviceTree :=
  (((single (Device.named "TV" .tv)).after (.insert ⟨0, 0⟩ (Device.named "Player" .playback))).after
    (.removeSubtree ⟨1, 0⟩)).after (.insert ⟨0, 0⟩ (Device.named "Tuner" .tuner))

theorem televisionAndTuner_coherent :
    televisionAndTuner.slots.map DeviceSlot.generation = [0, 1] ∧ televisionAndTuner.Coherent :=
  ⟨rfl, Reachable.coherent (.after (.after (.after (.single _) _) _) _)⟩

end DeviceTree

end CecBus
