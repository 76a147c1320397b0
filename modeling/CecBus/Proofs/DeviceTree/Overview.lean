import CecBus.DeviceTree.Overview
import CecBus.Proofs.DeviceTree.WellFormed

/-! What is shown of a tree comes from its nodes. Trees in which every id stands for the same node show the same forest:
they are described alike and have as many devices, whichever slots are vacant. -/

namespace CecBus.DeviceTree

variable {t u : DeviceTree} {top : Branch (DeviceId × Device)}

/-- With steps enough the outline of a held forest is that forest. -/
theorem Holds.outline_eq {above : Option DeviceId} {f : Layout} (h : t.Holds above f) {steps : Nat}
    (hsteps : f.toList.length ≤ steps) : t.outline steps f.headIds = f := by
  induction f generalizing above steps with
  | nil => cases steps <;> rfl
  | cons entry below beside below_ih beside_ih =>
    obtain ⟨hnode, hbelow, hbeside⟩ := h
    simp only [Forest.toList, List.length_cons, List.length_append] at hsteps
    obtain ⟨steps, rfl⟩ : ∃ s, steps = s + 1 := ⟨steps - 1, by omega⟩
    have hheads : (Forest.cons entry below beside).headIds = entry.1 :: beside.headIds := rfl
    rw [hheads, outline, hnode]
    dsimp only
    rw [below_ih hbelow (by omega), beside_ih hbeside (by omega)]

theorem Shows.overview?_eq (h : t.Shows top) :
    t.overview? = some ⟨top.value.2.describe, top.below.map fun e => e.2.describe⟩ := by
  obtain ⟨hnode, hbelow, -⟩ := h.holds
  have hlength : top.below.toList.length ≤ t.slots.length := by
    rw [h.length_slots, Branch.toList, List.length_cons]
    omega
  rw [overview?, h.root, hnode, Option.map_some, hbelow.outline_eq hlength]

/-- Every id stands for the same node. -/
structure SameNodes (t u : DeviceTree) : Prop where
  root : u.root = t.root
  node (x : DeviceId) : u.node? x = t.node? x

namespace SameNodes

theorem device?_eq (h : t.SameNodes u) (x : DeviceId) : u.device? x = t.device? x := by
  rw [device?, h.node, device?]

theorem shows (h : t.SameNodes u) (ht : t.Shows top) (hu : VacantListed u) : u.Shows top where
  root := h.root.trans ht.root
  holds := ht.holds.congr fun x _ => h.node x
  nodup := ht.nodup
  complete x hx := by
    rw [isLive, h.node] at hx
    exact ht.complete x hx
  listed := hu

theorem overview?_eq (h : t.SameNodes u) (ht : t.WellFormed) (hu : u.WellFormed) : u.overview? = t.overview? := by
  obtain ⟨top, hshows, -⟩ := ht
  rw [hshows.overview?_eq, (h.shows hshows hu.listed).overview?_eq]

theorem count_eq (h : t.SameNodes u) (ht : t.WellFormed) (hu : u.WellFormed) : u.count = t.count := by
  obtain ⟨top, hshows, -⟩ := ht
  rw [hshows.count_eq, (h.shows hshows hu.listed).count_eq]

end SameNodes

end CecBus.DeviceTree
