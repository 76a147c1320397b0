import CecBus.Proofs.DeviceTree.Overview
import CecBus.Proofs.DeviceTree.Staging

/-! The walk, the search for a name and the overview against recursions without a bound. `Unfolds` follows the children
of ids down for as long as it takes, and `Visits` takes ids from a stack until it is empty; in any slots at all the
loop visits what the recursion unfolds, in preorder. Trees unfold as a whole, so the bounded walk and the bounded
overview lose nothing. Main result: `Handled.traversed`. -/

namespace CecBus

namespace Forest

variable {κ β : Type}

def places (depth : Nat) (f : Forest (κ × β)) : List (κ × Nat) := (f.levels depth).map fun e => (e.1.1, e.2)

@[simp] theorem places_nil (depth : Nat) : (nil : Forest (κ × β)).places depth = [] := rfl

@[simp] theorem places_cons (depth : Nat) (a : κ × β) (below beside : Forest (κ × β)) :
    (cons a below beside).places depth = (a.1, depth) :: (below.places (depth + 1) ++ beside.places depth) := by
  simp [places, levels]

/-- Further down, everything is as much deeper. -/
theorem places_add (depth more : Nat) (f : Forest (κ × β)) :
    f.places (depth + more) = (f.places depth).map fun e => (e.1, e.2 + more) := by
  induction f generalizing depth with
  | nil => rfl
  | cons a below beside below_ih beside_ih =>
    rw [places_cons, places_cons, Nat.add_right_comm, below_ih, beside_ih, List.map_cons, List.map_append]

/-- Depths do not depend on the values. -/
theorem levels_map {α γ : Type} (g : α → γ) (depth : Nat) (f : Forest α) :
    (f.map g).levels depth = (f.levels depth).map fun e => (g e.1, e.2) := by
  induction f generalizing depth with
  | nil => rfl
  | cons a below beside below_ih beside_ih => simp [map, levels, below_ih, beside_ih]

end Forest

namespace DeviceTree

/-! ### Without a bound -/

/-- The forest that ids unfold to: each that is live, with what its children unfold to below it. -/
inductive Unfolds (t : DeviceTree) : List DeviceId → Layout → Prop
  | nil : Unfolds t [] .nil
  | stale {id : DeviceId} {rest : List DeviceId} {beside : Layout} (hn : t.node? id = none)
      (hbeside : Unfolds t rest beside) : Unfolds t (id :: rest) beside
  | live {id : DeviceId} {node : DeviceNode} {rest : List DeviceId} {below beside : Layout}
      (hn : t.node? id = some node) (hbelow : Unfolds t node.children below) (hbeside : Unfolds t rest beside) :
      Unfolds t (id :: rest) (.cons (id, node.device) below beside)

/-- The order in which ids are visited from a stack: the children of the one on top take its place, the first of them
on top. -/
inductive Visits (t : DeviceTree) : List (DeviceId × Nat) → List (DeviceId × Nat) → Prop
  | nil : Visits t [] []
  | stale {id : DeviceId} {depth : Nat} {stack order : List (DeviceId × Nat)} (hn : t.node? id = none)
      (hrest : Visits t stack order) : Visits t ((id, depth) :: stack) order
  | live {id : DeviceId} {node : DeviceNode} {depth : Nat} {stack order : List (DeviceId × Nat)}
      (hn : t.node? id = some node) (hrest : Visits t (node.children.map (·, depth + 1) ++ stack) order) :
      Visits t ((id, depth) :: stack) ((id, depth) :: order)

variable {t : DeviceTree} {id : DeviceId} {depth : Nat} {ids : List DeviceId} {f g : Layout}
  {stack order other : List (DeviceId × Nat)} {top : Branch (DeviceId × Device)}

theorem Unfolds.eq (h : t.Unfolds ids f) (hg : t.Unfolds ids g) : f = g := by
  induction h generalizing g with
  | nil => cases hg; rfl
  | stale hn _ ih =>
    cases hg with
    | stale _ hg => exact ih hg
    | live hn' _ _ => rw [hn] at hn'; cases hn'
  | live hn _ _ below_ih beside_ih =>
    cases hg with
    | stale hn' _ => rw [hn] at hn'; cases hn'
    | live hn' hbelow hbeside =>
      rw [hn] at hn'
      cases hn'
      rw [below_ih hbelow, beside_ih hbeside]

theorem Visits.eq (h : t.Visits stack order) (ho : t.Visits stack other) : order = other := by
  induction h generalizing other with
  | nil => cases ho; rfl
  | stale hn _ ih =>
    cases ho with
    | stale _ ho => exact ih ho
    | live hn' _ => rw [hn] at hn'; cases hn'
  | live hn _ ih =>
    cases ho with
    | stale hn' _ => rw [hn] at hn'; cases hn'
    | live hn' ho =>
      rw [hn] at hn'
      cases hn'
      rw [ih ho]

/-- The loop visits what the recursion unfolds, whatever is in the slots. -/
theorem Unfolds.visits (h : t.Unfolds ids f) (hrest : t.Visits stack order) :
    t.Visits (ids.map (·, depth) ++ stack) (f.places depth ++ order) := by
  induction h generalizing depth stack order with
  | nil => exact hrest
  | stale hn _ ih => exact .stale hn (ih hrest)
  | live hn _ _ below_ih beside_ih =>
    rw [Forest.places_cons, List.cons_append, List.append_assoc]
    exact .live hn (below_ih (beside_ih hrest))

/-! ### Trees unfold as a whole -/

theorem Holds.unfolds {above : Option DeviceId} (h : t.Holds above f) : t.Unfolds f.headIds f := by
  induction f generalizing above with
  | nil => exact .nil
  | cons entry below beside below_ih beside_ih =>
    obtain ⟨hnode, hbelow, hbeside⟩ := h
    exact .live hnode (below_ih hbelow) (beside_ih hbeside)

/-- Every id of a tree unfolds, and the walk lists what it unfolds to. -/
theorem Shows.exists_unfolds (h : t.Shows top) (id : DeviceId) : ∃ f, t.Unfolds [id] f ∧ t.walk id = f.places 0 := by
  cases hn : t.node? id with
  | none => exact ⟨.nil, .stale hn .nil, visit_stale hn _ _⟩
  | some node =>
    obtain ⟨b, hs, rfl⟩ := h.exists_subtree (isLive_of_node? hn)
    obtain ⟨place, hheld⟩ := h.holds.subtree hs
    exact ⟨b.forest, hheld.unfolds, h.walk_eq hs rfl⟩

theorem Shows.walk_eq_places (h : t.Shows top) (hf : t.Unfolds [id] f) : t.walk id = f.places 0 := by
  obtain ⟨g, hg, hwalk⟩ := h.exists_unfolds id
  rw [hwalk, hg.eq hf]

/-- What some ids unfold to are their walks, one after the other. -/
theorem Shows.places_eq (h : t.Shows top) (hf : t.Unfolds ids f) (depth : Nat) :
    f.places depth = ids.flatMap fun id => (t.walk id).map fun e => (e.1, e.2 + depth) := by
  induction hf generalizing depth with
  | nil => rfl
  | stale hn _ ih => rw [List.flatMap_cons, walk, visit_stale hn, ih, List.map_nil, List.nil_append]
  | @live id node _ below _ hn hbelow _ _ beside_ih =>
    have hadd := Forest.places_add 0 depth (.cons (id, node.device) below .nil)
    rw [Nat.zero_add] at hadd
    rw [List.flatMap_cons, h.walk_eq_places (.live hn hbelow .nil), ← hadd, ← beside_ih]
    simp

/-- The walk from a device starts with that device; then come the walks of its children, one step deeper. -/
theorem Shows.walk_of_isLive (h : t.Shows top) (hlive : t.isLive id) :
    t.walk id = (id, 0) :: (t.children id).flatMap fun child => (t.walk child).map fun e => (e.1, e.2 + 1) := by
  obtain ⟨node, hn⟩ := Option.isSome_iff_exists.1 hlive
  obtain ⟨f, hf, hwalk⟩ := h.exists_unfolds id
  have hchildren : t.children id = node.children := by simp [children, hn]
  cases hf with
  | stale hn' _ => rw [hn] at hn'; cases hn'
  | live hn' hbelow hbeside =>
    rw [hn] at hn'
    cases hn'
    cases hbeside
    rw [hwalk, hchildren, Forest.places_cons, Forest.places_nil, List.append_nil, Nat.zero_add, h.places_eq hbelow]

/-- The loop that starts with an id comes to an end, with the walk. -/
theorem Shows.visits_iff (h : t.Shows top) : t.Visits [(id, 0)] order ↔ order = t.walk id := by
  obtain ⟨f, hf, hwalk⟩ := h.exists_unfolds id
  have hvisits : t.Visits [(id, 0)] (t.walk id) := by
    have hloop : t.Visits [(id, 0)] (f.places 0 ++ []) := hf.visits .nil
    rwa [List.append_nil, ← hwalk] at hloop
  exact ⟨fun ho => ho.eq hvisits, fun ho => ho ▸ hvisits⟩

/-! ### Names -/

/-- A tree that operations make, also when devices in it are changed by hand in between, but keep their names. -/
inductive Named : DeviceTree → Prop
  | single (device : Device) : Named (single device)
  | ofSection {s : Section} {t : DeviceTree} (h : outcome (ofSection s) = .ok t) : Named t
  | after {t : DeviceTree} (h : Named t) (operation : Operation) : Named (t.after operation)
  | update {t : DeviceTree} (h : Named t) (id : DeviceId) (f : Device → Device) (hname : ∀ device, (f device).name = device.name) :
      Named (t.update id f)

theorem Named.wellFormed (h : t.Named) : t.WellFormed := by
  induction h with
  | single device => exact wellFormed_single device
  | ofSection h => exact .ofSection h
  | after _ operation ih => exact ih.after operation
  | update _ id f hname ih => exact ih.update f hname

/-- Under distinct names, a name is found exactly at the device that bears it. -/
theorem WellFormed.find?_eq_some_iff (h : t.WellFormed) {name : String} :
    t.find? name = some id ↔ ∃ device, t.device? id = some device ∧ device.name = name := by
  constructor
  · exact h.device?_of_find?
  · rintro ⟨device, hd, rfl⟩
    exact h.find?_of_device? hd

/-! ### The three of them -/

/-- Devices are listed, found and shown as the recursion without a bound goes through them. -/
structure Traversed (t : DeviceTree) : Prop where
  /-- The loop ends, with the walk. -/
  loop (start : DeviceId) (order : List (DeviceId × Nat)) : t.Visits [(start, 0)] order ↔ order = t.walk start
  /-- So does the recursion, and what it unfolds is the walk in preorder. -/
  recursion (start : DeviceId) : ∃ f, t.Unfolds [start] f ∧ t.walk start = f.places 0
  walk_live (start : DeviceId) : t.isLive start →
    t.walk start = (start, 0) :: (t.children start).flatMap fun child => (t.walk child).map fun e => (e.1, e.2 + 1)
  walk_stale (start : DeviceId) : t.isLive start = false → t.walk start = []
  not_found (name : String) : t.find? name = none ↔ ∀ id device, t.device? id = some device → device.name ≠ name
  found (name : String) (id : DeviceId) : t.find? name = some id → ∃ device, t.device? id = some device ∧ device.name = name
  /-- Names are distinct, unless they are changed by hand. -/
  found_iff (hnamed : t.Named) (name : String) (id : DeviceId) :
    t.find? name = some id ↔ ∃ device, t.device? id = some device ∧ device.name = name
  /-- The overview is what the root unfolds to, every device described, and so it goes through the devices of the walk
  from the root, in that order and at those depths. -/
  overview : ∃ b f, t.overview? = some b ∧ t.Unfolds [t.root] f ∧ b.forest = f.map (fun e => e.2.describe) ∧
    (b.forest.levels 0).map (fun e => (some e.1, e.2)) = (t.walk t.root).map fun e => ((t.device? e.1).map Device.describe, e.2)

theorem Shows.exists_overview (h : t.Shows top) : ∃ b f, t.overview? = some b ∧ t.Unfolds [t.root] f ∧
    b.forest = f.map (fun e => e.2.describe) ∧
    (b.forest.levels 0).map (fun e => (some e.1, e.2)) =
      (t.walk t.root).map fun e => ((t.device? e.1).map Device.describe, e.2) := by
  have hunfolds : t.Unfolds [t.root] top.forest := by
    rw [h.root]
    exact h.holds.unfolds
  have hmap : (⟨top.value.2.describe, top.below.map fun e => e.2.describe⟩ : Branch Description).forest =
      top.forest.map fun e => e.2.describe := rfl
  refine ⟨_, _, h.overview?_eq, hunfolds, hmap, ?_⟩
  rw [hmap, Forest.levels_map, h.walk_eq_places hunfolds, Forest.places, List.map_map, List.map_map]
  refine List.map_congr_left fun e he => ?_
  have hmem : e.1 ∈ top.toList := by
    rw [← Branch.toList_forest, ← Forest.map_fst_levels top.forest 0]
    exact List.mem_map_of_mem he
  simp only [Function.comp, h.device?_eq_some_iff.2 hmem, Option.map_some]

/-- Whatever was done with a tree, also by hand: the walk, the search for a name and the overview come to an end, and
agree with one recursion over its devices. -/
theorem Handled.traversed (h : t.Handled) : t.Traversed := by
  obtain ⟨top, hshows⟩ := h.isTree
  exact
    { loop := fun _ _ => hshows.visits_iff
      recursion := hshows.exists_unfolds
      walk_live := fun _ hlive => hshows.walk_of_isLive hlive
      walk_stale := fun _ hdead => visit_stale (by simpa [isLive] using hdead) _ _
      not_found := fun name => by
        rw [hshows.find?_eq_none_iff]
        exact ⟨fun hnone id device hd => hnone (id, device) (hshows.device?_eq_some_iff.1 hd),
          fun hnone e he => hnone e.1 e.2 (hshows.device?_eq_some_iff.2 he)⟩
      found := fun name id hf => by
        obtain ⟨device, hmem, hname⟩ := hshows.find?_eq_some hf
        exact ⟨device, hshows.device?_eq_some_iff.2 hmem, hname⟩
      found_iff := fun hnamed _ _ => hnamed.wellFormed.find?_eq_some_iff
      overview := hshows.exists_overview }

def playerBehindTuner : DeviceTree :=
  televisionAndTuner.after (.insert ⟨1, 1⟩ (Device.named "Player" .playback))

theorem playerBehindTuner_traversed : playerBehindTuner.Handled ∧ playerBehindTuner.Traversed ∧ playerBehindTuner.Named ∧
    playerBehindTuner.walk ⟨0, 0⟩ = [(⟨0, 0⟩, 0), (⟨1, 1⟩, 1), (⟨2, 0⟩, 2)] ∧ playerBehindTuner.walk ⟨1, 0⟩ = [] := by
  have hhandled : playerBehindTuner.Handled := .after (.after (.after (.after (.single _) _) _) _) _
  have hnamed : playerBehindTuner.Named := .after (.after (.after (.after (.single _) _) _) _) _
  exact ⟨hhandled, Handled.traversed hhandled, hnamed, by decide +kernel, by decide +kernel⟩

end DeviceTree

end CecBus
