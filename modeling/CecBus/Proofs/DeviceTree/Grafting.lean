import CecBus.Proofs.DeviceTree.WellFormed

/-! Adding a staged tree never stops halfway: its names are distinct and none of them is in the other tree, so every
single insertion succeeds. A document is therefore added as a whole or not at all. -/

namespace CecBus.DeviceTree

variable {t u v : DeviceTree} {id x parent : DeviceId} {top : Branch (DeviceId × Device)}

def Bears (t : DeviceTree) (name : String) : Prop := ∃ id device, t.device? id = some device ∧ device.name = name

theorem Shows.find?_eq_none_iff_bears (h : t.Shows top) {name : String} : t.find? name = none ↔ ¬ t.Bears name := by
  rw [h.find?_eq_none_iff]
  constructor
  · rintro hnone ⟨id, device, hd, hname⟩
    exact hnone _ (h.device?_eq_some_iff.1 hd) hname
  · rintro hnone ⟨id, device⟩ he hname
    exact hnone ⟨id, device, h.device?_eq_some_iff.2 he, hname⟩

theorem device?_attach (h : VacantListed t) (hp : t.isLive parent) (device : Device) :
    (t.attach parent device).device? x = if x = t.nextId then some device else t.device? x := by
  rw [device?, node?_attach h hp]
  by_cases hx : x = t.nextId
  · simp [hx]
  · rw [if_neg hx, if_neg hx, Option.map_map, device?]
    congr 1
    funext node
    by_cases hxp : x = parent <;> simp [hxp]

theorem isLive_attach (h : VacantListed t) (hp : t.isLive parent) (device : Device) :
    (t.attach parent device).isLive x ↔ x = t.nextId ∨ t.isLive x := by
  rw [isLive, node?_attach h hp]
  by_cases hx : x = t.nextId <;> simp [hx, isLive]

theorem bears_attach (h : VacantListed t) (hp : t.isLive parent) (device : Device) (name : String) :
    (t.attach parent device).Bears name → t.Bears name ∨ device.name = name := by
  rintro ⟨id, other, hd, hname⟩
  rw [device?_attach h hp] at hd
  by_cases hid : id = t.nextId
  · rw [if_pos hid] at hd
    cases hd
    exact .inr hname
  · rw [if_neg hid] at hd
    exact .inl ⟨id, other, hd, hname⟩

/-- A tree that has gained a forest of new ids below a device, behind its other children. -/
structure Gained (t u : DeviceTree) (parent : DeviceId) (g : Layout) : Prop where
  root : u.root = t.root
  held : u.Holds (some parent) g
  nodup : g.ids.Nodup
  fresh (x : DeviceId) : x ∈ g.ids → ¬ t.isLive x
  old (x : DeviceId) : t.isLive x → u.node? x = (t.node? x).map fun node =>
    if x = parent then { node with children := node.children ++ g.headIds } else node
  complete (x : DeviceId) : u.isLive x → t.isLive x ∨ x ∈ g.ids

namespace Gained

variable {g gb gs : Layout} {device : Device}

theorem nil (t : DeviceTree) (parent : DeviceId) : t.Gained t parent .nil where
  root := rfl
  held := trivial
  nodup := List.nodup_nil
  fresh x hx := absurd hx List.not_mem_nil
  old x _ := by simp [Forest.headIds, Forest.heads]
  complete x hx := .inl hx

theorem isLive (h : t.Gained u parent g) (hx : t.isLive x) : u.isLive x := by
  rw [DeviceTree.isLive, h.old x hx, Option.isSome_map]
  exact hx

/-- Only the parent has more children than before. -/
theorem children_eq (h : t.Gained u parent g) (hx : t.isLive x) :
    u.children x = if x = parent then t.children x ++ g.headIds else t.children x := by
  obtain ⟨node, hnode⟩ := Option.isSome_iff_exists.1 hx
  rw [DeviceTree.children, h.old x hx, DeviceTree.children, hnode]
  by_cases hxp : x = parent <;> simp [hxp]

/-- The devices that are there already are left alone. -/
theorem device? (h : t.Gained u parent g) (hd : t.device? x = some device) : u.device? x = some device := by
  rw [DeviceTree.device?, h.old x (isLive_of_device? hd), Option.map_map, ← hd, DeviceTree.device?]
  congr 1
  funext node
  by_cases hxp : x = parent <;> simp [hxp]

/-- A device is attached, then a forest below it, then a forest behind it. -/
theorem cons (hlisted : VacantListed t) (hp : t.isLive parent)
    (hb : (t.attach parent device).Gained v t.nextId gb) (hs : v.Gained u parent gs) :
    t.Gained u parent (.cons (t.nextId, device) gb gs) := by
  have hview := fun x => node?_attach (x := x) hlisted hp device
  have hlive := fun x => isLive_attach (x := x) hlisted hp device
  have hdead : ¬ t.isLive t.nextId := by simp [not_isLive_nextId hlisted]
  have hnext : (t.attach parent device).isLive t.nextId := (hlive _).2 (.inl rfl)
  have hne : parent ≠ t.nextId := fun he => hdead (he ▸ hp)
  refine ⟨?_, ⟨?_, ?_, hs.held⟩, ?_, fun x hx => ?_, fun x hx => ?_, fun x hx => ?_⟩
  · rw [hs.root, hb.root, DeviceTree.attach, root_modify, root_occupy]
  · rw [hs.old _ (hb.isLive hnext), hb.old _ hnext, hview]
    simp [Ne.symm hne]
  · refine hb.held.congr fun x hx => ?_
    have hxp : ¬ x = parent := fun he => hb.fresh x hx ((hlive x).2 (.inr (he ▸ hp)))
    rw [hs.old x (hb.held.isLive_of_mem hx)]
    simp [hxp]
  · rw [Forest.ids_cons, List.nodup_cons, List.mem_append, not_or, List.nodup_append]
    exact ⟨⟨fun hx => hb.fresh _ hx hnext, fun hx => hs.fresh _ hx (hb.isLive hnext)⟩, hb.nodup, hs.nodup,
      fun x hx y hy he => hs.fresh y hy (he ▸ hb.held.isLive_of_mem hx)⟩
  · simp only [Forest.ids_cons, List.mem_cons, List.mem_append] at hx
    rcases hx with rfl | hx | hx
    · exact hdead
    · exact fun hlx => hb.fresh x hx ((hlive x).2 (.inr hlx))
    · exact fun hlx => hs.fresh x hx (hb.isLive ((hlive x).2 (.inr hlx)))
  · have hxn : ¬ x = t.nextId := fun he => hdead (he ▸ hx)
    have hx₁ := (hlive x).2 (.inr hx)
    rw [hs.old x (hb.isLive hx₁), hb.old x hx₁, hview, if_neg hxn, Option.map_map, Option.map_map]
    congr 1
    funext node
    by_cases hxp : x = parent
    · subst hxp
      simp [hne, Forest.headIds, Forest.heads]
    · simp [hxp, hxn]
  · simp only [Forest.ids_cons, List.mem_cons, List.mem_append]
    rcases hs.complete x hx with hx | hx
    · rcases hb.complete x hx with hx | hx
      · rcases (hlive x).1 hx with hx | hx
        · exact .inr (.inl hx)
        · exact .inl hx
      · exact .inr (.inr (.inl hx))
    · exact .inr (.inr (.inr hx))

theorem bears (h : t.Gained u parent g) {name : String} (hu : u.Bears name) :
    t.Bears name ∨ name ∈ (g.map Prod.snd).toList.map Device.name := by
  obtain ⟨x, device, hd, rfl⟩ := hu
  rcases h.complete x (isLive_of_device? hd) with hx | hx
  · obtain ⟨node, hnode⟩ := Option.isSome_iff_exists.1 hx
    have hold : t.device? x = some node.device := device?_of_node? hnode
    rw [h.device? hold] at hd
    cases hd
    exact .inl ⟨x, node.device, hold, rfl⟩
  · obtain ⟨⟨i, d⟩, he, rfl⟩ := List.mem_map.1 hx
    rw [h.held.device?_of_mem he] at hd
    cases hd
    rw [Forest.toList_map]
    exact .inr (List.mem_map_of_mem (List.mem_map_of_mem he))

end Gained

/-- The names of a forest are distinct, and no device of a tree bears one of them. -/
structure Fits (t : DeviceTree) (f : Forest Device) : Prop where
  nodup : (f.toList.map Device.name).Nodup
  free (name : String) : name ∈ f.toList.map Device.name → ¬ t.Bears name

namespace Fits

variable {device : Device} {below beside : Forest Device}

theorem insert (h : t.Fits (.cons device below beside)) (ht : t.IsTree) (hp : t.isLive parent) :
    t.insert parent device = .ok (t.nextId, t.attach parent device) := by
  obtain ⟨top, hshows⟩ := ht
  exact insert_eq_ok.2 ⟨hp, hshows.find?_eq_none_iff_bears.2 (h.free _ List.mem_cons_self), rfl, rfl⟩

theorem attach (h : t.Fits (.cons device below beside)) (hlisted : VacantListed t) (hp : t.isLive parent) :
    (t.attach parent device).Fits below := by
  obtain ⟨hnodup, hfree⟩ := h
  simp only [Forest.toList, List.map_cons, List.map_append, List.nodup_cons, List.nodup_append] at hnodup hfree
  refine ⟨hnodup.2.1, fun name hname hbear => ?_⟩
  rcases bears_attach hlisted hp device name hbear with hbear | rfl
  · exact hfree name (List.mem_cons_of_mem _ (List.mem_append_left _ hname)) hbear
  · exact hnodup.1 (List.mem_append_left _ hname)

/-- What fits beside a device still fits when the device is there with everything below it. -/
theorem gained (h : t.Fits (.cons device below beside)) (hlisted : VacantListed t) (hp : t.isLive parent) {g : Layout}
    (hg : (t.attach parent device).Gained u id g) (hcopy : g.map Prod.snd = below) : u.Fits beside := by
  obtain ⟨hnodup, hfree⟩ := h
  simp only [Forest.toList, List.map_cons, List.map_append, List.nodup_cons, List.nodup_append] at hnodup hfree
  refine ⟨hnodup.2.2.1, fun name hname hbear => ?_⟩
  rcases hg.bears hbear with hbear | hbelow
  · rcases bears_attach hlisted hp device name hbear with hbear | rfl
    · exact hfree name (List.mem_cons_of_mem _ (List.mem_append_right _ hname)) hbear
    · exact hnodup.1 (List.mem_append_right _ hname)
  · rw [hcopy] at hbelow
    exact hnodup.2.2.2 name hbelow name hname rfl

end Fits

theorem graft_eq_ok {staged : DeviceTree} {original : DeviceId} {node : DeviceNode} {depth : Nat}
    (hnode : staged.node? original = some node) (hinsert : t.insert parent node.device = .ok (id, v))
    (hbelow : graftAll (graft staged depth) id node.children v = (.ok (), u)) :
    graft staged (depth + 1) original parent t = (.ok id, u) := by
  have hdevice : staged.device? original = some node.device := device?_of_node? hnode
  have hchildren : staged.children original = node.children := by rw [children, hnode]; rfl
  rw [graft, hdevice]
  simp only [hinsert, hchildren, hbelow]

/-- Copies of a staged forest can be added below a device when there are steps enough and no name is taken. The tree
gains that forest. -/
theorem exists_graftAll {staged : DeviceTree} {above : Option DeviceId} {f : Layout} (hf : staged.Holds above f)
    (depth : Nat) (hdepth : f.toList.length ≤ depth) (ht : t.IsTree) (hp : t.isLive parent)
    (hfits : t.Fits (f.map Prod.snd)) :
    ∃ u g, graftAll (graft staged depth) parent f.headIds t = (.ok (), u) ∧ u.IsTree ∧ t.Gained u parent g ∧
      g.map Prod.snd = f.map Prod.snd := by
  induction f generalizing above depth parent t with
  | nil => exact ⟨t, .nil, rfl, ht, .nil t parent, rfl⟩
  | cons entry below beside below_ih beside_ih =>
    obtain ⟨hnode, hbelow, hbeside⟩ := hf
    rw [Forest.map] at hfits
    simp only [Forest.toList, List.length_cons, List.length_append] at hdepth
    obtain ⟨depth, rfl⟩ : ∃ d, depth = d + 1 := ⟨depth - 1, by omega⟩
    have hlisted : VacantListed t := ht.listed
    -- the device itself
    have hinsert := hfits.insert ht hp
    -- what is below it
    obtain ⟨v, gb, hv, hvt, hvg, hbcopy⟩ := below_ih hbelow depth (by omega) (ht.insert hinsert)
      ((isLive_attach hlisted hp entry.2).2 (.inl rfl)) (hfits.attach hlisted hp)
    -- what is beside it
    obtain ⟨u, gs, hu, hut, hug, hscopy⟩ := beside_ih hbeside (depth + 1) (by omega) hvt
      (hvg.isLive ((isLive_attach hlisted hp entry.2).2 (.inr hp))) (hfits.gained hlisted hp hvg hbcopy)
    refine ⟨u, .cons (t.nextId, entry.2) gb gs, ?_, hut, .cons hlisted hp hvg hug, ?_⟩
    · have hheads : (Forest.cons entry below beside).headIds = entry.1 :: beside.headIds := rfl
      rw [hheads, graftAll, graft_eq_ok hnode hinsert hv]
      exact hu
    · rw [Forest.map, Forest.map, hbcopy, hscopy]

theorem exists_graft {staged : DeviceTree} {place : Option DeviceId} {b : Branch (DeviceId × Device)}
    (hb : staged.Holds place b.forest) {depth : Nat} (hdepth : b.toList.length ≤ depth) (ht : t.IsTree)
    (hp : t.isLive parent) (hfits : t.Fits (b.forest.map Prod.snd)) :
    ∃ u g, graft staged depth b.value.1 parent t = (.ok t.nextId, u) ∧
      t.Gained u parent (.cons (t.nextId, b.value.2) g .nil) ∧ g.map Prod.snd = b.below.map Prod.snd := by
  obtain ⟨hnode, hbelow, -⟩ := hb
  rw [Branch.forest, Forest.map] at hfits
  rw [Branch.toList, List.length_cons] at hdepth
  obtain ⟨depth, rfl⟩ : ∃ d, depth = d + 1 := ⟨depth - 1, by omega⟩
  have hinsert := hfits.insert ht hp
  obtain ⟨u, g, hu, -, hug, hcopy⟩ := exists_graftAll hbelow depth (by omega) (ht.insert hinsert)
    ((isLive_attach ht.listed hp b.value.2).2 (.inl rfl)) (hfits.attach ht.listed hp)
  exact ⟨u, g, graft_eq_ok hnode hinsert hu, .cons ht.listed hp hug (.nil u parent), hcopy⟩

/-- Nothing clashes exactly if no staged device bears a name of the tree. -/
theorem Shows.clash?_eq_none_iff {top stop : Branch (DeviceId × Device)} {staged : DeviceTree} (hshows : t.Shows top)
    (hstaged : staged.Shows stop) : t.clash? staged = none ↔ ∀ name, staged.Bears name → ¬ t.Bears name := by
  rw [clash?, List.find?_eq_none]
  constructor
  · rintro hnone name ⟨id, device, hd, rfl⟩ hbear
    have hmem : id ∈ staged.members staged.root := by
      rw [hstaged.members_root]
      exact hstaged.complete id (isLive_of_device? hd)
    exact hshows.find?_eq_none_iff_bears.1 (by simpa using hnone device (List.mem_filterMap.2 ⟨id, hmem, hd⟩)) hbear
  · intro hfree device hmem
    obtain ⟨id, -, hd⟩ := List.mem_filterMap.1 hmem
    have hnone := hshows.find?_eq_none_iff_bears.2 (hfree device.name ⟨id, device, hd, rfl⟩)
    simp [hnone]

/-- The document is staged, its names are looked up in the tree, and only then anything is added. -/
theorem insertSection_value (t : DeviceTree) (parent : DeviceId) (s : Section) :
    (t.insertSection parent s).value =
      match outcome (ofSection s) with
      | .error e => (.error e, t)
      | .ok staged =>
        match t.clash? staged with
        | some device => (.error (.duplicateName device.name), t)
        | none => if !t.isLive parent then (.error .staleId, t) else graft staged staged.slots.length staged.root parent t := by
  rw [insertSection, Logged.value_bind, outcome_run]
  cases outcome (ofSection s) with
  | error e => rfl
  | ok staged =>
    dsimp only
    cases t.clash? staged with
    | some device => rfl
    | none => cases t.isLive parent <;> rfl

/-- A document that can be read and shares no name with the tree is added below every device. -/
theorem exists_insertSection (h : t.IsTree) {s : Section} {staged : DeviceTree} (hs : outcome (ofSection s) = .ok staged)
    (hc : t.clash? staged = none) (hp : t.isLive parent) :
    ∃ stop u g, staged.Shows stop ∧ (t.insertSection parent s).value = (.ok t.nextId, u) ∧
      t.Gained u parent (.cons (t.nextId, stop.value.2) g .nil) ∧ g.map Prod.snd = stop.below.map Prod.snd := by
  obtain ⟨top, hshows⟩ := id h
  obtain ⟨stop, hstaged, hnames⟩ := WellFormed.ofSection hs
  have hdepth : stop.toList.length ≤ staged.slots.length := by
    rw [hstaged.length_slots]
    omega
  have hfits : t.Fits (stop.forest.map Prod.snd) := by
    refine ⟨by rw [Forest.toList_map, Branch.toList_forest, List.map_map]; exact hnames, fun name hname => (hshows.clash?_eq_none_iff hstaged).1 hc name ?_⟩
    obtain ⟨device, hmem, rfl⟩ := List.mem_map.1 hname
    rw [Forest.toList_map, Branch.toList_forest] at hmem
    obtain ⟨e, he, rfl⟩ := List.mem_map.1 hmem
    exact ⟨e.1, e.2, hstaged.device?_eq_some_iff.2 he, rfl⟩
  obtain ⟨u, g, hu, hug, hcopy⟩ := exists_graft hstaged.holds hdepth h hp hfits
  refine ⟨stop, u, g, hstaged, ?_, hug, hcopy⟩
  rw [insertSection_value, hs]
  simp only [hc, hp, Bool.not_true, Bool.false_eq_true, if_false]
  rwa [← hstaged.root] at hu

/-- What adding a document can come to: it fails and nothing has changed, or the tree has gained what the document
says. -/
theorem insertSection_cases (h : t.IsTree) (parent : DeviceId) (s : Section) :
    (∃ e, (t.insertSection parent s).value = (.error e, t)) ∨
      ∃ staged stop u g, outcome (ofSection s) = .ok staged ∧ staged.Shows stop ∧ t.clash? staged = none ∧
        t.isLive parent ∧ (t.insertSection parent s).value = (.ok t.nextId, u) ∧
        t.Gained u parent (.cons (t.nextId, stop.value.2) g .nil) ∧ g.map Prod.snd = stop.below.map Prod.snd := by
  have hvalue := insertSection_value t parent s
  cases hs : outcome (ofSection s) with
  | error e => exact .inl ⟨e, by rw [hvalue, hs]⟩
  | ok staged =>
    rw [hs] at hvalue
    dsimp only at hvalue
    cases hc : t.clash? staged with
    | some device => exact .inl ⟨.duplicateName device.name, by rw [hvalue, hc]⟩
    | none =>
      cases hp : t.isLive parent with
      | false => exact .inl ⟨.staleId, by rw [hvalue, hc, hp]; rfl⟩
      | true =>
        obtain ⟨stop, u, g, hstaged, hu, hug, hcopy⟩ := exists_insertSection h hs hc hp
        exact .inr ⟨staged, stop, u, g, rfl, hstaged, hc, rfl, hu, hug, hcopy⟩

/-- A document is added as a whole or not at all. -/
theorem insertSection_error (h : t.IsTree) {s : Section} {e : TreeError}
    (he : (t.insertSection parent s).value.1 = .error e) : (t.insertSection parent s).value.2 = t := by
  rcases insertSection_cases h parent s with ⟨_, hv⟩ | ⟨_, _, u, _, -, -, -, -, hv, -⟩
  · rw [hv]
  · rw [hv] at he
    cases he

end CecBus.DeviceTree
