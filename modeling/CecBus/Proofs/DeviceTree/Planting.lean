import CecBus.Proofs.DeviceTree.Grafting
import CecBus.Proofs.DeviceTree.Traversal

/-! Forests of devices without their ids. What a tree has gained stands in it as a forest planted behind the children of
one device, wherever its slots are. Names tell where, so that trees that were filled in another order can be compared:
planting below two devices comes to the same in either order (`Forest.plant_comm`), and the same devices are then below
the same ones, also when both are planted below one device (`Forest.mem_kin_plant`). -/

namespace CecBus

namespace Forest

variable {α β γ : Type} {here there : α → Bool} {f g h : Forest α} {a : α}

theorem map_map (k : α → β) (l : β → γ) (f : Forest α) : (f.map k).map l = f.map (l ∘ k) := by
  induction f with
  | nil => rfl
  | cons a below beside below_ih beside_ih => simp [map, below_ih, beside_ih]

theorem map_congr {k l : α → β} (hsame : ∀ a ∈ f.toList, k a = l a) : f.map k = f.map l := by
  induction f with
  | nil => rfl
  | cons a below beside below_ih beside_ih =>
    simp only [toList, List.forall_mem_cons, List.forall_mem_append] at hsame
    obtain ⟨ha, hbelow, hbeside⟩ := hsame
    rw [map, map, ha, below_ih hbelow, beside_ih hbeside]

theorem map_eq_self {k : α → α} (hsame : ∀ a ∈ f.toList, k a = a) : f.map k = f := by
  induction f with
  | nil => rfl
  | cons a below beside below_ih beside_ih =>
    simp only [toList, List.forall_mem_cons, List.forall_mem_append] at hsame
    obtain ⟨ha, hbelow, hbeside⟩ := hsame
    rw [map, ha, below_ih hbelow, beside_ih hbeside]

/-! ### One forest behind another -/

def append : Forest α → Forest α → Forest α
  | nil, g => g
  | cons a below beside, g => cons a below (beside.append g)

@[simp] theorem heads_append (f g : Forest α) : (f.append g).heads = f.heads ++ g.heads := by
  induction f with
  | nil => rfl
  | cons a below beside _ beside_ih => simp [append, heads, beside_ih]

@[simp] theorem map_append (k : α → β) (f g : Forest α) : (f.append g).map k = (f.map k).append (g.map k) := by
  induction f with
  | nil => rfl
  | cons a below beside _ beside_ih => simp [append, map, beside_ih]

theorem append_assoc (f g h : Forest α) : (f.append g).append h = f.append (g.append h) := by
  induction f with
  | nil => rfl
  | cons a below beside _ beside_ih => rw [append, append, append, beside_ih]

/-- Forests of as many trees are taken apart again. -/
theorem append_inj {f' g' : Forest α} (hlength : f.heads.length = f'.heads.length) (h : f.append g = f'.append g') :
    f = f' ∧ g = g' := by
  induction f generalizing f' with
  | nil =>
    cases f' with
    | nil => exact ⟨rfl, h⟩
    | cons _ _ _ => simp [heads] at hlength
  | cons a below beside _ beside_ih =>
    cases f' with
    | nil => simp [heads] at hlength
    | cons b below' beside' =>
      simp only [heads, List.length_cons, Nat.add_right_cancel_iff] at hlength
      simp only [append, cons.injEq] at h
      obtain ⟨rfl, rfl, h⟩ := h
      obtain ⟨rfl, rfl⟩ := beside_ih hlength h
      exact ⟨rfl, rfl⟩

/-! ### Planting -/

/-- The forest with another one behind the children of some of its values. -/
def plant : Forest α → (α → Bool) → Forest α → Forest α
  | nil, _, _ => nil
  | cons a below beside, here, g =>
    cons a (if here a then (below.plant here g).append g else below.plant here g) (beside.plant here g)

@[simp] theorem heads_plant (f : Forest α) (here : α → Bool) (g : Forest α) : (f.plant here g).heads = f.heads := by
  induction f with
  | nil => rfl
  | cons a below beside _ beside_ih => simp [plant, heads, beside_ih]

theorem plant_append (f g : Forest α) (here : α → Bool) (h : Forest α) :
    (f.append g).plant here h = (f.plant here h).append (g.plant here h) := by
  induction f with
  | nil => rfl
  | cons a below beside _ beside_ih => rw [append, plant, plant, append, beside_ih]

theorem map_plant {k : α → β} {there : β → Bool} (hsame : ∀ a ∈ f.toList, here a = there (k a)) :
    (f.plant here g).map k = (f.map k).plant there (g.map k) := by
  induction f with
  | nil => rfl
  | cons a below beside below_ih beside_ih =>
    simp only [toList, List.forall_mem_cons, List.forall_mem_append] at hsame
    obtain ⟨ha, hbelow, hbeside⟩ := hsame
    rw [plant, map, map, plant, beside_ih hbeside, ha]
    cases there (k a) <;> simp [below_ih hbelow]

/-- Where there is no place for it, nothing is planted. -/
theorem plant_of_forall_not (h : ∀ a ∈ f.toList, here a = false) : f.plant here g = f := by
  induction f with
  | nil => rfl
  | cons a below beside below_ih beside_ih =>
    simp only [toList, List.forall_mem_cons, List.forall_mem_append] at h
    obtain ⟨ha, hbelow, hbeside⟩ := h
    rw [plant, below_ih hbelow, beside_ih hbeside, ha, if_neg Bool.false_ne_true]

/-- Where forests look alike as far as the places go, what is planted in them can be told. -/
theorem plant_inj {k : α → β} (hhere : ∀ a b, k a = k b → here a = here b) {f' g' : Forest α} (hsame : f.map k = f'.map k)
    (h : f.plant here g = f'.plant here g') (hmem : ∃ a ∈ f.toList, here a = true) : g = g' := by
  induction f generalizing f' with
  | nil =>
    obtain ⟨a, ha, -⟩ := hmem
    cases ha
  | cons a below beside below_ih beside_ih =>
    cases f' with
    | nil => cases hsame
    | cons b below' beside' =>
      simp only [map, cons.injEq] at hsame
      obtain ⟨hvalue, hbelow, hbeside⟩ := hsame
      simp only [plant, cons.injEq, hhere a b hvalue] at h
      obtain ⟨-, hplanted, hrest⟩ := h
      cases hb : here b with
      | true =>
        have hlength := congrArg (fun f => f.heads.length) hbelow
        simp only [heads_map, List.length_map] at hlength
        rw [hb, if_pos rfl, if_pos rfl] at hplanted
        exact (append_inj (by simpa using hlength) hplanted).2
      | false =>
        rw [hb, if_neg Bool.false_ne_true, if_neg Bool.false_ne_true] at hplanted
        simp only [toList, List.mem_cons, List.mem_append, or_and_right, exists_or, exists_eq_left,
          hhere a b hvalue, hb, Bool.false_eq_true, false_or] at hmem
        rcases hmem with hmem | hmem
        · exact below_ih hbelow hplanted hmem
        · exact beside_ih hbeside hrest hmem

/-- In the same places a second forest comes behind the first one. -/
theorem plant_plant (hg : ∀ a ∈ g.toList, here a = false) :
    (f.plant here g).plant here h = f.plant here (g.append h) := by
  induction f with
  | nil => rfl
  | cons a below beside below_ih beside_ih =>
    simp only [plant, beside_ih]
    cases hhere : here a with
    | true => simp [plant_append, below_ih, plant_of_forall_not hg, append_assoc]
    | false => simp [below_ih]

/-- Forests that are planted in different places, none of them in the other, are planted in either order. -/
theorem plant_comm (hplaces : ∀ a ∈ f.toList, here a = true → there a = false) (hg : ∀ a ∈ g.toList, there a = false)
    (hh : ∀ a ∈ h.toList, here a = false) : (f.plant here g).plant there h = (f.plant there h).plant here g := by
  induction f with
  | nil => rfl
  | cons a below beside below_ih beside_ih =>
    simp only [toList, List.forall_mem_cons, List.forall_mem_append] at hplaces
    obtain ⟨ha, hbelow, hbeside⟩ := hplaces
    simp only [plant, beside_ih hbeside]
    congr 1
    cases hhere : here a with
    | true =>
      simp [ha hhere, plant_append, below_ih hbelow, plant_of_forall_not hg]
    | false =>
      cases hthere : there a with
      | true => simp [plant_append, below_ih hbelow, plant_of_forall_not hh]
      | false => simp [below_ih hbelow]

end Forest

def Device.isNamed (name : String) (device : Device) : Bool := device.name = name

namespace Forest

variable {here : Device → Bool} {f g : Forest Device} {above : Option String} {e : Device × Option String}

/-- The devices, each with the name of the one above it. -/
def kin (above : Option String) : Forest Device → List (Device × Option String)
  | nil => []
  | cons device below beside => (device, above) :: (below.kin (some device.name) ++ beside.kin above)

theorem kin_append (f g : Forest Device) (above : Option String) : (f.append g).kin above = f.kin above ++ g.kin above := by
  induction f with
  | nil => rfl
  | cons device below beside _ beside_ih => simp [append, kin, beside_ih]

/-- Planting adds what is planted, below the devices where it is planted. -/
theorem mem_kin_plant : e ∈ (f.plant here g).kin above ↔
    e ∈ f.kin above ∨ ∃ device ∈ f.toList, here device = true ∧ e ∈ g.kin (some device.name) := by
  induction f generalizing above with
  | nil => simp [plant, kin, toList]
  | cons device below beside below_ih beside_ih =>
    have hbelow : e ∈ (if here device then (below.plant here g).append g else below.plant here g).kin (some device.name) ↔
        e ∈ (below.plant here g).kin (some device.name) ∨ here device = true ∧ e ∈ g.kin (some device.name) := by
      cases here device <;> simp [kin_append]
    simp only [plant, kin, toList, List.mem_cons, List.mem_append, hbelow, below_ih, beside_ih, or_and_right, exists_or,
      exists_eq_left]
    grind

end Forest

namespace DeviceTree

variable {t u : DeviceTree} {id parent : DeviceId} {device : Device} {name : String} {f g : Layout}
  {top : Branch (DeviceId × Device)}

/-! ### The forest that a tree shows -/

def forest (t : DeviceTree) : Forest Device := (t.outline t.slots.length [t.root]).map Prod.snd

theorem Shows.forest_eq (h : t.Shows top) : t.forest = top.forest.map Prod.snd := by
  have hheads : top.forest.headIds = [t.root] := by
    rw [h.root]
    rfl
  have hlength : top.forest.toList.length ≤ t.slots.length := by
    rw [Branch.toList_forest, h.length_slots]
    omega
  rw [forest, ← hheads, h.holds.outline_eq hlength]

/-- Slots hold one forest only below given ids. -/
theorem Holds.eq {above other : Option DeviceId} (hf : t.Holds above f) (hg : t.Holds other g)
    (hheads : g.headIds = f.headIds) : g = f := by
  have hunfolds := hg.unfolds
  rw [hheads] at hunfolds
  exact hunfolds.eq hf.unfolds

theorem Holds.append {above : Option DeviceId} (hf : t.Holds above f) (hg : t.Holds above g) :
    t.Holds above (f.append g) := by
  induction f with
  | nil => exact hg
  | cons entry below beside _ beside_ih =>
    obtain ⟨hnode, hbelow, hbeside⟩ := hf
    exact ⟨hnode, hbelow, beside_ih hbeside⟩

theorem WellFormed.mem_forest_iff (h : t.WellFormed) : device ∈ t.forest.toList ↔ ∃ id, t.device? id = some device := by
  obtain ⟨top, hshows, -⟩ := h
  simp only [hshows.forest_eq, Forest.toList_map, Branch.toList_forest, List.mem_map, Prod.exists, exists_eq_right,
    hshows.device?_eq_some_iff]

/-- What is gained is planted below the parent. -/
theorem Gained.holds_plant (h : t.Gained u parent g) {above : Option DeviceId} (hf : t.Holds above f) :
    u.Holds above (f.plant (fun e => e.1 = parent) g) := by
  induction f generalizing above with
  | nil => trivial
  | cons entry below beside below_ih beside_ih =>
    obtain ⟨hnode, hbelow, hbeside⟩ := hf
    refine ⟨?_, ?_, beside_ih hbeside⟩
    · rw [h.old _ (isLive_of_node? hnode), hnode]
      by_cases he : entry.1 = parent <;> simp [he, Forest.headIds]
    · by_cases he : entry.1 = parent
      · have hheld := h.held
        rw [← he] at hheld
        simpa [he] using (below_ih hbelow).append hheld
      · simpa [he] using below_ih hbelow

/-- An id is that of a device exactly if the device there has its name. -/
theorem WellFormed.eq_iff_name (h : t.WellFormed) (hd : t.device? id = some device) {x : DeviceId} {other : Device}
    (hx : t.device? x = some other) : x = id ↔ other.name = device.name := by
  constructor
  · rintro rfl
    rw [hd] at hx
    cases hx
    rfl
  · exact h.eq_of_name hx hd

theorem WellFormed.forest_gained (h : t.WellFormed) (hu : u.WellFormed) (hg : t.Gained u parent g)
    (hd : t.device? parent = some device) :
    u.forest = t.forest.plant (Device.isNamed device.name) (g.map Prod.snd) := by
  have hname := fun x other (hx : t.device? x = some other) => h.eq_iff_name hd hx
  obtain ⟨top, hshows, -⟩ := h
  obtain ⟨utop, hushows, -⟩ := hu
  have hheads : (top.forest.plant (fun e => e.1 = parent) g).headIds = utop.forest.headIds := by
    rw [Forest.headIds, Forest.heads_plant]
    change [top.value.1] = [utop.value.1]
    rw [← hshows.root, ← hushows.root, hg.root]
  rw [hushows.forest_eq, hshows.forest_eq, ← hushows.holds.eq (hg.holds_plant hshows.holds) hheads]
  refine Forest.map_plant fun e he => ?_
  rw [Branch.toList_forest] at he
  exact decide_eq_decide.2 (hname _ _ (hshows.device?_eq_some_iff.2 he))

theorem WellFormed.forest_update (h : t.WellFormed) (hd : t.device? id = some device) (k : Device → Device) :
    (t.update id k).forest = t.forest.map fun d => if d.name = device.name then k d else d := by
  have hname := fun x other (hx : t.device? x = some other) => h.eq_iff_name hd hx
  obtain ⟨top, hshows, -⟩ := h
  have hforest : (changedBranch id k top).forest = top.forest.map (changeAt id k) := rfl
  rw [(hshows.update k).forest_eq, hforest, hshows.forest_eq, Forest.map_map, Forest.map_map]
  refine Forest.map_congr fun e he => ?_
  rw [Branch.toList_forest] at he
  simp only [Function.comp, changeAt, hname _ _ (hshows.device?_eq_some_iff.2 he)]

/-! ### Devices and those above them -/

/-- There is a device, below one with a name or at the root. -/
def Has (t : DeviceTree) (device : Device) (above : Option String) : Prop :=
  ∃ id, t.device? id = some device ∧ ((t.parent? id).bind t.device?).map Device.name = above

theorem Holds.mem_kin_iff {place : Option DeviceId} (h : t.Holds place f) {above : Option String} :
    (device, above) ∈ (f.map Prod.snd).kin ((place.bind t.device?).map Device.name) ↔
      ∃ id ∈ f.ids, t.device? id = some device ∧ ((t.parent? id).bind t.device?).map Device.name = above := by
  induction f generalizing place with
  | nil => simp [Forest.map, Forest.kin]
  | cons entry below beside below_ih beside_ih =>
    obtain ⟨hnode, hbelow, hbeside⟩ := h
    have hentry : t.device? entry.1 = some entry.2 := device?_of_node? hnode
    have hparent : t.parent? entry.1 = place := by rw [parent?, hnode]; rfl
    have hb := below_ih hbelow
    rw [Option.bind_some, hentry, Option.map_some] at hb
    simp only [Forest.map, Forest.kin, List.mem_cons, List.mem_append, Forest.ids_cons, hb, beside_ih hbeside,
      or_and_right, exists_or, exists_eq_left, hentry, hparent, Prod.mk.injEq, Option.some.injEq]
    rw [@eq_comm _ device, @eq_comm _ above]

theorem Shows.has_iff (h : t.Shows top) {above : Option String} : t.Has device above ↔ (device, above) ∈ t.forest.kin none := by
  have hkin : (device, above) ∈ (top.forest.map Prod.snd).kin none ↔ ∃ id ∈ top.forest.ids,
      t.device? id = some device ∧ ((t.parent? id).bind t.device?).map Device.name = above := h.holds.mem_kin_iff
  rw [h.forest_eq, hkin]
  constructor
  · rintro ⟨id, hd, habove⟩
    exact ⟨id, by rw [Branch.ids_forest]; exact h.complete id (isLive_of_device? hd), hd, habove⟩
  · rintro ⟨id, -, hd, habove⟩
    exact ⟨id, hd, habove⟩

end DeviceTree

end CecBus
