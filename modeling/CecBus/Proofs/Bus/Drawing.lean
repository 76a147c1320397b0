import Mathlib.Data.List.Find
import CecBus.Proofs.Bus.Dealing
import CecBus.Proofs.DeviceTree.Planting

/-! Giving addresses to a forest of devices without their ids. Devices that have a logical address draw none, so that in a
forest of such devices only what was planted draws, in its own order (`assignForest_plant`). What a device is given, and
what it takes from the pool, depends on the addresses of its kind alone, which no other kind shares; forests without a
kind in common draw the same in either order (`Independent.assignForest_eq`, `Independent.pool_eq`). -/

namespace CecBus

namespace Forest

variable {n : String} {above : Option PhysicalAddress} {f g : Forest Device}

def names (f : Forest Device) : List String := f.toList.map Device.name

@[simp] theorem names_cons (device : Device) (below beside : Forest Device) :
    (cons device below beside).names = device.name :: (below.names ++ beside.names) := by
  simp [names, toList]

theorem isNamed_eq_false (h : n ∉ f.names) : ∀ device ∈ f.toList, device.isNamed n = false := fun _ hd =>
  decide_eq_false fun he => h (he ▸ List.mem_map_of_mem hd)

theorem isNamed_congr {device other : Device} (h : device.name = other.name) :
    device.isNamed n = other.isNamed n := congrArg (fun name => decide (name = n)) h

theorem plant_of_not_mem (h : n ∉ f.names) : f.plant (Device.isNamed n) g = f := plant_of_forall_not (isNamed_eq_false h)

theorem mem_kin_plant_isNamed {top : Option String} {e : Device × Option String} (h : n ∈ f.names) :
    e ∈ (f.plant (Device.isNamed n) g).kin top ↔ e ∈ f.kin top ∨ e ∈ g.kin (some n) := by
  obtain ⟨device, hd, rfl⟩ := List.mem_map.1 h
  rw [mem_kin_plant]
  refine or_congr_right ⟨?_, fun he => ⟨device, hd, decide_eq_true rfl, he⟩⟩
  rintro ⟨other, -, hname, he⟩
  rwa [of_decide_eq_true hname] at he

/-! ### Places -/

/-- The devices behind their ports of those above them. -/
def located : Option PhysicalAddress → Forest Device → Forest Device
  | _, nil => nil
  | above, cons device below beside =>
    cons { device with physical := DeviceTree.placeBehind above device }
      (located (some (DeviceTree.placeBehind above device)) below) (located above beside)

/-- The place behind the ports of the device with a name. -/
def placeNamed? (n : String) : Option PhysicalAddress → Forest Device → Option PhysicalAddress
  | _, nil => none
  | above, cons device below beside =>
    if device.name = n then some (DeviceTree.placeBehind above device)
    else (placeNamed? n (some (DeviceTree.placeBehind above device)) below).or (placeNamed? n above beside)

theorem map_name_located (above : Option PhysicalAddress) (f : Forest Device) :
    (located above f).map Device.name = f.map Device.name := by
  induction f generalizing above with
  | nil => rfl
  | cons device below beside below_ih beside_ih => rw [located, map, map, below_ih, beside_ih]

@[simp] theorem names_located (above : Option PhysicalAddress) (f : Forest Device) : (located above f).names = f.names := by
  rw [names, ← toList_map, map_name_located, toList_map, names]

theorem placeNamed?_eq_none : placeNamed? n above f = none ↔ n ∉ f.names := by
  induction f generalizing above with
  | nil => simp [placeNamed?, names, toList]
  | cons device below beside below_ih beside_ih =>
    rw [placeNamed?, names_cons]
    by_cases hn : device.name = n
    · simp [hn]
    · simp [hn, Ne.symm hn, below_ih, beside_ih]

theorem mem_names_of_placeNamed? {place : PhysicalAddress} (h : placeNamed? n above f = some place) : n ∈ f.names := by
  by_contra hnot
  rw [placeNamed?_eq_none.2 hnot] at h
  cases h

theorem placeNamed?_append (n : String) (above : Option PhysicalAddress) (f g : Forest Device) :
    placeNamed? n above (f.append g) = (placeNamed? n above f).or (placeNamed? n above g) := by
  induction f with
  | nil => rfl
  | cons device below beside _ beside_ih =>
    rw [append, placeNamed?, placeNamed?, beside_ih]
    split
    · rfl
    · rw [Option.or_assoc]

theorem placeNamed?_plant {here : Device → Bool} (h : n ∉ g.names) :
    placeNamed? n above (f.plant here g) = placeNamed? n above f := by
  induction f generalizing above with
  | nil => rfl
  | cons device below beside below_ih beside_ih =>
    rw [plant, placeNamed?, placeNamed?, beside_ih]
    cases here device with
    | true => simp [placeNamed?_append, below_ih, placeNamed?_eq_none.2 h]
    | false => simp [below_ih]

end Forest

namespace DeviceTree

variable {n : String} {above : Option PhysicalAddress} {f g : Forest Device} {pool pool' : AddressPool} {device : Device}
  {a : LogicalAddress}

/-! ### Giving addresses to a forest -/

/-- A forest below a place with all addresses given, and the pool afterwards. No device of it waits for a claim. -/
def assignForest : Option PhysicalAddress → Forest Device → AddressPool → Forest Device × AddressPool
  | _, .nil, pool => (.nil, pool)
  | above, .cons device below beside, pool =>
    let place := placeBehind above device
    let given := (logicalFor device false pool).value
    let below := assignForest (some place) below given.2
    let beside := assignForest above beside below.2
    (.cons (addressed place given.1 device) below.1 beside.1, beside.2)

/-- Without a device that waits, ids do not matter. -/
theorem map_assignLayout {waits : DeviceId → Bool} {f : Layout}
    (h : ∀ e ∈ f.toList, waits e.1 = true → e.2.logical.isSome = true) (above : Option PhysicalAddress) (pool : AddressPool) :
    assignForest above (f.map Prod.snd) pool =
      ((assignLayout waits above f pool).1.map Prod.snd, (assignLayout waits above f pool).2) := by
  induction f generalizing above pool with
  | nil => rfl
  | cons entry below beside below_ih beside_ih =>
    simp only [Forest.toList, List.forall_mem_cons, List.forall_mem_append] at h
    obtain ⟨hentry, hbelow, hbeside⟩ := h
    have hgiven : (logicalFor entry.2 (waits entry.1) pool).value = (logicalFor entry.2 false pool).value := by
      cases hw : waits entry.1 with
      | false => rfl
      | true =>
        obtain ⟨a, ha⟩ := Option.isSome_iff_exists.1 (hentry hw)
        rw [logicalFor_of_some ha, logicalFor_of_some ha]
    simp only [Forest.map, assignForest, assignLayout, hgiven, below_ih hbelow, beside_ih hbeside]

@[simp] theorem names_assignForest (above : Option PhysicalAddress) (f : Forest Device) (pool : AddressPool) :
    (assignForest above f pool).1.names = f.names := by
  induction f generalizing above pool with
  | nil => rfl
  | cons device below beside below_ih beside_ih =>
    simp only [assignForest, Forest.names_cons, below_ih, beside_ih]
    rfl

theorem assignForest_cons (h : device.logical.isSome = true) (above : Option PhysicalAddress) (f g : Forest Device)
    (pool : AddressPool) : assignForest above (.cons device f g) pool =
      (.cons { device with physical := placeBehind above device } (assignForest (some (placeBehind above device)) f pool).1
          (assignForest above g (assignForest (some (placeBehind above device)) f pool).2).1,
        (assignForest above g (assignForest (some (placeBehind above device)) f pool).2).2) := by
  obtain ⟨a, ha⟩ := Option.isSome_iff_exists.1 h
  simp only [assignForest, logicalFor_of_some ha, addressed, ← ha]

theorem assignForest_append (above : Option PhysicalAddress) (f g : Forest Device) (pool : AddressPool) :
    assignForest above (f.append g) pool =
      ((assignForest above f pool).1.append (assignForest above g (assignForest above f pool).2).1,
        (assignForest above g (assignForest above f pool).2).2) := by
  induction f generalizing pool with
  | nil => rfl
  | cons device below beside _ beside_ih => simp only [Forest.append, assignForest, beside_ih]

theorem assignForest_of_addressed (h : ∀ device ∈ f.toList, device.logical.isSome = true)
    (above : Option PhysicalAddress) (pool : AddressPool) : assignForest above f pool = (f.located above, pool) := by
  induction f generalizing above pool with
  | nil => rfl
  | cons device below beside below_ih beside_ih =>
    simp only [Forest.toList, List.forall_mem_cons, List.forall_mem_append] at h
    obtain ⟨hdevice, hbelow, hbeside⟩ := h
    rw [assignForest_cons hdevice, below_ih hbelow, beside_ih hbeside, Forest.located]

/-- Among devices that have a logical address only those that were planted draw one, below the place of the device where
they were planted. -/
theorem assignForest_plant (h : ∀ device ∈ f.toList, device.logical.isSome = true) (hnodup : f.names.Nodup)
    {place : PhysicalAddress} (hplace : f.placeNamed? n above = some place) (pool : AddressPool) :
    assignForest above (f.plant (Device.isNamed n) g) pool =
      ((f.located above).plant (Device.isNamed n) (assignForest (some place) g pool).1,
        (assignForest (some place) g pool).2) := by
  induction f generalizing above with
  | nil => cases hplace
  | cons device below beside below_ih beside_ih =>
    simp only [Forest.toList, List.forall_mem_cons, List.forall_mem_append] at h
    obtain ⟨hdevice, hbelow, hbeside⟩ := h
    simp only [Forest.names_cons, List.nodup_cons, List.mem_append, not_or, List.nodup_append] at hnodup
    obtain ⟨⟨hnb, hns⟩, hnodupb, hnodups, hdisjoint⟩ := hnodup
    rw [Forest.placeNamed?] at hplace
    by_cases hn : device.name = n
    · -- Here it is, and nowhere below or beside.
      subst hn
      rw [if_pos rfl, Option.some.injEq] at hplace
      subst hplace
      have hhere : device.isNamed device.name = true := decide_eq_true rfl
      have hhere' : Device.isNamed device.name { device with physical := placeBehind above device } = true := hhere
      rw [Forest.plant, if_pos hhere, Forest.plant_of_not_mem hnb, Forest.plant_of_not_mem hns,
        assignForest_cons hdevice, assignForest_append, assignForest_of_addressed hbelow,
        assignForest_of_addressed hbeside, Forest.located, Forest.plant, if_pos hhere',
        Forest.plant_of_not_mem (by rwa [Forest.names_located]), Forest.plant_of_not_mem (by rwa [Forest.names_located])]
    · rw [if_neg hn] at hplace
      have hhere : ¬ device.isNamed n = true := by simpa [Device.isNamed] using hn
      have hhere' : ¬ Device.isNamed n { device with physical := placeBehind above device } = true := hhere
      rw [Forest.plant, if_neg hhere, assignForest_cons hdevice, Forest.located, Forest.plant, if_neg hhere']
      rcases Option.or_eq_some_iff.1 hplace with hplace | ⟨hnone, hplace⟩
      · have hmem : n ∈ below.names := Forest.mem_names_of_placeNamed? hplace
        have hout : n ∉ beside.names := fun hs => hdisjoint n hmem n hs rfl
        have hout' : n ∉ (beside.located above).names := by rwa [Forest.names_located]
        rw [below_ih hbelow hnodupb hplace, Forest.plant_of_not_mem hout, assignForest_of_addressed hbeside,
          Forest.plant_of_not_mem hout']
      · have hout : n ∉ below.names := Forest.placeNamed?_eq_none.1 hnone
        have hout' : n ∉ (below.located (some (placeBehind above device))).names := by rwa [Forest.names_located]
        rw [Forest.plant_of_not_mem hout, assignForest_of_addressed hbelow, beside_ih hbeside hnodups hplace,
          Forest.plant_of_not_mem hout']

/-! ### Drawing in either order -/

/-- What a device is given depends on the addresses of its kind, and what it takes is marked in any pool. -/
theorem logicalFor_congr (h : ∀ a ∈ device.kind.shares, pool.isTaken a = pool'.isTaken a) :
    (logicalFor device false pool).value.1 = (logicalFor device false pool').value.1 ∧
      ∀ a, pool.isTaken a = pool'.isTaken a →
        (logicalFor device false pool).value.2.isTaken a = (logicalFor device false pool').value.2.isTaken a := by
  have hfree : pool.firstFree? device.kind = pool'.firstFree? device.kind := by
    rw [AddressPool.firstFree?_eq_find?, AddressPool.firstFree?_eq_find?]
    exact List.find?_congr fun a ha => by rw [h a ha]
  cases hl : device.logical with
  | some a => exact ⟨by rw [logicalFor_of_some hl, logicalFor_of_some hl], fun b hb => by
      rwa [logicalFor_of_some hl, logicalFor_of_some hl]⟩
  | none =>
    simp only [logicalFor, hl, Bool.false_eq_true, if_false, AddressPool.allocate, hfree]
    cases pool'.firstFree? device.kind with
    | none => exact ⟨rfl, fun a ha => ha⟩
    | some b =>
      refine ⟨rfl, fun a ha => ?_⟩
      simp only [Logged.value_bind, Logged.value_pure, AddressPool.isTaken_mark, ha]

/-- Only addresses of its kind are taken for a device. -/
theorem isTaken_logicalFor (h : a ∉ device.kind.shares) :
    (logicalFor device false pool).value.2.isTaken a = pool.isTaken a := by
  have hgiven := given_logicalFor device false pool
  generalize (logicalFor device false pool).value.1 = given at hgiven
  generalize (logicalFor device false pool).value.2 = after at hgiven ⊢
  cases hgiven with
  | kept => rfl
  | waiting => rfl
  | spent => rfl
  | drawn _ _ hfree =>
    obtain ⟨hcandidate, hne, -⟩ := AddressPool.firstFree?_eq_some hfree
    have hmem : given ∈ device.kind.shares := List.mem_filter.2 ⟨hcandidate, decide_eq_true hne⟩
    have hother : given ≠ a := fun he => h (he ▸ hmem)
    rw [AddressPool.isTaken_mark, decide_eq_false hother, Bool.or_false]

theorem assignForest_congr (h : ∀ device ∈ f.toList, ∀ a ∈ device.kind.shares, pool.isTaken a = pool'.isTaken a)
    (above : Option PhysicalAddress) : (assignForest above f pool).1 = (assignForest above f pool').1 ∧
      ∀ a, pool.isTaken a = pool'.isTaken a →
        (assignForest above f pool).2.isTaken a = (assignForest above f pool').2.isTaken a := by
  induction f generalizing above pool pool' with
  | nil => exact ⟨rfl, fun _ ha => ha⟩
  | cons device below beside below_ih beside_ih =>
    simp only [Forest.toList, List.forall_mem_cons, List.forall_mem_append] at h
    obtain ⟨hdevice, hbelow, hbeside⟩ := h
    -- Where the pools agree at first, they agree all along.
    obtain ⟨hgiven, hfirst⟩ := logicalFor_congr hdevice
    obtain ⟨hb, hsecond⟩ := below_ih (fun d hd a ha => hfirst a (hbelow d hd a ha)) (some (placeBehind above device))
    obtain ⟨hs, hthird⟩ := beside_ih (fun d hd a ha => hsecond a (hfirst a (hbeside d hd a ha))) above
    simp only [assignForest, hgiven, hb, hs, true_and]
    exact fun a ha => hthird a (hsecond a (hfirst a ha))

theorem isTaken_assignForest (h : ∀ device ∈ f.toList, a ∉ device.kind.shares) (above : Option PhysicalAddress)
    (pool : AddressPool) : (assignForest above f pool).2.isTaken a = pool.isTaken a := by
  induction f generalizing above pool with
  | nil => rfl
  | cons device below beside below_ih beside_ih =>
    simp only [Forest.toList, List.forall_mem_cons, List.forall_mem_append] at h
    obtain ⟨hdevice, hbelow, hbeside⟩ := h
    simp only [assignForest]
    rw [beside_ih hbeside, below_ih hbelow, isTaken_logicalFor hdevice]

/-- Two forests have no kind in common that has addresses of its own. -/
def Independent (f g : Forest Device) : Prop :=
  ∀ device ∈ f.toList, ∀ other ∈ g.toList, device.kind = other.kind → device.kind.shares = []

theorem Independent.symm (h : Independent f g) : Independent g f := fun device hd other ho hkind => by
  rw [hkind]
  exact h other ho device hd hkind.symm

theorem Independent.not_mem (h : Independent f g) {device : Device} (hd : device ∈ f.toList) (ha : a ∈ device.kind.shares) :
    ∀ other ∈ g.toList, a ∉ other.kind.shares := fun other ho hmem => by
  rw [h device hd other ho (Device.Kind.eq_of_mem_shares ha hmem)] at ha
  cases ha

theorem Independent.assignForest_eq (h : Independent f g) (above other : Option PhysicalAddress) (pool : AddressPool) :
    (assignForest above f (assignForest other g pool).2).1 = (assignForest above f pool).1 ∧
      ∀ a, (∀ device ∈ g.toList, a ∉ device.kind.shares) →
        (assignForest above f (assignForest other g pool).2).2.isTaken a = (assignForest above f pool).2.isTaken a := by
  obtain ⟨hforest, hpool⟩ := assignForest_congr (f := f)
    (fun device hd a ha => isTaken_assignForest (h.not_mem hd ha) other pool) above
  exact ⟨hforest, fun a ha => hpool a (isTaken_assignForest ha other pool)⟩

theorem Independent.pool_eq (h : Independent f g) (above other : Option PhysicalAddress) (pool : AddressPool) :
    (assignForest above f (assignForest other g pool).2).2 = (assignForest other g (assignForest above f pool).2).2 := by
  refine AddressPool.ext_isTaken fun a => Bool.eq_iff_iff.1 ?_
  by_cases ha : ∀ device ∈ g.toList, a ∉ device.kind.shares
  · rw [(h.assignForest_eq above other pool).2 a ha, isTaken_assignForest ha]
  · obtain ⟨device, hd, hmem⟩ : ∃ device ∈ g.toList, a ∈ device.kind.shares := by simpa using ha
    have hout := h.symm.not_mem hd hmem
    rw [(h.symm.assignForest_eq other above pool).2 a hout, isTaken_assignForest hout]

end DeviceTree

end CecBus
