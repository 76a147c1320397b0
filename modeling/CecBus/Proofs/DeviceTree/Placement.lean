import CecBus.Proofs.DeviceTree.WellFormed

/-! Giving addresses as a recursion over the forest that a tree shows: the devices come in preorder, each is placed
behind its port of the device above it, which has its place already, and the pool goes from each to the next. What
follows: every device is in its place afterwards, and nothing but addresses has changed. -/

namespace CecBus

/-- A device after addresses were given: no more than its addresses differ, and a logical address that was there
stays. -/
structure Device.Readdressed (d e : Device) : Prop where
  rest : e = { d with physical := e.physical, logical := e.logical }
  logical (a : LogicalAddress) : d.logical = some a → e.logical = some a

namespace Device.Readdressed

variable {d e f : Device}

theorem refl (d : Device) : d.Readdressed d := ⟨rfl, fun _ h => h⟩

theorem trans (hde : d.Readdressed e) (hef : e.Readdressed f) : d.Readdressed f where
  rest := by rw [hef.rest, hde.rest]
  logical a h := hef.logical a (hde.logical a h)

theorem kind_eq (h : d.Readdressed e) : e.kind = d.kind := by rw [h.rest]

theorem name_eq (h : d.Readdressed e) : e.name = d.name := by rw [h.rest]

theorem port_eq (h : d.Readdressed e) : e.port = d.port := by rw [h.rest]

end Device.Readdressed

namespace DeviceTree

variable {t u v : DeviceTree} {pool : AddressPool} {emulated id x : DeviceId} {device : Device}
  {top : Branch (DeviceId × Device)}

/-! ### Giving addresses to a forest -/

/-- The place behind the port of a device, below a place or at the root. -/
def placeBehind (above : Option PhysicalAddress) (device : Device) : PhysicalAddress :=
  match above with
  | some place => place.child device.port.toNat
  | none => .root

theorem placeOf_eq (t : DeviceTree) (node : DeviceNode) :
    t.placeOf node = placeBehind ((node.parent.bind t.device?).map Device.physical) node.device := by
  unfold placeOf placeBehind
  cases node.parent.bind t.device? <;> rfl

/-- A forest below a place with all addresses given, and the pool afterwards. -/
def assignLayout (waits : DeviceId → Bool) : Option PhysicalAddress → Layout → AddressPool → Layout × AddressPool
  | _, .nil, pool => (.nil, pool)
  | above, .cons (id, device) below beside, pool =>
    let place := placeBehind above device
    let given := (logicalFor device (waits id) pool).value
    let below := assignLayout waits (some place) below given.2
    let beside := assignLayout waits above beside below.2
    (.cons (id, addressed place given.1 device) below.1 beside.1, beside.2)

@[simp] theorem headIds_assignLayout (waits : DeviceId → Bool) (above : Option PhysicalAddress) (f : Layout)
    (pool : AddressPool) : (assignLayout waits above f pool).1.headIds = f.headIds := by
  induction f generalizing above pool with
  | nil => rfl
  | cons entry below beside _ beside_ih => exact congrArg (entry.1 :: ·) (beside_ih _ _)

@[simp] theorem ids_assignLayout (waits : DeviceId → Bool) (above : Option PhysicalAddress) (f : Layout)
    (pool : AddressPool) : (assignLayout waits above f pool).1.ids = f.ids := by
  induction f generalizing above pool with
  | nil => rfl
  | cons entry below beside below_ih beside_ih => simp only [assignLayout, Forest.ids_cons, below_ih, beside_ih]

theorem waits_congr (h : u.root = t.root) : u.waits emulated = t.waits emulated := by
  funext id
  rw [waits, waits, h]

/-- A device is placed behind its port of the device above it, and everything else is left alone. -/
theorem exists_assignDevice {above : Option DeviceId} {children : List DeviceId} {place : Option PhysicalAddress}
    (hnode : t.node? id = some ⟨device, above, children⟩)
    (hplace : (above.bind t.device?).map Device.physical = place) (emulated : DeviceId) (pool : AddressPool) :
    ∃ u, (assignDevice emulated (t, pool) id).value =
        (u, (logicalFor device (t.waits emulated id) pool).value.2) ∧
      u.root = t.root ∧
      u.node? id = some ⟨addressed (placeBehind place device) (logicalFor device (t.waits emulated id) pool).value.1
        device, above, children⟩ ∧
      ∀ x, x ≠ id → u.node? x = t.node? x := by
  refine ⟨_, assignDevice_of_some hnode, rfl, ?_, fun x hx => ?_⟩
  · rw [node?_update, hnode, placeOf_eq, hplace]
    simp
  · simp [node?_update, hx]

/-- The loop over the ids of a held forest gives addresses to that forest and leaves all other slots alone. The
induction needs the place of the device above to be given already. -/
theorem Holds.foldl_assignDevice (emulated : DeviceId) (pool : AddressPool) (place : Option PhysicalAddress)
    {above : Option DeviceId} {f : Layout} (h : t.Holds above f) (hnodup : f.ids.Nodup) (hout : ∀ a, above = some a → a ∉ f.ids)
    (hplace : (above.bind t.device?).map Device.physical = place) :
    ∃ u, f.ids.foldl (fun state id => (assignDevice emulated state id).value) (t, pool) =
        (u, (assignLayout (t.waits emulated) place f pool).2) ∧
      u.root = t.root ∧ u.Holds above (assignLayout (t.waits emulated) place f pool).1 ∧
      ∀ x, x ∉ f.ids → u.node? x = t.node? x := by
  induction f generalizing t pool above place with
  | nil => exact ⟨t, rfl, rfl, trivial, fun _ _ => rfl⟩
  | cons entry below beside below_ih beside_ih =>
    obtain ⟨hnode, hbelow, hbeside⟩ := h
    simp only [Forest.ids_cons, List.nodup_cons, List.mem_append, not_or] at hnodup
    obtain ⟨⟨hnb, hns⟩, hrest⟩ := hnodup
    obtain ⟨hb, hs, hdisj⟩ := List.nodup_append.1 hrest
    simp only [Forest.ids_cons, List.mem_cons, List.mem_append, not_or] at hout ⊢
    -- the device itself
    obtain ⟨first, hstep, hroot, hentry, hkeep⟩ := exists_assignDevice hnode hplace emulated pool
    generalize hgiven : (logicalFor entry.2 (t.waits emulated entry.1) pool).value = given at hstep hentry
    -- what is below it
    obtain ⟨second, hsecond, hroot₂, hheld₂, hkeep₂⟩ := below_ih given.2
      (some (placeBehind place entry.2)) (t := first) (hbelow.congr fun x hx => hkeep x fun he => hnb (he ▸ hx)) hb
      (fun a ha => by cases ha; exact hnb) (by rw [Option.bind_some, device?, hentry]; rfl)
    -- what is beside it
    have hout₂ : ∀ x, x ≠ entry.1 → x ∉ below.ids → second.node? x = t.node? x := fun x hx hxb => by
      rw [hkeep₂ x hxb, hkeep x hx]
    obtain ⟨third, hthird, hroot₃, hheld₃, hkeep₃⟩ := beside_ih
      (assignLayout (first.waits emulated) (some (placeBehind place entry.2)) below given.2).2 place (t := second)
      (hbeside.congr fun x hx => hout₂ x (fun he => hns (he ▸ hx)) fun hxb => hdisj x hxb x hx rfl) hs
      (fun a ha => (hout a ha).2.2) (by
        rw [← hplace]
        cases above with
        | none => rfl
        | some a => simp only [Option.bind_some, device?, hout₂ a (hout a rfl).1 (hout a rfl).2.1])
    refine ⟨third, ?_, ?_, ⟨?_, ?_, ?_⟩, fun x hx => ?_⟩
    · rw [List.foldl_cons, List.foldl_append, hstep, hsecond, hthird, waits_congr hroot₂, waits_congr hroot]
      simp only [assignLayout, hgiven]
    · rw [hroot₃, hroot₂, hroot]
    · rw [hkeep₃ _ hns, hkeep₂ _ hnb, hentry]
      simp [hgiven]
    · simp only [hgiven]
      rw [← waits_congr hroot]
      exact hheld₂.congr fun x hx => hkeep₃ x fun hxs => hdisj x (by simpa using hx) x hxs rfl
    · simp only [hgiven]
      rw [waits_congr hroot₂, waits_congr hroot] at hheld₃
      exact hheld₃
    · rw [hkeep₃ x hx.2.2, hout₂ x hx.1 hx.2.1]

/-! ### What holds of the tree afterwards -/

theorem Shows.assignAddresses_holds (h : t.Shows top) (emulated : DeviceId) (pool : AddressPool) :
    (t.assignAddresses emulated pool).value.1.Holds none (assignLayout (t.waits emulated) none top.forest pool).1 ∧
      (t.assignAddresses emulated pool).value.2 = (assignLayout (t.waits emulated) none top.forest pool).2 := by
  obtain ⟨u, hu, -, hheld, -⟩ := h.holds.foldl_assignDevice emulated pool none
    (by rw [Branch.ids_forest]; exact h.nodup) nofun rfl
  rw [Branch.ids_forest] at hu
  rw [assignAddresses, Logged.value_foldlM, h.members_root, hu]
  exact ⟨hheld, rfl⟩

/-- Every device stands behind its port of the device above it. -/
def Placed : Option PhysicalAddress → Layout → Prop
  | _, .nil => True
  | above, .cons (_, device) below beside =>
    device.physical = placeBehind above device ∧ Placed (some device.physical) below ∧ Placed above beside

theorem placed_assignLayout (waits : DeviceId → Bool) (above : Option PhysicalAddress) (f : Layout)
    (pool : AddressPool) : Placed above (assignLayout waits above f pool).1 := by
  induction f generalizing above pool with
  | nil => trivial
  | cons entry below beside below_ih beside_ih => exact ⟨rfl, below_ih _ _, beside_ih _ _⟩

/-- In a held forest the device above is the one that the slots name. -/
theorem Holds.physical_eq_placeOf {above : Option DeviceId} {f : Layout} (h : t.Holds above f)
    (hplaced : Placed ((above.bind t.device?).map Device.physical) f) {node : DeviceNode} (hx : x ∈ f.ids)
    (hn : t.node? x = some node) : node.device.physical = t.placeOf node := by
  induction f generalizing above with
  | nil => cases hx
  | cons entry below beside below_ih beside_ih =>
    obtain ⟨hnode, hbelow, hbeside⟩ := h
    obtain ⟨hentry, hplacedb, hplaceds⟩ := hplaced
    simp only [Forest.ids_cons, List.mem_cons, List.mem_append] at hx
    rcases hx with rfl | hx | hx
    · rw [hnode] at hn
      cases hn
      rw [placeOf_eq, hentry]
    · refine below_ih hbelow ?_ hx
      rwa [Option.bind_some, device?, hnode]
    · exact beside_ih hbeside hplaceds hx

/-- When the addresses are given every device stands behind its port of the device above it, and the root at the
root. -/
theorem Shows.physical_assignAddresses (h : t.Shows top) {node : DeviceNode}
    (hn : (t.assignAddresses emulated pool).value.1.node? x = some node) :
    node.device.physical = (t.assignAddresses emulated pool).value.1.placeOf node := by
  have hheld := (h.assignAddresses_holds emulated pool).1
  refine hheld.physical_eq_placeOf (placed_assignLayout _ _ _ _) ?_ hn
  rw [ids_assignLayout, Branch.ids_forest]
  refine h.complete x ?_
  rw [← isLive_assignAddresses emulated pool]
  exact isLive_of_node? hn

/-! ### Places that follow the ports -/

theorem placeBehind_congr {d e : Device} (h : e.port = d.port) (above : Option PhysicalAddress) :
    placeBehind above e = placeBehind above d := by
  simp only [placeBehind, h]

/-- A choice of places in which each is behind a port of the place above it. -/
def FollowsPorts (t : DeviceTree) (place : DeviceId → PhysicalAddress) : Prop :=
  ∀ x node, t.node? x = some node → place x = placeBehind (node.parent.map place) node.device

/-- The devices hold such places when addresses have been given. -/
theorem WellFormed.exists_followsPorts (h : t.WellFormed) (emulated : DeviceId) (pool : AddressPool) :
    ∃ place, (t.assignAddresses emulated pool).value.1.FollowsPorts place ∧
      ∀ x device, (t.assignAddresses emulated pool).value.1.device? x = some device → device.physical = place x := by
  have hassigned := h.assignAddresses emulated pool
  obtain ⟨top, hshows, -⟩ := h
  have hlaw : ∀ x node, (t.assignAddresses emulated pool).value.1.node? x = some node → _ :=
    fun x node => hshows.physical_assignAddresses
  generalize (t.assignAddresses emulated pool).value.1 = u at hassigned hlaw
  obtain ⟨top', hshows', -⟩ := hassigned
  refine ⟨fun x => ((u.device? x).map Device.physical).getD .root, fun x node hn => ?_, fun x device hd => ?_⟩
  · have hd : u.device? x = some node.device := device?_of_node? hn
    dsimp only
    rw [hd, Option.map_some, Option.getD_some, hlaw x node hn, placeOf_eq]
    cases hp : node.parent with
    | none => rfl
    | some parent =>
      have hchild := hshows'.mem_children_of_parent (by rw [parent?, hn]; exact hp)
      obtain ⟨above, habove⟩ := Option.isSome_iff_exists.1 (isLive_of_mem_children hchild)
      simp [device?, habove]
  · dsimp only
    rw [hd]
    rfl

theorem FollowsPorts.update {place : DeviceId → PhysicalAddress} (h : t.FollowsPorts place) {g : Device → Device}
    (hport : ∀ device, (g device).port = device.port) : (t.update id g).FollowsPorts place := by
  intro x node hn
  rw [node?_update, Option.map_eq_some_iff] at hn
  obtain ⟨old, hold, rfl⟩ := hn
  rw [h x old hold]
  by_cases hx : x = id
  · simp [hx, placeBehind_congr (hport old.device)]
  · simp [hx]

theorem FollowsPorts.removeSubtree {place : DeviceId → PhysicalAddress} (h : t.FollowsPorts place) (hw : t.WellFormed)
    {removed : List Device} (hr : outcome (t.removeSubtree id) = .ok (removed, u)) : u.FollowsPorts place := by
  intro x node hn
  rw [(hw.removeSubtree_spec hr).2.2 x, Option.ite_none_left_eq_some, Option.map_eq_some_iff] at hn
  obtain ⟨-, old, hold, rfl⟩ := hn
  exact h x old hold

/-- Where a tree has all devices of another one, below the same devices and with the same ports, these have the same
places in both. -/
theorem Shows.place_eq (h : t.Shows top) {p q : DeviceId → PhysicalAddress} (hp : t.FollowsPorts p)
    (hq : u.FollowsPorts q) (hsame : ∀ x node, t.node? x = some node →
      ∃ other, u.node? x = some other ∧ other.parent = node.parent ∧ other.device.port = node.device.port)
    (hx : t.isLive x) : q x = p x := by
  have hstep : ∀ x node, t.node? x = some node → (∀ y, node.parent = some y → q y = p y) → q x = p x := by
    intro x node hn habove
    obtain ⟨other, hother, hparent, hport⟩ := hsame x node hn
    rw [hp x node hn, hq x other hother, hparent, placeBehind_congr hport]
    cases hy : node.parent with
    | none => rfl
    | some y => simp [habove y hy]
  have hall := h.holds.forall_mem (P := fun x => q x = p x)
    (fun x y hx hy => by
      have hparent := h.children_of_parent hy
      obtain ⟨node, hn, hnp⟩ := Option.bind_eq_some_iff.1 hparent
      refine hstep y node hn fun z hz => ?_
      rw [hnp] at hz
      cases hz
      exact hx)
    (fun x hx => by
      have hparent := h.holds.parent_of_headIds hx
      obtain ⟨node, hn⟩ := Option.isSome_iff_exists.1 (h.holds.isLive_of_mem (top.forest.headIds_subset hx))
      refine hstep x node hn fun y hy => ?_
      rw [parent?, hn, Option.bind_some, hy] at hparent
      cases hparent)
  exact hall x (by rw [Branch.ids_forest]; exact h.complete x hx)

/-! ### Nothing but addresses changes -/

/-- A tree whose devices have been readdressed in their places. -/
structure Readdressed (t u : DeviceTree) : Prop where
  root : u.root = t.root
  live (x : DeviceId) (node : DeviceNode) : t.node? x = some node →
    ∃ device, node.device.Readdressed device ∧ u.node? x = some { node with device }
  stale (x : DeviceId) : t.node? x = none → u.node? x = none

namespace Readdressed

theorem refl (t : DeviceTree) : t.Readdressed t := ⟨rfl, fun _ node h => ⟨node.device, .refl _, h⟩, fun _ h => h⟩

theorem trans (htu : t.Readdressed u) (huv : u.Readdressed v) : t.Readdressed v where
  root := huv.root.trans htu.root
  live x node h := by
    obtain ⟨device, hdevice, hu⟩ := htu.live x node h
    obtain ⟨device', hdevice', hv⟩ := huv.live x _ hu
    exact ⟨device', hdevice.trans hdevice', hv⟩
  stale x h := huv.stale x (htu.stale x h)

theorem update {g : Device → Device} (hg : ∀ device, t.device? id = some device → device.Readdressed (g device)) :
    t.Readdressed (t.update id g) where
  root := rfl
  live x node h := by
    rw [node?_update, h]
    by_cases hx : x = id
    · subst hx
      exact ⟨g node.device, hg _ (device?_of_node? h), by simp⟩
    · exact ⟨node.device, .refl _, by simp [hx]⟩
  stale x h := by rw [node?_update, h]; rfl

theorem isLive_eq (h : t.Readdressed u) (x : DeviceId) : u.isLive x = t.isLive x := by
  cases hn : t.node? x with
  | none => rw [isLive, isLive, h.stale x hn, hn]
  | some node =>
    obtain ⟨device, -, hu⟩ := h.live x node hn
    rw [isLive, isLive, hu, hn]
    rfl

theorem children_eq (h : t.Readdressed u) (x : DeviceId) : u.children x = t.children x := by
  cases hn : t.node? x with
  | none => rw [children, children, h.stale x hn, hn]
  | some node =>
    obtain ⟨device, -, hu⟩ := h.live x node hn
    rw [children, children, hu, hn]
    rfl

theorem device? (h : t.Readdressed u) (hd : t.device? x = some device) :
    ∃ e, device.Readdressed e ∧ u.device? x = some e := by
  obtain ⟨node, hn, rfl⟩ := Option.map_eq_some_iff.1 hd
  obtain ⟨e, he, hu⟩ := h.live x node hn
  exact ⟨e, he, device?_of_node? hu⟩

theorem exists_of_device? (h : t.Readdressed u) (hd : u.device? x = some device) :
    ∃ old, t.device? x = some old ∧ old.Readdressed device := by
  have hlive : t.isLive x := by
    rw [← h.isLive_eq]
    exact isLive_of_device? hd
  obtain ⟨old, hold⟩ := exists_device?_of_isLive hlive
  obtain ⟨e, he, hnow⟩ := h.device? hold
  rw [hd, Option.some.injEq] at hnow
  subst hnow
  exact ⟨old, hold, he⟩

end Readdressed

theorem readdressed_addressed (waits : Bool) (place : PhysicalAddress) :
    device.Readdressed (addressed place (logicalFor device waits pool).value.1 device) where
  rest := rfl
  logical a h := by
    rw [logicalFor_of_some h]
    rfl

theorem readdressed_given {node : DeviceNode} (hn : t.node? id = some node) (waits : Bool) (place : PhysicalAddress)
    (pool : AddressPool) : t.Readdressed (t.update id (addressed place (logicalFor node.device waits pool).value.1)) := by
  refine .update fun device hd => ?_
  rw [device?_of_node? hn, Option.some.injEq] at hd
  subst hd
  exact readdressed_addressed _ _

theorem readdressed_assignAddresses (t : DeviceTree) (emulated : DeviceId) (pool : AddressPool) :
    t.Readdressed (t.assignAddresses emulated pool).value.1 :=
  assignAddresses_preserves (P := fun u _ => t.Readdressed u)
    (fun _ _ _ _ hu hn => hu.trans (readdressed_given hn _ _ _)) (.refl t)

end DeviceTree

end CecBus
