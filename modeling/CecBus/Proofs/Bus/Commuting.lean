import CecBus.Proofs.Bus.Drawing
import CecBus.Proofs.Bus.Undoing

/-! Messages that add devices commute. Read without ids, such a message plants the forest that it describes behind the
children of the device that it names, with places that follow the ports there and with addresses drawn from the pool
(`Plants`); everything else stays. Two messages that can be handled in either order name devices that were there before,
and when they describe no kind in common they draw different addresses. Main result: `Reachable.additions_commute`. -/

namespace CecBus

namespace DeviceTree

variable {t u : DeviceTree} {emulated : DeviceId} {pool : AddressPool}

/-- Giving addresses to a tree whose root has one gives them to its forest. -/
theorem WellFormed.assignForest_forest (h : t.WellFormed) (hroot : t.HasAddress t.root) (emulated : DeviceId)
    (pool : AddressPool) : assignForest none t.forest pool =
      ((t.assignAddresses emulated pool).value.1.forest, (t.assignAddresses emulated pool).value.2) := by
  have hassigned := h.assignAddresses emulated pool
  have hsame := (readdressed_assignAddresses t emulated pool).root
  obtain ⟨top, hshows, -⟩ := h
  obtain ⟨hheld, hpool⟩ := hshows.assignAddresses_holds emulated pool
  rw [hpool]
  generalize (t.assignAddresses emulated pool).value.1 = u at hassigned hsame hheld
  obtain ⟨utop, hushows, -⟩ := hassigned
  have hheads : (assignLayout (t.waits emulated) none top.forest pool).1.headIds = utop.forest.headIds := by
    rw [headIds_assignLayout]
    change [top.value.1] = [utop.value.1]
    rw [← hshows.root, ← hushows.root, hsame]
  rw [hushows.forest_eq, hshows.forest_eq, ← hushows.holds.eq hheld hheads]
  refine map_assignLayout (fun e he hwaits => ?_) none pool
  rw [Branch.toList_forest] at he
  have hid : e.1 = t.root := by
    simp only [waits, Bool.and_eq_true, decide_eq_true_eq] at hwaits
    exact hwaits.1
  exact hroot e.2 (hid ▸ hshows.device?_eq_some_iff.2 he)

end DeviceTree

namespace Bus

open DeviceTree

variable {b c d : Bus} {p q : Profile} {payload : ByteArray} {place : PhysicalAddress}

/-! ### What an addition plants -/

/-- A message has devices planted below the one that it names. -/
structure Plants (b : Bus) (p : Profile) (staged : Forest Device) (place : PhysicalAddress) (frame : Option Frame) (c : Bus) :
    Prop where
  placed : b.tree.forest.placeNamed? (p.field "parameters/parent") none = some place
  fresh (name : String) : name ∈ staged.names → name ∉ b.tree.forest.names
  forest : c.tree.forest = b.tree.forest.plant (Device.isNamed (p.field "parameters/parent"))
    (assignForest (some place) staged b.pool).1
  pool : c.pool = (assignForest (some place) staged b.pool).2
  /-- The device on top announces itself. -/
  frame : ∃ device below, (assignForest (some place) staged b.pool).1 = .cons device below .nil ∧
    frame = some device.announcement
  emulated : c.emulated = b.emulated
  ports : c.ports = b.ports

/-- The device with a name, moved to the root if it is a television. -/
def atRootIfNamed (name : String) (device : Device) : Device := if device.name = name then atRootIfTv device else device

theorem name_atRootIfNamed (name : String) (device : Device) : (atRootIfNamed name device).name = device.name := by
  unfold atRootIfNamed
  split
  · exact (readdressed_atRootIfTv device).name_eq
  · rfl

theorem map_atRootIfNamed_plant (name n : String) (f g : Forest Device) : (f.plant (Device.isNamed n) g).map (atRootIfNamed name) =
    (f.map (atRootIfNamed name)).plant (Device.isNamed n) (g.map (atRootIfNamed name)) :=
  Forest.map_plant fun device _ => (Forest.isNamed_congr (name_atRootIfNamed name device)).symm

theorem Sound.nodup_names (h : b.Sound) : b.tree.forest.names.Nodup := by
  have hw := h.wellFormed
  obtain ⟨top, hshows⟩ := hw.isTree
  have hnames := hw.nodup_names hshows
  rw [Forest.names, hshows.forest_eq, Forest.toList_map, Branch.toList_forest, List.map_map]
  exact hnames

theorem Sound.addressed (h : b.Sound) : ∀ device ∈ b.tree.forest.toList, device.logical.isSome = true := by
  intro device hmem
  obtain ⟨id, hd⟩ := h.wellFormed.mem_forest_iff.1 hmem
  exact h.hasAddress id device hd

section Gains

variable {parent : DeviceId} {stop : Branch (DeviceId × Device)} {g : Layout} {tree : DeviceTree}

/-- What the tree has gained is the forest that was read. -/
theorem Gains.map_snd (h : b.Gains p parent stop g tree) :
    (Forest.cons (b.tree.nextId, stop.value.2) g .nil).map Prod.snd = stop.forest.map Prod.snd := by
  rw [Forest.map, h.copy]
  rfl

theorem Gains.fresh (h : b.Gains p parent stop g tree) (hw : b.tree.WellFormed) (name : String)
    (hname : name ∈ (stop.forest.map Prod.snd).names) : name ∉ b.tree.forest.names := by
  intro hold
  rw [Forest.names, ← h.map_snd, Forest.toList_map, List.map_map, List.mem_map] at hname
  obtain ⟨⟨x, new⟩, he, rfl⟩ := hname
  obtain ⟨old, hmem, hsame⟩ := List.mem_map.1 hold
  obtain ⟨y, hy⟩ := hw.mem_forest_iff.1 hmem
  have heq : y = x := h.wellFormed.eq_of_name (h.gained.device? hy) (h.gained.held.device?_of_mem he) hsame
  refine h.gained.fresh x (List.mem_map_of_mem he) ?_
  rw [← heq]
  exact isLive_of_device? hy

theorem Gains.hasAddress_root (h : b.Gains p parent stop g tree) (hb : b.Sound) : tree.HasAddress tree.root := by
  obtain ⟨device, hd⟩ := exists_device?_of_isLive (coherent_of_wellFormed hb.wellFormed).root_live
  intro d hroot
  rw [h.gained.root, h.gained.device? hd, Option.some.injEq] at hroot
  exact hroot ▸ hb.hasAddress _ device hd

/-- When addresses are given to what has come, what is planted has them. The devices that were there are put in their
places once more. -/
theorem Gains.exists_forest_eq (h : b.Gains p parent stop g tree) (hb : b.Sound)
    (hplace : b.tree.forest.placeNamed? (p.field "parameters/parent") none = some place) :
    ∃ f : Forest Device, f.map Device.name = b.tree.forest.map Device.name ∧
      ({ b with tree }.assignAddresses).value.tree.forest = f.plant (Device.isNamed (p.field "parameters/parent"))
        (assignForest (some place) (stop.forest.map Prod.snd) b.pool).1 ∧
      ({ b with tree }.assignAddresses).value.pool = (assignForest (some place) (stop.forest.map Prod.snd) b.pool).2 := by
  obtain ⟨above, habove, hname⟩ := hb.wellFormed.device?_of_find? h.found
  have hplanted := hb.wellFormed.forest_gained h.wellFormed h.gained habove
  have hassigned := h.wellFormed.assignForest_forest (h.hasAddress_root hb) b.emulated b.pool
  rw [hplanted, hname, h.map_snd, assignForest_plant hb.addressed hb.nodup_names hplace, Prod.mk.injEq] at hassigned
  -- The emulated device was there, so that its name is not among the new ones.
  obtain ⟨e, he, -⟩ := hb.emulated
  obtain ⟨e', he', hd⟩ := (DeviceTree.readdressed_assignAddresses tree b.emulated b.pool).device? (h.gained.device? he)
  have hnew : ∀ device ∈ (assignForest (some place) (stop.forest.map Prod.snd) b.pool).1.toList,
      atRootIfNamed e'.name device = device := by
    intro device hmem
    refine if_neg fun hsame => h.fresh hb.wellFormed device.name ?_ ?_
    · rw [← names_assignForest (some place) _ b.pool]
      exact List.mem_map_of_mem hmem
    · rw [hsame, he'.name_eq]
      exact List.mem_map_of_mem (hb.wellFormed.mem_forest_iff.2 ⟨b.emulated, he⟩)
  have hsink := (h.wellFormed.assignAddresses b.emulated b.pool).forest_update hd atRootIfTv
  refine ⟨(b.tree.forest.located none).map (atRootIfNamed e'.name), ?_, ?_, hassigned.2.symm⟩
  · rw [Forest.map_map, ← Forest.map_name_located none b.tree.forest]
    exact Forest.map_congr fun d _ => name_atRootIfNamed e'.name d
  · have hmap := map_atRootIfNamed_plant e'.name (p.field "parameters/parent") (b.tree.forest.located none)
      (assignForest (some place) (stop.forest.map Prod.snd) b.pool).1
    rw [Forest.map_eq_self hnew] at hmap
    rw [assignAddresses_value, ← hmap, hassigned.1]
    exact hsink

end Gains

/-- A message that adds devices without an error plants what it says, and announces the device on top. -/
theorem Reachable.exists_plants (h : b.Reachable) (hp : Profile.ofBytes payload = .ok p)
    (hstate : p.field "state" = "AddDevice") (hadd : (b.handle .state payload).failed = false) :
    ∃ staged place, outcome (DeviceTree.ofSection (addedSection p)) = .ok staged ∧
      b.Plants p staged.forest place (b.handle .state payload).value.1 (b.handle .state payload).value.2 := by
  have hb := h.sound
  have hw := hb.wellFormed
  obtain ⟨parent, stop, g, tree, hg, hvalue⟩ := hb.exists_gains hp hstate hadd
  obtain ⟨staged, hread, hstaged⟩ := hg.read
  obtain ⟨above, habove, hname⟩ := hw.device?_of_find? hg.found
  have hmem : above ∈ b.tree.forest.toList := hw.mem_forest_iff.2 ⟨parent, habove⟩
  obtain ⟨place, hplace⟩ : ∃ place, b.tree.forest.placeNamed? (p.field "parameters/parent") none = some place := by
    refine Option.ne_none_iff_exists'.1 (mt Forest.placeNamed?_eq_none.1 (not_not.2 ?_))
    rw [← hname]
    exact List.mem_map_of_mem hmem
  obtain ⟨f, hsame, hforest, hpool⟩ := hg.exists_forest_eq hb hplace
  -- The old devices are as they were, so that the new ones are planted in their forest.
  obtain ⟨device, g', -, hgained⟩ := h.gained_of_gains hg
  have hafter := hw.forest_gained (hb.gains hg).wellFormed hgained habove
  rw [hname] at hafter
  have hnew : (Forest.cons (b.tree.nextId, device) g' .nil).map Prod.snd =
      (assignForest (some place) (stop.forest.map Prod.snd) b.pool).1 :=
    Forest.plant_inj (fun _ _ => Forest.isNamed_congr) hsame.symm (hafter.symm.trans hforest)
      ⟨above, hmem, decide_eq_true hname⟩
  have hd := DeviceTree.Holds.device?_top (b := ⟨(b.tree.nextId, device), g'⟩) hgained.held
  refine ⟨staged, place, hread, ?_⟩
  rw [hvalue, hstaged.forest_eq]
  exact
    { placed := hplace
      fresh := hg.fresh hw
      forest := by rw [hafter, hnew]
      pool := hpool
      frame := ⟨device, g'.map Prod.snd, hnew.symm, by rw [announce, hd]; rfl⟩
      emulated := rfl
      ports := rfl }

/-! ### Two additions -/

/-- Two messages describe no kind in common that has addresses of its own. -/
def KindsApart (p q : Profile) : Prop :=
  ∀ staged other, outcome (DeviceTree.ofSection (addedSection p)) = .ok staged →
    outcome (DeviceTree.ofSection (addedSection q)) = .ok other → ∀ x y device another, staged.device? x = some device →
      other.device? y = some another → device.kind = another.kind → device.kind.shares = []

theorem KindsApart.independent (h : KindsApart p q) {staged other : DeviceTree}
    (hp : outcome (DeviceTree.ofSection (addedSection p)) = .ok staged)
    (hq : outcome (DeviceTree.ofSection (addedSection q)) = .ok other) : Independent staged.forest other.forest := by
  intro device hd another ha
  obtain ⟨x, hx⟩ := (WellFormed.ofSection hp).mem_forest_iff.1 hd
  obtain ⟨y, hy⟩ := (WellFormed.ofSection hq).mem_forest_iff.1 ha
  exact h staged other hp hq x y device another hx hy

/-- Two buses to which the same two additions have led from a third one, in the one order and in the other. -/
structure Commuted (b : Bus) (p q : Profile) (c d : Bus) : Prop where
  /-- The same devices with the same addresses, below devices of the same names. -/
  devices (device : Device) (above : Option String) : d.tree.Has device above ↔ c.tree.Has device above
  /-- Below two parents they are in the same order as well. -/
  apart : p.field "parameters/parent" ≠ q.field "parameters/parent" → d.tree.forest = c.tree.forest
  /-- Below one parent the two trees that have come are its last children, in the order in which they came. -/
  together : p.field "parameters/parent" = q.field "parameters/parent" → ∃ first second : Branch Device,
    c.tree.forest = b.tree.forest.plant (Device.isNamed (p.field "parameters/parent")) (first.forest.append second.forest) ∧
    d.tree.forest = b.tree.forest.plant (Device.isNamed (p.field "parameters/parent")) (second.forest.append first.forest)
  pool : d.pool = c.pool
  emulated : d.emulated = c.emulated
  ports : d.ports = c.ports

section Order

variable {b' : Bus} {staged other : Forest Device} {place' after : PhysicalAddress}
  {frame frame' frame'' : Option Frame}

theorem Plants.parent_not_mem (h : b.Plants p staged place frame c) (hother : b.Plants q other place' frame' b') :
    p.field "parameters/parent" ∉ (assignForest (some place') other b.pool).1.names := by
  rw [names_assignForest]
  exact fun hmem => hother.fresh _ hmem (Forest.mem_names_of_placeNamed? h.placed)

/-- What another message has planted before, with addresses of other kinds, makes no difference to what is planted. -/
theorem Plants.same (h : b.Plants p staged place frame c) (hother : b.Plants q other place' frame' b')
    (hafter : b'.Plants p staged after frame'' d) (hkinds : Independent staged other) :
    after = place ∧ (assignForest (some after) staged b'.pool).1 = (assignForest (some place) staged b.pool).1 ∧
      frame'' = frame := by
  have hplace : after = place := by
    have hplaced := hafter.placed
    rw [hother.forest, Forest.placeNamed?_plant (h.parent_not_mem hother), h.placed, Option.some.injEq] at hplaced
    exact hplaced.symm
  have hplanted : (assignForest (some after) staged b'.pool).1 = (assignForest (some place) staged b.pool).1 := by
    rw [hplace, hother.pool]
    exact (hkinds.assignForest_eq _ _ _).1
  obtain ⟨device, below, htop, hframe⟩ := h.frame
  obtain ⟨device', below', htop', hframe'⟩ := hafter.frame
  rw [hplanted, htop, Forest.cons.injEq] at htop'
  exact ⟨hplace, hplanted, by rw [hframe, hframe', htop'.1]⟩

/-- The same devices are there, in whatever order two forests were planted. -/
theorem Plants.has_iff (h : b.Plants p staged place frame b') (hother : b'.Plants q other place' frame' c)
    (hb : b.tree.WellFormed) (hc : c.tree.WellFormed) (device : Device) (above : Option String) :
    c.tree.Has device above ↔ (b.tree.Has device above ∨
      (device, above) ∈ (assignForest (some place) staged b.pool).1.kin (some (p.field "parameters/parent"))) ∨
      (device, above) ∈ (assignForest (some place') other b'.pool).1.kin (some (q.field "parameters/parent")) := by
  obtain ⟨top, hshows, -⟩ := hb
  obtain ⟨top', hshows', -⟩ := hc
  rw [hshows.has_iff, hshows'.has_iff, hother.forest,
    Forest.mem_kin_plant_isNamed (Forest.mem_names_of_placeNamed? hother.placed), h.forest,
    Forest.mem_kin_plant_isNamed (Forest.mem_names_of_placeNamed? h.placed)]

theorem Plants.commuted {b₁ b₂ : Bus} {place₁ place₂ : PhysicalAddress} {frame₁ frame₂ : Option Frame}
    (hb : b.tree.WellFormed) (hc : c.tree.WellFormed) (hd : d.tree.WellFormed) (hkinds : Independent staged other)
    (hp : b.Plants p staged place frame b₁) (hpq : b₁.Plants q other place₁ frame₁ c)
    (hq : b.Plants q other place' frame' b₂) (hqp : b₂.Plants p staged place₂ frame₂ d) :
    frame₂ = frame ∧ frame₁ = frame' ∧ b.Commuted p q c d := by
  obtain ⟨rfl, hfirst, rfl⟩ := hp.same hq hqp hkinds
  obtain ⟨rfl, hsecond, rfl⟩ := hq.same hp hpq hkinds.symm
  have hcforest := hpq.forest
  have hdforest := hqp.forest
  rw [hsecond, hp.forest] at hcforest
  rw [hfirst, hq.forest] at hdforest
  have hout := Forest.isNamed_eq_false (hp.parent_not_mem hq)
  have hout' := Forest.isNamed_eq_false (hq.parent_not_mem hp)
  refine ⟨rfl, rfl,
    { devices := fun device above => ?_
      apart := fun hne => ?_
      together := fun heq => ?_
      pool := ?_
      emulated := by rw [hqp.emulated, hq.emulated, hpq.emulated, hp.emulated]
      ports := by rw [hqp.ports, hq.ports, hpq.ports, hp.ports] }⟩
  · rw [hp.has_iff hpq hb hc, hq.has_iff hqp hb hd, hfirst, hsecond, or_right_comm]
  · rw [hcforest, hdforest]
    refine (Forest.plant_comm (fun device _ hhere => ?_) hout' hout).symm
    rw [Device.isNamed, decide_eq_true_iff] at hhere
    rw [Device.isNamed, hhere]
    exact decide_eq_false hne
  · obtain ⟨device, below, htop, -⟩ := hp.frame
    obtain ⟨another, beneath, htop', -⟩ := hq.frame
    refine ⟨⟨device, below⟩, ⟨another, beneath⟩, ?_, ?_⟩
    · rw [hcforest, ← heq, Forest.plant_plant (heq ▸ hout'), htop, htop']
      rfl
    · rw [hdforest, ← heq, Forest.plant_plant hout, htop, htop']
      rfl
  · rw [hqp.pool, hq.pool, hpq.pool, hp.pool]
    exact hkinds.pool_eq _ _ _

end Order

/-- Two messages that add devices, that are handled without an error in either order and that describe no kind in common,
commute: each is announced with the same frame in either order, and they lead to the same devices with the same
addresses. A message that names a device of the other one as the parent fails when it comes first. -/
theorem Reachable.additions_commute (h : b.Reachable) {first second : ByteArray}
    (hp : Profile.ofBytes first = .ok p) (hpstate : p.field "state" = "AddDevice")
    (hq : Profile.ofBytes second = .ok q) (hqstate : q.field "state" = "AddDevice") (hkinds : KindsApart p q)
    (hfirst : (b.handle .state first).failed = false)
    (hsecondAfter : ((b.handle .state first).value.2.handle .state second).failed = false)
    (hsecond : (b.handle .state second).failed = false)
    (hfirstAfter : ((b.handle .state second).value.2.handle .state first).failed = false) :
    (∃ one another : Device,
      ((b.handle .state first).value.1 = some one.announcement ∧
        ((b.handle .state first).value.2.handle .state second).value.1 = some another.announcement) ∧
      ((b.handle .state second).value.1 = some another.announcement ∧
        ((b.handle .state second).value.2.handle .state first).value.1 = some one.announcement)) ∧
      b.Commuted p q ((b.handle .state first).value.2.handle .state second).value.2
        ((b.handle .state second).value.2.handle .state first).value.2 := by
  obtain ⟨staged, place, hread, hplants⟩ := h.exists_plants hp hpstate hfirst
  obtain ⟨other, place', hread', hplants'⟩ := h.exists_plants hq hqstate hsecond
  have hafter := h.handle .state first
  have hafter' := h.handle .state second
  obtain ⟨other', place₁, hagain', hpq⟩ := hafter.exists_plants hq hqstate hsecondAfter
  obtain ⟨staged', place₂, hagain, hqp⟩ := hafter'.exists_plants hp hpstate hfirstAfter
  obtain rfl : other' = other := Except.ok.inj (hagain'.symm.trans hread')
  obtain rfl : staged' = staged := Except.ok.inj (hagain.symm.trans hread)
  obtain ⟨hframe, hframe', hcommuted⟩ := Plants.commuted h.sound.wellFormed
    (hafter.handle .state second).sound.wellFormed (hafter'.handle .state first).sound.wellFormed
    (hkinds.independent hread hread') hplants hpq hplants' hqp
  obtain ⟨one, -, -, hone⟩ := hplants.frame
  obtain ⟨another, -, -, hanother⟩ := hplants'.frame
  exact ⟨⟨one, another, ⟨hone, hframe'.trans hanother⟩, hanother, hframe.trans hone⟩, hcommuted⟩

def tunerComes : ByteArray :=
  ("\x7b\"state\":\"AddDevice\",\"parameters\":\x7b\"parent\":\"Player\",\"name\":\"Tuner\"," ++
    "\"type\":\"Tuner\"\x7d\x7d").toUTF8

def recorderComes : ByteArray :=
  ("\x7b\"state\":\"AddDevice\",\"parameters\":\x7b\"parent\":\"Player\",\"name\":\"Recorder\"," ++
    "\"type\":\"RecordingDevice\"\x7d\x7d").toUTF8

theorem televisionBus_additions_commute : ∃ p q, Profile.ofBytes tunerComes = .ok p ∧
    Profile.ofBytes recorderComes = .ok q ∧ KindsApart p q ∧
      televisionBus.Commuted p q ((televisionBus.handle .state tunerComes).value.2.handle .state recorderComes).value.2
        ((televisionBus.handle .state recorderComes).value.2.handle .state tunerComes).value.2 := by
  have hcomes : (Profile.ofBytes tunerComes).toOption.map (fun p => (p.field "state",
      (outcome (DeviceTree.ofSection (addedSection p))).toOption.map fun t => t.forest.toList.map Device.kind)) =
        some ("AddDevice", some [.tuner]) := by decide +kernel
  have hcomes' : (Profile.ofBytes recorderComes).toOption.map (fun p => (p.field "state",
      (outcome (DeviceTree.ofSection (addedSection p))).toOption.map fun t => t.forest.toList.map Device.kind)) =
        some ("AddDevice", some [.recorder]) := by decide +kernel
  have hhandled : (televisionBus.handle .state tunerComes).failed = false ∧
      ((televisionBus.handle .state tunerComes).value.2.handle .state recorderComes).failed = false ∧
      (televisionBus.handle .state recorderComes).failed = false ∧
      ((televisionBus.handle .state recorderComes).value.2.handle .state tunerComes).failed = false := by
    decide +kernel
  obtain ⟨p, hp, hfields⟩ := exists_ok_of_map_toOption hcomes
  obtain ⟨q, hq, hfields'⟩ := exists_ok_of_map_toOption hcomes'
  rw [Prod.mk.injEq] at hfields hfields'
  have hkinds : KindsApart p q := by
    intro staged other hstaged hother x y device another hd ha hkind
    have hmem : device.kind ∈ staged.forest.toList.map Device.kind :=
      List.mem_map_of_mem ((WellFormed.ofSection hstaged).mem_forest_iff.2 ⟨x, hd⟩)
    have hmem' : another.kind ∈ other.forest.toList.map Device.kind :=
      List.mem_map_of_mem ((WellFormed.ofSection hother).mem_forest_iff.2 ⟨y, ha⟩)
    have hread := hfields.2
    have hread' := hfields'.2
    rw [hstaged, Except.toOption, Option.map_some, Option.some.injEq] at hread
    rw [hother, Except.toOption, Option.map_some, Option.some.injEq] at hread'
    rw [hread, hkind] at hmem
    rw [hread', List.mem_singleton] at hmem'
    rw [hmem'] at hmem
    exact absurd hmem (by decide)
  exact ⟨p, q, hp, hq, hkinds, (Reachable.additions_commute reachable_televisionBus hp hfields.1 hq hfields'.1 hkinds
    hhandled.1 hhandled.2.1 hhandled.2.2.1 hhandled.2.2.2).2⟩

end Bus

end CecBus
