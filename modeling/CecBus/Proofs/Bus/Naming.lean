import CecBus.Proofs.Bus.Commands
import CecBus.Proofs.Bus.Undoing

/-! Names in documents. A device keeps the first fifteen characters of the name it is declared under, and it is found by
what it keeps: a profile can have it emulated, a command can have it send, and it can be removed by that name. Longer
names are names of no device (`ofProfile_of_long`, `Reachable.reachesNone`). Main results: `addressed_by_stored_name`,
and `exists_unaddressed`, devices that the names in their own documents do not address. -/

namespace CecBus

/-! ### Stored names -/

namespace Device

theorem length_storedName_le (name : String) : (storedName name).length ≤ maxNameLength := by
  rw [storedName, String.length_ofList]
  exact List.length_take_le _ _

theorem storedName_eq_self_iff (name : String) : storedName name = name ↔ name.length ≤ maxNameLength := by
  constructor
  · intro h
    rw [← h]
    exact length_storedName_le name
  · intro h
    rw [storedName, List.take_of_length_le (by rwa [String.length_toList]), String.ofList_toList]

end Device

namespace DeviceTree

variable {t u : DeviceTree} {id : DeviceId} {name : String}

def NamesFit (t : DeviceTree) : Prop :=
  ∀ id device, t.device? id = some device → device.name.length ≤ Device.maxNameLength

theorem IsRead.length_name_le {device : Device} (h : IsRead device) : device.name.length ≤ Device.maxNameLength := by
  obtain ⟨s, declared, h⟩ := h
  obtain ⟨name, -, hname⟩ := Device.name_of_ofSection (loadDevice_eq_ok.1 h).1
  rw [hname]
  exact Device.length_storedName_le name

namespace NamesFit

theorem ofSection {s : Section} (h : outcome (ofSection s) = .ok t) : t.NamesFit :=
  forall_device_ofSection (fun _ hread => hread.length_name_le) h

theorem update (h : t.NamesFit) {g : Device → Device} (hname : ∀ d, (g d).name = d.name) : (t.update id g).NamesFit := by
  intro x e hx
  obtain ⟨d, hd, rfl⟩ := device?_update_eq_some hx
  split
  · rw [hname]
    exact h x d hd
  · exact h x d hd

theorem assignAddresses (h : t.NamesFit) (emulated : DeviceId) (pool : AddressPool) :
    (t.assignAddresses emulated pool).value.1.NamesFit :=
  assignAddresses_preserves (P := fun u _ => u.NamesFit) (fun _ _ _ _ hu _ => hu.update fun _ => rfl) h

theorem find?_eq_none (h : t.NamesFit) (hw : t.WellFormed) (hlong : Device.maxNameLength < name.length) :
    t.find? name = none := by
  cases hf : t.find? name with
  | none => rfl
  | some id =>
    obtain ⟨device, hd, rfl⟩ := hw.device?_of_find? hf
    exact absurd (h id device hd) (Nat.not_le.2 hlong)

end NamesFit

end DeviceTree

/-! ### Profiles -/

namespace Setup

variable {p : Profile} {setup : Setup}

/-- Everything that a profile has to say, whether or not the emulated device is among those of the device map. -/
structure IsDescribed (p : Profile) (setup : Setup) : Prop where
  emulated : p.text "hdmicec/emulated_device" = .ok setup.emulated
  declaredDevices : p.number "hdmicec/number_devices" = .ok setup.declaredDevices
  hasDevices : 1 ≤ setup.declaredDevices
  ports : ∃ declared count, ProfileError.optional (p.number "hdmicec/number_ports") = .ok declared ∧
    outcome (portCount (p.count "hdmicec/ports") declared) = .ok count ∧
    (List.range count).mapM (fun index => Port.ofSection (portSection p index)) = .ok setup.ports
  tree : outcome (DeviceTree.ofSection ⟨p, mapPath⟩) = .ok setup.tree

theorem outcome_reading {α : Type} (result : Except ProfileError α) :
    outcome (reading result) = result.mapError SetupError.profile := by
  cases result <;> rfl

/-- Such a profile is accepted if the emulated device is there, and refused for nothing but that. -/
theorem IsDescribed.outcome_ofProfile (h : IsDescribed p setup) : outcome (ofProfile p) =
    if (setup.tree.find? setup.emulated).isNone then .error (.emulatedMissing setup.emulated) else .ok setup := by
  obtain ⟨declared, count, hdeclared, hcount, hports⟩ := h.ports
  have hdevices : ¬ setup.declaredDevices < 1 := Nat.not_lt.2 h.hasDevices
  simp only [ofProfile, outcome_bind, outcome_reading, h.emulated, h.declaredDevices, hdeclared, mapError_ok,
    Except.bind, hdevices, if_false, hcount, hports, outcome_adapt, h.tree]
  split
  · rfl
  · split <;> rfl

end Setup

namespace Bus

variable {b : Bus} {p : Profile} {setup : Setup} {id : DeviceId} {device : Device} {payload : ByteArray}
  {path : List Nat} {name : String}

/-- A profile is accepted, and the bus that is opened emulates the device that the profile declares at some positions. -/
structure EmulatesAt (p : Profile) (setup : Setup) (path : List Nat) : Prop where
  accepted : outcome (Setup.ofProfile p) = .ok setup
  opened : ∃ b id, (ofSetup setup).value = some b ∧ setup.tree.descend setup.tree.root path = some id ∧
    setup.tree.find? setup.emulated = some id ∧ b.emulated = id

/-- A device is emulated by the name that is stored of it. -/
theorem emulatesAt_of_stored (h : Setup.IsDescribed p setup) (hnode : DeviceTree.IsNode ⟨p, Setup.mapPath⟩ path)
    (hname : (DeviceTree.sectionAt ⟨p, Setup.mapPath⟩ path).text "name" = .ok name)
    (hstored : setup.emulated = Device.storedName name) : EmulatesAt p setup path := by
  have hw := DeviceTree.WellFormed.ofSection h.tree
  obtain ⟨top, hshows, hdescribes⟩ := DeviceTree.exists_shows_of_ofSection h.tree
  have hmirrors := hshows.mirrors hdescribes
  obtain ⟨id, hid⟩ := (hmirrors.isNode_iff path).1 hnode
  obtain ⟨device, declared, hread, hd, -⟩ := hmirrors.device path id hid
  obtain ⟨name', hname', hdevice⟩ := Device.name_of_ofSection hread
  rw [hname, Except.ok.injEq] at hname'
  subst hname'
  have hfound : setup.tree.find? setup.emulated = some id := by
    rw [hstored, ← hdevice]
    exact hw.find?_of_device? hd
  have haccepted : outcome (Setup.ofProfile p) = .ok setup := by
    rw [h.outcome_ofProfile, hfound]
    rfl
  obtain ⟨b, hb⟩ := Option.isSome_iff_exists.1 (isSome_ofSetup_of_ofProfile haccepted)
  refine ⟨haccepted, b, id, hb, hid, hfound, ?_⟩
  obtain ⟨emulated, other, hf, -, rfl⟩ := ofSetup_eq_some.1 hb
  rw [hfound, Option.some.injEq] at hf
  subst hf
  split <;> rfl

/-- A profile that has a device emulated by a longer name is refused. -/
theorem ofProfile_of_long (h : Setup.IsDescribed p setup) (hlong : Device.maxNameLength < setup.emulated.length) :
    outcome (Setup.ofProfile p) = .error (.emulatedMissing setup.emulated) := by
  have hnone := (DeviceTree.NamesFit.ofSection h.tree).find?_eq_none (.ofSection h.tree) hlong
  rw [h.outcome_ofProfile, hnone]
  rfl

/-! ### Messages -/

theorem namesFit_assignAddresses (h : b.tree.NamesFit) : b.assignAddresses.value.tree.NamesFit := by
  rw [assignAddresses_value]
  exact (h.assignAddresses _ _).update fun d => (readdressed_atRootIfTv d).name_eq

theorem Reachable.namesFit (h : b.Reachable) : b.tree.NamesFit := by
  have hset : ∀ {b : Bus} (address pool), b.tree.NamesFit → (b.setLogical address pool).tree.NamesFit :=
    fun _ _ hb => hb.update fun _ => rfl
  induction h with
  | @opened p setup b hp hb =>
    obtain ⟨emulated, device, -, -, rfl⟩ := ofSetup_eq_some.1 hb
    have hassigned : (assigned setup emulated).tree.NamesFit :=
      namesFit_assignAddresses (b := { tree := setup.tree, emulated, ports := setup.ports })
        (.ofSection (setup_of_ofProfile hp).1)
    split
    · exact hset .broadcast _ hassigned
    · exact hassigned
  | @handle b hb kind payload ih =>
    have hw := hb.sound.wellFormed
    refine handle_preserves (P := fun b => b.tree.NamesFit) hw ih (fun p parent stop g tree hg => ?_)
      (fun p b' hr => ?_) kind payload
    · refine namesFit_assignAddresses (b := { b with tree }) fun x d hd => ?_
      refine DeviceTree.forall_device_insertSection (fun _ hread => hread.length_name_le) hw ih parent (addedSection p) x
        d ?_
      rwa [hg.inserted]
    · obtain ⟨id, removed, tree, -, -, hremove, rfl⟩ := removeDevice_eq_ok.1 hr
      intro x d hd
      rw [hw.device?_removeSubtree hremove, Option.ite_none_left_eq_some] at hd
      exact ih x d hd.2
  | claim _ hc ih =>
    obtain ⟨_, -, -, -, ⟨-, rfl⟩ | ⟨-, -, rfl⟩⟩ := claim_eq_ok.1 hc
    · exact ih
    · exact hset _ _ ih
  | unclaim _ hc ih =>
    obtain ⟨_, _, -, -, -, -, rfl⟩ := unclaim_eq_ok.1 hc
    exact hset _ _ ih

/-- Messages that name a device reach it: it sends the frames of its commands, and its removal takes it and everything
below it away, and nothing else. -/
structure Reaches (b : Bus) (name : String) (id : DeviceId) : Prop where
  sends (payload : ByteArray) (p : Profile) (opcode : Opcode) (destination : Option Device) :
    Profile.ofBytes payload = .ok p → p.field "initiator" = name → opcode.name = p.field "command" →
    b.Addresses (p.field "destination") destination →
      ∃ device frame g, b.tree.device? id = some device ∧ (b.handle .command payload).value.1 = some frame ∧
        Frame.ofBytes frame.bytes = .ok g ∧ b.Tells p opcode device destination g
  goes (payload : ByteArray) (p : Profile) : Profile.ofBytes payload = .ok p → p.field "state" = "RemoveDevice" →
    p.field "parameters/name" = name → (b.handle .state payload).failed = false ∧
      ∀ x, (b.handle .state payload).value.2.tree.node? x = if x ∈ b.tree.members id then none else
        (b.tree.node? x).map fun node => { node with children := node.children.filter (· ≠ id) }

/-- Messages that use a name reach no device: its commands send nothing, and a removal is refused and changes nothing. -/
structure ReachesNone (b : Bus) (name : String) : Prop where
  sends (payload : ByteArray) (p : Profile) : Profile.ofBytes payload = .ok p → p.field "initiator" = name →
    (b.handle .command payload).value.1 = none
  goes (payload : ByteArray) (p : Profile) : Profile.ofBytes payload = .ok p → p.field "state" = "RemoveDevice" →
    p.field "parameters/name" = name → (b.handle .state payload).failed ∧ (b.handle .state payload).value.2 = b

/-- Every device is reached by its name, if it can be removed at all. -/
theorem Reachable.reaches (h : b.Reachable) (hd : b.tree.device? id = some device) (hroot : id ≠ b.tree.root)
    (hwithin : b.tree.isWithin b.emulated id = false) : b.Reaches device.name id := by
  have hw := h.sound.wellFormed
  constructor
  · intro payload p opcode destination hp hname hopcode hdestination
    have hasks : b.Asks p opcode device destination := ⟨hopcode, ⟨id, hd, hname.symm⟩, hdestination⟩
    have hframe := (commandFrame_eq_ok hw).2 ⟨opcode, device, destination, hasks, rfl⟩
    obtain ⟨g, hread, htells⟩ := h.exists_tells hasks rfl
    refine ⟨device, _, g, hd, ?_, hread, htells⟩
    rw [handle_command_of_ok hp, hframe]
    rfl
  · intro payload p hp hstate hname
    have hfound : b.tree.find? (p.field "parameters/name") = some id := by
      rw [hname]
      exact hw.find?_of_device? hd
    obtain ⟨top, hshows⟩ := hw.isTree
    obtain ⟨parent, hparent, -⟩ := hshows.exists_parent (DeviceTree.isLive_of_device? hd) hroot
    obtain ⟨removed, tree, hremove⟩ : ∃ removed tree, outcome (b.tree.removeSubtree id) = .ok (removed, tree) :=
      ⟨_, _, DeviceTree.removeSubtree_eq_ok.2 ⟨hroot, parent, hparent, rfl⟩⟩
    obtain ⟨hquiet, hafter⟩ :=
      handle_removeDevice hp hstate (removeDevice_eq_ok.2 ⟨id, removed, tree, hfound, hwithin, hremove, rfl⟩)
    refine ⟨hquiet, ?_⟩
    rw [hafter]
    exact (hw.removeSubtree_spec hremove).2.2

theorem Reachable.reachesNone (h : b.Reachable) (hlong : Device.maxNameLength < name.length) : b.ReachesNone name := by
  have hw := h.sound.wellFormed
  have hnone := h.namesFit.find?_eq_none hw hlong
  constructor
  · intro payload p hp hname
    rw [handle_command_of_ok hp]
    cases hframe : outcome (b.commandFrame p) with
    | error fault => rfl
    | ok frame =>
      obtain ⟨_, device, _, ⟨-, ⟨id, hd, hborne⟩, -⟩, -⟩ := (commandFrame_eq_ok hw).1 hframe
      have hfound := hw.find?_of_device? hd
      rw [hborne, hname, hnone] at hfound
      cases hfound
  · intro payload p hp hstate hname
    have hrefused : outcome (b.removeDevice p) = .error (.unknownDevice name) := by
      unfold Bus.removeDevice
      dsimp only
      rw [hname, hnone]
      rfl
    have happly : (b.apply .state payload).value = (.error (.unknownDevice name), b) := by
      rw [apply_removeDevice hp hstate, hrefused]
    refine ⟨(failed_handle_state b payload).2 ⟨_, by rw [happly]⟩, ?_⟩
    rw [bus_handle, happly]

/-- A device that is added is reached by the name that is stored of it. -/
theorem Reachable.reaches_added (h : b.Reachable) (hp : Profile.ofBytes payload = .ok p)
    (hstate : p.field "state" = "AddDevice") (hname : (addedSection p).text "name" = .ok name)
    (hadd : (b.handle .state payload).failed = false) :
    ∃ id parent, ¬ b.tree.isLive id ∧ b.tree.isLive parent ∧
      (b.handle .state payload).value.2.tree.parent? id = some parent ∧
        (b.handle .state payload).value.2.Reaches (Device.storedName name) id := by
  obtain ⟨parent, device, g, hadded, -⟩ := h.exists_added hp hstate hadd
  obtain ⟨name', hname', hstored⟩ := hadded.name
  rw [hname, Except.ok.injEq] at hname'
  subst hname'
  have hgained := hadded.gained
  have hafter := h.handle .state payload
  have hw := h.sound.wellFormed
  have hw' := hafter.sound.wellFormed
  have hfresh : ¬ b.tree.isLive b.tree.nextId := hgained.fresh _ (by simp)
  have hd := DeviceTree.Holds.device?_top (b := ⟨(b.tree.nextId, device), g⟩) hgained.held
  refine ⟨b.tree.nextId, parent, hfresh, hadded.live, hgained.held.parent_of_headIds List.mem_cons_self, ?_⟩
  rw [← hstored]
  refine hafter.reaches hd ?_ ?_
  · -- The root was there before.
    obtain ⟨top, hshows⟩ := hw.isTree
    intro hroot
    rw [hgained.root] at hroot
    rw [hroot] at hfresh
    exact hfresh (hshows.isLive_iff.2 hshows.root_mem)
  · -- And so was the emulated device.
    obtain ⟨emulated, hemulated, -⟩ := h.sound.emulated
    have hmembers := hgained.mem_members_iff (x := b.emulated) hw hw'
    obtain ⟨top, hshows⟩ := hw'.isTree
    rw [hshows.mem_members_iff (DeviceTree.isLive_of_device? hd)] at hmembers
    rw [hadded.emulated]
    exact Bool.eq_false_iff.2 fun hwithin => (hmembers.1 hwithin).2 (DeviceTree.isLive_of_device? hemulated)

/-! ### Names of devices -/

/-- A device is addressed by the name that is stored of the one it is declared under, which is that name itself exactly
if it has at most fifteen characters. A profile that is right in all else and names it so has it emulated, and once a
message has added it, commands in that name are sent by it and a removal by that name takes it away. -/
theorem addressed_by_stored_name (name : String) :
    (Device.storedName name = name ↔ name.length ≤ Device.maxNameLength) ∧
    (∀ p setup path, Setup.IsDescribed p setup → DeviceTree.IsNode ⟨p, Setup.mapPath⟩ path →
      (DeviceTree.sectionAt ⟨p, Setup.mapPath⟩ path).text "name" = .ok name →
      setup.emulated = Device.storedName name → EmulatesAt p setup path) ∧
    ∀ (b : Bus) payload p, b.Reachable → Profile.ofBytes payload = .ok p → p.field "state" = "AddDevice" →
      (addedSection p).text "name" = .ok name → (b.handle .state payload).failed = false →
        ∃ id parent, ¬ b.tree.isLive id ∧ b.tree.isLive parent ∧
          (b.handle .state payload).value.2.tree.parent? id = some parent ∧
            (b.handle .state payload).value.2.Reaches (Device.storedName name) id :=
  ⟨Device.storedName_eq_self_iff name, fun _ _ _ h hnode hname hstored => emulatesAt_of_stored h hnode hname hstored,
    fun _ _ _ h hp hstate hname hadd => h.reaches_added hp hstate hname hadd⟩

def soundbarComes : ByteArray :=
  ("\x7b\"state\":\"AddDevice\",\"parameters\":\x7b\"parent\":\"Player\"," ++
    "\"name\":\"Living room soundbar\"\x7d\x7d").toUTF8

/-- The message that adds the soundbar is read, and on the bus of the television no error is reported. -/
theorem soundbarComes_added : ∃ p, Profile.ofBytes soundbarComes = .ok p ∧ p.field "state" = "AddDevice" ∧
    (addedSection p).text "name" = .ok "Living room soundbar" ∧
      (televisionBus.handle .state soundbarComes).failed = false := by
  have hfields : (Profile.ofBytes soundbarComes).toOption.map
      (fun p => (p.field "state", ((addedSection p).text "name").toOption)) =
        some ("AddDevice", some "Living room soundbar") := by decide +kernel
  obtain ⟨p, hp, hfields⟩ := exists_ok_of_map_toOption hfields
  rw [Prod.mk.injEq, toOption_eq_some] at hfields
  exact ⟨p, hp, hfields.1, hfields.2, by decide +kernel⟩

theorem televisionBus_addressed : EmulatesAt televisionProfile televisionSetup [] ∧
    ∃ id, (televisionBus.handle .state soundbarComes).value.2.Reaches "Living room sou" id := by
  constructor
  · have hdescribed : Setup.IsDescribed televisionProfile televisionSetup :=
      ⟨by decide +kernel, by decide +kernel, by decide, ⟨none, 0, by decide +kernel⟩, by decide +kernel⟩
    exact (addressed_by_stored_name "TV").2.1 televisionProfile televisionSetup [] hdescribed trivial
      (by decide +kernel) (by decide)
  · obtain ⟨p, hp, hstate, hname, hadd⟩ := soundbarComes_added
    obtain ⟨id, -, -, -, -, hreaches⟩ := (addressed_by_stored_name "Living room soundbar").2.2 televisionBus
      soundbarComes p reachable_televisionBus hp hstate hname hadd
    have hstored : Device.storedName "Living room soundbar" = "Living room sou" := by decide
    rw [hstored] at hreaches
    exact ⟨id, hreaches⟩

/-- A profile with nothing but an emulated television that has a long name. -/
def livingRoomProfile : Profile :=
  let television := .mapping [(.string "name", .string "Living room television"), (.string "type", .string "TV")]
  ⟨.mapping [(.string "hdmicec", .mapping [(.string "emulated_device", .string "Living room television"),
    (.string "number_devices", .integer 1), (.string "device_map", .mapping [(.integer 0, television)])])]⟩

/-- What the profile says. -/
def livingRoomSetup : Setup where
  emulated := "Living room television"
  declaredDevices := 1
  ports := []
  tree := DeviceTree.single (Device.named "Living room television" .tv)

def soundbarSends : ByteArray :=
  ("\x7b\"command\":\"ActiveSource\",\"initiator\":\"Living room soundbar\"," ++
    "\"destination\":\"broadcast\"\x7d").toUTF8

def soundbarLeaves : ByteArray :=
  "\x7b\"state\":\"RemoveDevice\",\"parameters\":\x7b\"name\":\"Living room soundbar\"\x7d\x7d".toUTF8

/-- Devices that the names of their own documents do not address: one that is to be emulated, and one that is added and
then can neither send nor be removed. -/
theorem exists_unaddressed :
    (∃ p setup, Setup.IsDescribed p setup ∧ setup.tree.count = 1 ∧
      Section.text ⟨p, Setup.mapPath⟩ "name" = .ok setup.emulated ∧
      outcome (Setup.ofProfile p) = .error (.emulatedMissing setup.emulated)) ∧
    ∃ (b b' : Bus) (name : String) (comes sends leaves : Profile) (coming sending leaving : ByteArray), b.Reachable ∧
      Profile.ofBytes coming = .ok comes ∧ Profile.ofBytes sending = .ok sends ∧ Profile.ofBytes leaving = .ok leaves ∧
      comes.field "state" = "AddDevice" ∧ (addedSection comes).text "name" = .ok name ∧
      (b.handle .state coming).failed = false ∧ (b.handle .state coming).value.2 = b' ∧
      sends.field "command" = Opcode.activeSource.name ∧ sends.field "initiator" = name ∧
      sends.field "destination" = everyone ∧ (b'.handle .command sending).value.1 = none ∧
      leaves.field "state" = "RemoveDevice" ∧ leaves.field "parameters/name" = name ∧
      (b'.handle .state leaving).failed ∧ (b'.handle .state leaving).value.2 = b' := by
  constructor
  · have hdescribed : Setup.IsDescribed livingRoomProfile livingRoomSetup :=
      ⟨by decide +kernel, by decide +kernel, by decide, ⟨none, 0, by decide +kernel⟩, by decide +kernel⟩
    exact ⟨_, _, hdescribed, by decide, by decide +kernel, ofProfile_of_long hdescribed (by decide)⟩
  · obtain ⟨comes, hcomes, hcoming, hname, hadd⟩ := soundbarComes_added
    have hsends : (Profile.ofBytes soundbarSends).toOption.map
        (fun p => (p.field "command", p.field "initiator", p.field "destination")) =
          some (Opcode.activeSource.name, "Living room soundbar", everyone) := by decide +kernel
    have hleaves : (Profile.ofBytes soundbarLeaves).toOption.map (fun p => (p.field "state", p.field "parameters/name")) =
        some ("RemoveDevice", "Living room soundbar") := by decide +kernel
    obtain ⟨sends, hsending, hsent⟩ := exists_ok_of_map_toOption hsends
    obtain ⟨leaves, hleaving, hleft⟩ := exists_ok_of_map_toOption hleaves
    simp only [Prod.mk.injEq] at hsent hleft
    obtain ⟨hcommand, hinitiator, hdestination⟩ := hsent
    have hnone : (televisionBus.handle .state soundbarComes).value.2.ReachesNone "Living room soundbar" :=
      (reachable_televisionBus.handle .state soundbarComes).reachesNone (by decide)
    exact ⟨televisionBus, _, "Living room soundbar", comes, sends, leaves, soundbarComes, soundbarSends,
      soundbarLeaves, reachable_televisionBus, hcomes, hsending, hleaving, hcoming, hname, hadd, rfl, hcommand,
      hinitiator, hdestination, hnone.sends _ _ hsending hinitiator, hleft.1, hleft.2,
      hnone.goes _ _ hleaving hleft.1 hleft.2⟩

end Bus

end CecBus
