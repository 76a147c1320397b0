import CecBus.Proofs.Bus.Emulation
import CecBus.Proofs.DeviceTree.Reading
import CecBus.Proofs.DeviceTree.Staging

/-! The ports of an emulated television. An addition directly below it is refused when it has as many children as
ports, and otherwise brings it one child. So whatever comes to the bus, the television has no more children than ports,
or no more than the profile gave it. Below other devices an addition does not depend on the ports: it succeeds exactly
if its document can join the tree, however much the document declares. Main result: `exists_portLimited`. -/

namespace CecBus

namespace DeviceTree

variable {t staged : DeviceTree} {s : Section} {name : String}

/-! ### Documents that can join a tree -/

/-- A document declares a device at some position. -/
def Declares (s : Section) (device : Device) : Prop :=
  ∃ path declared, IsNode s path ∧ outcome (Device.ofSection (sectionAt s path)) = .ok (device, declared)

/-- The names in a tree that was read are those of the devices that the document declares. -/
theorem bears_ofSection_iff (h : outcome (ofSection s) = .ok staged) :
    staged.Bears name ↔ ∃ device, Declares s device ∧ device.name = name := by
  obtain ⟨top, hshows, hdescribes⟩ := exists_shows_of_ofSection h
  have hmirrors := hshows.mirrors hdescribes
  constructor
  · rintro ⟨id, device, hd, rfl⟩
    obtain ⟨path, hpath⟩ := hshows.holds.exists_descend_iff.2 (hshows.isLive_iff.1 (isLive_of_device? hd))
    rw [← hshows.root] at hpath
    obtain ⟨other, declared, hread, hother, -⟩ := hmirrors.device path id hpath
    rw [hd] at hother
    cases hother
    exact ⟨device, ⟨path, declared, (hmirrors.isNode_iff path).2 ⟨id, hpath⟩, hread⟩, rfl⟩
  · rintro ⟨device, ⟨path, declared, hnode, hread⟩, rfl⟩
    obtain ⟨id, hpath⟩ := (hmirrors.isNode_iff path).1 hnode
    obtain ⟨other, count, hread₂, hother, -⟩ := hmirrors.device path id hpath
    rw [hread] at hread₂
    cases hread₂
    exact ⟨id, device, hother, rfl⟩

/-- A document can join a tree: the devices that it declares can be read, and the tree has none of their names.
Nothing is said of how many they are. -/
structure CanJoin (s : Section) (t : DeviceTree) : Prop where
  loadable : Loadable s
  free (device : Device) : Declares s device → ¬ t.Bears device.name

theorem canJoin_iff : CanJoin s t ↔
    ∃ staged, outcome (ofSection s) = .ok staged ∧ ∀ name, staged.Bears name → ¬ t.Bears name := by
  constructor
  · rintro ⟨hloadable, hfree⟩
    obtain ⟨staged, hread⟩ := (exists_ofSection_iff s).2 hloadable
    refine ⟨staged, hread, fun name hname => ?_⟩
    obtain ⟨device, hdeclares, rfl⟩ := (bears_ofSection_iff hread).1 hname
    exact hfree device hdeclares
  · rintro ⟨staged, hread, hfree⟩
    exact ⟨(exists_ofSection_iff s).1 ⟨staged, hread⟩, fun device hdeclares =>
      hfree _ ((bears_ofSection_iff hread).2 ⟨device, hdeclares, rfl⟩)⟩

end DeviceTree

namespace Bus

variable {b b' b'' : Bus} {parent : DeviceId} {p : Profile} {payload : ByteArray} {setup : Setup}

/-! ### Additions -/

def childCount (b : Bus) : Nat := (b.tree.children b.emulated).length

theorem isFull_emulated (htv : b.emulatedDevice?.any (·.kind = .tv)) :
    b.isFull b.emulated ↔ b.ports.length ≤ b.childCount := by
  simp [isFull, htv, childCount]

theorem isFull_of_ne (h : parent ≠ b.emulated) : b.isFull parent = false := by simp [isFull, h]

/-- An addition succeeds exactly if the parent is not full and the document can join the tree. -/
theorem exists_ok_addDevice_iff (hw : b.tree.WellFormed)
    (hf : b.tree.find? (p.field "parameters/parent") = some parent) :
    (∃ frame, (b.addDevice p).value.1 = .ok frame) ↔
      b.isFull parent = false ∧ DeviceTree.CanJoin (addedSection p) b.tree := by
  cases hfull : b.isFull parent with
  | true => simp [addDevice_of_isFull hf hfull]
  | false =>
    have hlive := hw.isLive_of_find? hf
    have hsucceeds := hw.isTree.succeeds parent (addedSection p)
    simp only [hlive, and_true] at hsucceeds
    rw [DeviceTree.canJoin_iff, ← hsucceeds, addDevice_of_free hf hfull]
    cases (b.tree.insertSection parent (addedSection p)).value with
    | mk result tree => cases result <;> simp

/-- An addition below any device but the emulated one comes to the same whatever ports there are. -/
theorem addDevice_withPorts (hf : b.tree.find? (p.field "parameters/parent") = some parent)
    (hother : parent ≠ b.emulated) (ports : List Port) : (({ b with ports } : Bus).addDevice p).value =
      ((b.addDevice p).value.1, { (b.addDevice p).value.2 with ports }) := by
  rw [addDevice_of_free (b := { b with ports }) hf (isFull_of_ne hother), addDevice_of_free hf (isFull_of_ne hother)]
  cases (b.tree.insertSection parent (addedSection p)).value with
  | mk result tree => cases result <;> rfl

/-- An addition gives the emulated device one child if it is the parent, and none if it is not. -/
theorem childCount_of_gains (hs : b.Sound) {stop : Branch (DeviceId × Device)} {g : DeviceTree.Layout}
    {tree : DeviceTree} (hg : b.Gains p parent stop g tree) :
    (({ b with tree }.assignAddresses).value).childCount =
      if parent = b.emulated then b.childCount + 1 else b.childCount := by
  obtain ⟨device, hd, -⟩ := hs.emulated
  have hchildren : ({ b with tree }.assignAddresses).value.tree.children b.emulated =
      if b.emulated = parent then b.tree.children b.emulated ++ [b.tree.nextId] else b.tree.children b.emulated :=
    ((readdressed_assignAddresses { b with tree }).children_eq b.emulated).trans
      (hg.gained.children_eq (DeviceTree.isLive_of_device? hd))
  change (({ b with tree }.assignAddresses).value.tree.children b.emulated).length = _
  by_cases heq : parent = b.emulated
  · simp [hchildren, heq, childCount]
  · simp [hchildren, heq, Ne.symm heq, childCount]

/-! ### What every request keeps -/

theorem childCount_updateEmulated (b : Bus) (f : Device → Device) (pool : AddressPool) :
    ({ b with pool }.updateEmulated f).childCount = b.childCount :=
  congrArg List.length (DeviceTree.children_update _)

/-- The emulated device and the ports are as before, and below the emulated device there are no more devices than
before, or no more than ports. -/
structure KeepsToPorts (b b' : Bus) : Prop where
  emulated : b'.emulated = b.emulated
  ports : b'.ports = b.ports
  childCount : b'.childCount ≤ max b.ports.length b.childCount

namespace KeepsToPorts

theorem refl (b : Bus) : b.KeepsToPorts b := ⟨rfl, rfl, Nat.le_max_right _ _⟩

theorem trans (h : b.KeepsToPorts b') (h' : b'.KeepsToPorts b'') : b.KeepsToPorts b'' where
  emulated := h'.emulated.trans h.emulated
  ports := h'.ports.trans h.ports
  childCount := by
    have hfirst := h.childCount
    have hthen := h'.childCount
    rw [h.ports] at hthen
    omega

theorem updateEmulated (b : Bus) (f : Device → Device) (pool : AddressPool) :
    b.KeepsToPorts ({ b with pool }.updateEmulated f) where
  emulated := rfl
  ports := rfl
  childCount := by
    rw [childCount_updateEmulated]
    exact Nat.le_max_right _ _

theorem claim {address : LogicalAddress} (hc : outcome (b.claim address) = .ok b') : b.KeepsToPorts b' := by
  obtain ⟨_, -, -, rfl, ⟨-, rfl⟩ | ⟨-, -, rfl⟩⟩ := claim_eq_ok.1 hc
  · exact refl _
  · exact updateEmulated _ _ _

theorem unclaim {address : LogicalAddress} (hc : outcome (b.unclaim address) = .ok b') : b.KeepsToPorts b' := by
  obtain ⟨_, _, -, -, rfl, -, rfl⟩ := unclaim_eq_ok.1 hc
  exact updateEmulated _ _ _

theorem removeDevice (hw : b.tree.WellFormed) (hr : outcome (b.removeDevice p) = .ok b') : b.KeepsToPorts b' := by
  obtain ⟨id, removed, tree, -, -, hremove, rfl⟩ := removeDevice_eq_ok.1 hr
  exact ⟨rfl, rfl, Nat.le_trans (hw.length_children_removeSubtree hremove _) (Nat.le_max_right _ _)⟩

/-- A television gets another child only while it has a port for it. -/
theorem gains (hs : b.Sound) (htv : b.emulatedDevice?.any (·.kind = .tv)) {stop : Branch (DeviceId × Device)}
    {g : DeviceTree.Layout} {tree : DeviceTree} (hg : b.Gains p parent stop g tree) :
    b.KeepsToPorts ({ b with tree }.assignAddresses).value where
  emulated := rfl
  ports := rfl
  childCount := by
    rw [childCount_of_gains hs hg]
    split
    · next heq =>
      have hfree := hg.free
      rw [heq, ← Bool.not_eq_true, isFull_emulated htv] at hfree
      omega
    · exact Nat.le_max_right _ _

theorem serve (hs : b.Sound) (htv : b.emulatedDevice?.any (·.kind = .tv)) (r : Request) :
    b.KeepsToPorts (b.serve r) := by
  cases r with
  | message kind payload =>
    exact handle_preserves hs.wellFormed (refl b) (fun _ _ _ _ _ hg => gains hs htv hg)
      (fun _ _ hr => removeDevice hs.wellFormed hr) kind payload
  | claim address => exact toOption_getD_induct (refl b) fun _ hc => claim hc
  | unclaim address => exact toOption_getD_induct (refl b) fun _ hc => unclaim hc

end KeepsToPorts

/-- The emulated device of a bus is a television. -/
theorem Emulates.any_isTv {id : DeviceId} {name : String} (h : b.Emulates id name .tv) :
    b.emulatedDevice?.any (·.kind = .tv) := by
  obtain ⟨rfl, device, hd, -, hkind⟩ := h
  simp [emulatedDevice?, hd, hkind]

theorem Emulates.keepsToPorts_serveAll {id : DeviceId} {name : String} (h : b.Emulates id name .tv) (hb : b.Reachable)
    (requests : List Request) : b.KeepsToPorts (b.serveAll requests) := by
  induction requests generalizing b with
  | nil => exact .refl b
  | cons r rest ih => exact (KeepsToPorts.serve hb.sound h.any_isTv r).trans (ih (h.serve hb.sound r) (hb.serve r))

/-! ### From the profile on -/

/-- Giving addresses moves no device, so a bus is opened with the children that its description gives. -/
theorem opened_childCount (hb : (ofSetup setup).value = some b) :
    setup.tree.find? setup.emulated = some b.emulated ∧ b.ports = setup.ports ∧
      b.childCount = (setup.tree.children b.emulated).length := by
  obtain ⟨emulated, device, hf, -, rfl⟩ := ofSetup_eq_some.1 hb
  have hassigned : (assigned setup emulated).childCount = (setup.tree.children emulated).length := congrArg List.length
    ((readdressed_assignAddresses { tree := setup.tree, emulated, ports := setup.ports }).children_eq emulated)
  split
  · exact ⟨hf, rfl, (childCount_updateEmulated _ _ _).trans hassigned⟩
  · exact ⟨hf, rfl, hassigned⟩

/-- A message asks for devices to be added below a parent. -/
structure AsksToAdd (b : Bus) (payload : ByteArray) (p : Profile) (parent : DeviceId) : Prop where
  read : Profile.ofBytes payload = .ok p
  state : p.field "state" = "AddDevice"
  found : b.tree.find? (p.field "parameters/parent") = some parent

/-- A bus with an emulated television that its description gave so many children. -/
structure PortLimited (setup : Setup) (given : Nat) (b : Bus) : Prop where
  television : ∃ device, b.emulatedDevice? = some device ∧ device.name = setup.emulated ∧ device.kind = .tv
  ports : b.ports = setup.ports
  within : b.childCount ≤ max setup.ports.length given
  /-- Below the television nothing is added when there is no port left. -/
  refused (payload : ByteArray) (p : Profile) : b.AsksToAdd payload p b.emulated → setup.ports.length ≤ b.childCount →
    (b.apply .state payload).value = (.error .noFreePort, b) ∧ (b.handle .state payload).value = (none, b)
  /-- Otherwise the document and the names in the tree decide. -/
  accepted_iff (payload : ByteArray) (p : Profile) (parent : DeviceId) : b.AsksToAdd payload p parent →
    ((∃ frame, (b.apply .state payload).value.1 = .ok frame) ↔
      (parent = b.emulated → b.childCount < setup.ports.length) ∧ DeviceTree.CanJoin (addedSection p) b.tree)
  /-- Below other devices an addition comes to the same whatever ports there are. -/
  elsewhere (payload : ByteArray) (p : Profile) (parent : DeviceId) (ports : List Port) : b.AsksToAdd payload p parent →
    parent ≠ b.emulated → (({ b with ports } : Bus).apply .state payload).value =
      ((b.apply .state payload).value.1, { (b.apply .state payload).value.2 with ports })

theorem Emulates.portLimited {id : DeviceId} {given : Nat} (h : b.Emulates id setup.emulated .tv) (hs : b.Sound)
    (hports : b.ports = setup.ports) (hwithin : b.childCount ≤ max setup.ports.length given) :
    b.PortLimited setup given := by
  have htv := h.any_isTv
  have hfull : ∀ parent, b.isFull parent = false ↔ (parent = b.emulated → b.childCount < setup.ports.length) := by
    intro parent
    by_cases heq : parent = b.emulated
    · simp only [heq, ← Bool.not_eq_true, isFull_emulated htv, hports, Nat.not_le, forall_const]
    · simp [heq, isFull_of_ne heq]
  refine ⟨?_, hports, hwithin, fun payload p hasks hcount => ?_, fun payload p parent hasks => ?_,
    fun payload p parent ports hasks hother => ?_⟩
  · obtain ⟨rfl, device, hd, hname, hkind⟩ := h
    exact ⟨device, hd, hname, hkind⟩
  · have happly : (b.apply .state payload).value = (.error .noFreePort, b) := by
      rw [apply_addDevice hasks.read hasks.state]
      exact addDevice_of_isFull hasks.found ((isFull_emulated htv).2 (by rwa [hports]))
    exact ⟨happly, by rw [value_handle, happly]; rfl⟩
  · rw [apply_addDevice hasks.read hasks.state, exists_ok_addDevice_iff hs.wellFormed hasks.found, hfull]
  · rw [apply_addDevice hasks.read hasks.state, apply_addDevice hasks.read hasks.state,
      addDevice_withPorts hasks.found hother]

/-- A profile is accepted whose emulated device is a television. The bus can be opened, and whatever comes then, the
television has no more children than ports or than the profile gave it; below it additions are refused when all ports
are taken, and elsewhere ports and the number of devices do not matter. -/
theorem exists_portLimited {p : Profile} {setup : Setup} (hp : outcome (Setup.ofProfile p) = .ok setup)
    (htv : (setup.tree.deviceNamed? setup.emulated).map Device.kind = some .tv) :
    ∃ b id, (ofSetup setup).value = some b ∧ setup.tree.find? setup.emulated = some id ∧ ∀ requests,
      (b.serveAll requests).emulated = id ∧
        (b.serveAll requests).PortLimited setup (setup.tree.children id).length := by
  obtain ⟨b, hb⟩ := Option.isSome_iff_exists.1 (isSome_ofSetup_of_ofProfile hp)
  obtain ⟨hfound, hports, hcount⟩ := opened_childCount hb
  obtain ⟨device, hd, hemulates⟩ := emulates_ofSetup (.ofSection (setup_of_ofProfile hp).1) hb
  rw [hd, Option.map_some, Option.some.injEq] at htv
  rw [htv] at hemulates
  have hreachable : b.Reachable := .opened hp hb
  refine ⟨b, b.emulated, hb, hfound, fun requests => ?_⟩
  have hkeeps := hemulates.keepsToPorts_serveAll hreachable requests
  have hafter := hkeeps.childCount
  rw [hports, hcount] at hafter
  exact ⟨hkeeps.emulated, (hemulates.serveAll hreachable requests).portLimited (hreachable.serveAll requests).sound
    (hkeeps.ports.trans hports) hafter⟩

/-- A profile with an emulated television that has two ports, and a player at the first. -/
def twoPortsProfile : Profile :=
  let port (id : Nat) := .mapping [(.string "id", .integer id), (.string "type", .string "in")]
  let player := .mapping [(.string "name", .string "Player"), (.string "type", .string "PlaybackDevice"),
    (.string "port_id", .integer 1)]
  let television := .mapping [(.string "name", .string "TV"), (.string "type", .string "TV"),
    (.string "number_children", .integer 1), (.string "children", .mapping [(.integer 0, player)])]
  ⟨.mapping [(.string "hdmicec", .mapping [(.string "emulated_device", .string "TV"),
    (.string "number_devices", .integer 2), (.string "ports", .sequence [port 1, port 2]),
    (.string "device_map", .mapping [(.integer 0, television)])])]⟩

def twoPortsSetup : Setup :=
  { televisionSetup with ports := [⟨1, .input, false, false⟩, ⟨2, .input, false, false⟩] }

def twoPortsBus : Bus := { openedTelevisionBus with ports := twoPortsSetup.ports }

/-- A message that adds a soundbar with a tuner below the television. -/
def soundbarAndTunerCome : ByteArray :=
  ("\x7b\"state\":\"AddDevice\",\"parameters\":\x7b\"parent\":\"TV\",\"name\":\"Soundbar\",\"type\":\"AudioSystem\"," ++
    "\"port_id\":\"2\",\"number_children\":\"1\"," ++
    "\"children\":\x7b\"0\":\x7b\"name\":\"Tuner\",\"type\":\"Tuner\"\x7d\x7d\x7d\x7d").toUTF8

/-- A message that adds a recorder there, for which no port is left then. -/
def recorderComesLate : ByteArray :=
  ("\x7b\"state\":\"AddDevice\",\"parameters\":\x7b\"parent\":\"TV\",\"name\":\"Recorder\"," ++
    "\"type\":\"RecordingDevice\",\"port_id\":\"1\"\x7d\x7d").toUTF8

theorem twoPortsBus_portLimited : twoPortsBus.childCount = 1 ∧
    (twoPortsBus.serveAll [.message .state soundbarAndTunerCome]).childCount = 2 ∧
      ((twoPortsBus.serveAll [.message .state soundbarAndTunerCome]).handle .state recorderComesLate).failed ∧
        ∀ requests, (twoPortsBus.serveAll requests).PortLimited twoPortsSetup 1 := by
  have hsetup : outcome (Setup.ofProfile twoPortsProfile) = .ok twoPortsSetup := by decide +kernel
  have hopened : (ofSetup twoPortsSetup).value = some twoPortsBus := by decide +kernel
  have hfound : twoPortsSetup.tree.find? twoPortsSetup.emulated = some ⟨0, 0⟩ := by decide +kernel
  have hgiven : (twoPortsSetup.tree.children ⟨0, 0⟩).length = 1 := by decide +kernel
  have hhandled : (twoPortsBus.serveAll [.message .state soundbarAndTunerCome]).childCount = 2 ∧
      ((twoPortsBus.serveAll [.message .state soundbarAndTunerCome]).handle .state recorderComesLate).failed := by
    decide +kernel
  obtain ⟨b, id, hb, hid, hlimited⟩ := exists_portLimited hsetup (by decide +kernel)
  rw [hopened, Option.some.injEq] at hb
  rw [hfound, Option.some.injEq] at hid
  rw [← hb, ← hid, hgiven] at hlimited
  exact ⟨by decide +kernel, hhandled.1, hhandled.2, fun requests => (hlimited requests).2⟩

end Bus

end CecBus
