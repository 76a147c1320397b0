import CecBus.Proofs.Bus.Claiming

/-! The emulated device. A profile that is accepted can be opened, and whatever messages, claims and releases come to
the bus, its emulated id stays the id of the device that the profile names, live and of the same kind. `Emulates` says
so for one bus, and every request keeps it. Main result: `exists_emulates_serveAll`. -/

namespace CecBus.Bus

variable {b b' : Bus} {id : DeviceId} {name : String} {kind : Device.Kind}

/-- What comes to a bus. -/
inductive Request where
  | message (kind : MessageKind) (payload : ByteArray)
  | claim (address : LogicalAddress)
  | unclaim (address : LogicalAddress)

/-- The bus after a request. -/
def serve (b : Bus) : Request → Bus
  | .message kind payload => (b.handle kind payload).value.2
  | .claim address => (outcome (b.claim address)).toOption.getD b
  | .unclaim address => (outcome (b.unclaim address)).toOption.getD b

def serveAll (b : Bus) (requests : List Request) : Bus := requests.foldl serve b

/-- What a claim or a release leaves is the bus it was made on, or what its success leads to. -/
theorem toOption_getD_induct {P : Bus → Prop} {x : Except DriverError Bus} (hb : P b) (hok : ∀ b', x = .ok b' → P b') :
    P (x.toOption.getD b) := by
  cases x with
  | ok b' => exact hok b' rfl
  | error e => exact hb

theorem Reachable.serve (h : b.Reachable) (r : Request) : (b.serve r).Reachable := by
  cases r with
  | message kind payload => exact .handle h kind payload
  | claim address => exact toOption_getD_induct h fun b' hc => .claim h hc
  | unclaim address => exact toOption_getD_induct h fun b' hc => .unclaim h hc

theorem Reachable.serveAll (h : b.Reachable) (requests : List Request) : (b.serveAll requests).Reachable := by
  induction requests generalizing b with
  | nil => exact h
  | cons r rest ih => exact ih (h.serve r)

/-- The emulated device has an id, under which a live device has a name and a kind. -/
structure Emulates (b : Bus) (id : DeviceId) (name : String) (kind : Device.Kind) : Prop where
  emulated : b.emulated = id
  device : ∃ device, b.tree.device? id = some device ∧ device.name = name ∧ device.kind = kind

namespace Emulates

theorem setLogical (h : b.Emulates id name kind) (address : LogicalAddress) (pool : AddressPool) :
    (b.setLogical address pool).Emulates id name kind := by
  obtain ⟨rfl, device, hd, hname, hkind⟩ := h
  exact ⟨rfl, _, emulatedDevice?_setLogical hd address pool, hname, hkind⟩

/-- Handling a message never changes which device is emulated: it is not among those that are removed, and a device
that is added gets an id of its own. -/
theorem handle (h : b.Emulates id name kind) (hs : b.Sound) (k : MessageKind) (payload : ByteArray) :
    (b.handle k payload).value.2.Emulates id name kind := by
  obtain ⟨rfl, device, hd, hname, hkind⟩ := h
  have hid : (b.handle k payload).value.2.emulated = b.emulated := by
    refine handle_preserves (P := fun b' => b'.emulated = b.emulated) hs.wellFormed rfl (fun _ _ _ _ _ _ => rfl) ?_ k
      payload
    intro p b' hr
    obtain ⟨_, _, _, -, -, -, rfl⟩ := removeDevice_eq_ok.1 hr
    rfl
  obtain ⟨d, hd', hname', hkind', -⟩ := hs.emulatedDevice?_handle hd k payload
  rw [emulatedDevice?, hid] at hd'
  exact ⟨hid, d, hd', hname'.trans hname, hkind'.trans hkind⟩

theorem claim (h : b.Emulates id name kind) {address : LogicalAddress} (hc : outcome (b.claim address) = .ok b') :
    b'.Emulates id name kind := by
  obtain ⟨_, -, -, rfl, ⟨-, rfl⟩ | ⟨-, -, rfl⟩⟩ := claim_eq_ok.1 hc
  · exact h
  · exact h.setLogical _ _

theorem unclaim (h : b.Emulates id name kind) {address : LogicalAddress} (hc : outcome (b.unclaim address) = .ok b') :
    b'.Emulates id name kind := by
  obtain ⟨_, _, -, -, rfl, -, rfl⟩ := unclaim_eq_ok.1 hc
  exact h.setLogical _ _

theorem serve (h : b.Emulates id name kind) (hs : b.Sound) (r : Request) : (b.serve r).Emulates id name kind := by
  cases r with
  | message k payload => exact h.handle hs k payload
  | claim address => exact toOption_getD_induct h fun b' hc => h.claim hc
  | unclaim address => exact toOption_getD_induct h fun b' hc => h.unclaim hc

theorem serveAll (h : b.Emulates id name kind) (hb : b.Reachable) (requests : List Request) :
    (b.serveAll requests).Emulates id name kind := by
  induction requests generalizing b with
  | nil => exact h
  | cons r rest ih => exact ih (h.serve hb.sound r) (hb.serve r)

end Emulates

/-- The emulated device of a bus as it is opened is the one that the set-up names. -/
theorem emulates_ofSetup {setup : Setup} (hw : setup.tree.WellFormed) (hb : (ofSetup setup).value = some b) :
    ∃ device, setup.tree.deviceNamed? setup.emulated = some device ∧
      b.Emulates b.emulated setup.emulated device.kind := by
  obtain ⟨emulated, assignedDevice, hf, -, hb⟩ := ofSetup_eq_some.1 hb
  obtain ⟨device, hd, hname⟩ := hw.device?_of_find? hf
  obtain ⟨d, hsame, hd'⟩ := (readdressed_assignAddresses
    { tree := setup.tree, emulated, ports := setup.ports }).device? hd
  have hassigned : (assigned setup emulated).Emulates emulated setup.emulated device.kind :=
    ⟨rfl, d, hd', hsame.name_eq.trans hname, hsame.kind_eq⟩
  have hopened : b.Emulates emulated setup.emulated device.kind := by
    rw [hb]
    split
    · exact hassigned.setLogical .broadcast _
    · exact hassigned
  refine ⟨device, by rw [DeviceTree.deviceNamed?, hf, Option.bind_some, hd], ?_⟩
  rwa [hopened.emulated]

/-- On every reachable bus the emulated device is the one that the set-up named when the bus was opened. -/
theorem Reachable.exists_emulates (h : b.Reachable) : ∃ p setup device, outcome (Setup.ofProfile p) = .ok setup ∧
    setup.tree.deviceNamed? setup.emulated = some device ∧ b.Emulates b.emulated setup.emulated device.kind := by
  induction h with
  | opened hp hb =>
    obtain ⟨device, hd, hemulates⟩ := emulates_ofSetup (.ofSection (setup_of_ofProfile hp).1) hb
    exact ⟨_, _, device, hp, hd, hemulates⟩
  | handle hb kind payload ih =>
    obtain ⟨p, setup, device, hp, hd, hemulates⟩ := ih
    have hafter := hemulates.handle hb.sound kind payload
    exact ⟨p, setup, device, hp, hd, by rwa [hafter.emulated]⟩
  | claim _ hc ih =>
    obtain ⟨p, setup, device, hp, hd, hemulates⟩ := ih
    have hafter := hemulates.claim hc
    exact ⟨p, setup, device, hp, hd, by rwa [hafter.emulated]⟩
  | unclaim _ hc ih =>
    obtain ⟨p, setup, device, hp, hd, hemulates⟩ := ih
    have hafter := hemulates.unclaim hc
    exact ⟨p, setup, device, hp, hd, by rwa [hafter.emulated]⟩

/-- An accepted profile can be opened, and from then on the emulated device is the one the profile names, live and of
the kind it has there, whatever comes. -/
theorem exists_emulates_serveAll {p : Profile} {setup : Setup} (hp : outcome (Setup.ofProfile p) = .ok setup) :
    ∃ b device, (ofSetup setup).value = some b ∧ setup.tree.deviceNamed? setup.emulated = some device ∧
      ∀ requests, (b.serveAll requests).Emulates b.emulated setup.emulated device.kind := by
  obtain ⟨b, hb⟩ := Option.isSome_iff_exists.1 (isSome_ofSetup_of_ofProfile hp)
  obtain ⟨device, hd, hemulates⟩ := emulates_ofSetup (.ofSection (setup_of_ofProfile hp).1) hb
  exact ⟨b, device, hb, hd, fun requests => hemulates.serveAll (.opened hp hb) requests⟩

end CecBus.Bus
