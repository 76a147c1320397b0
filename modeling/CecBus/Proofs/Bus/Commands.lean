import CecBus.Proofs.Bus.Wiring
import CecBus.Proofs.Frame.Codec

/-! The frames that commands turn into. `Asks` says what a document asks for and `Carries` which parameters the frame of
an opcode has, row by row, both without the operations that handle a message; the frame that goes out is then read back
by the decoder. Main results: `Reachable.frame_of_command`, for every document, and `exists_sent_without_initiator`, a
bus on which a command that names no initiator is sent all the same. -/

namespace CecBus

/-! ### Bytes of a number -/

/-- The last digits of a number in base 256, the high one first. -/
def bigEndian : Nat → Nat → List UInt8
  | 0, _ => []
  | width + 1, n => bigEndian width (n / 256) ++ [UInt8.ofNat n]

@[simp] theorem length_bigEndian (width n : Nat) : (bigEndian width n).length = width := by
  induction width generalizing n with
  | zero => rfl
  | succ width ih => rw [bigEndian, List.length_append, ih, List.length_singleton]

theorem byte_eq_of_mod_eq {m n : Nat} (h : m % 256 = n % 256) : UInt8.ofNat m = UInt8.ofNat n := by
  apply UInt8.toNat_inj.1
  rw [UInt8.toNat_ofNat', UInt8.toNat_ofNat']
  exact h

theorem PhysicalAddress.bytes_eq_bigEndian (a : PhysicalAddress) : a.bytes = bigEndian 2 a.toNat := by
  have hb := a.b.isLt
  have hc := a.c.isLt
  have hd := a.d.isLt
  have hhigh : a.toNat / 256 = a.a * 16 + a.b := by
    rw [PhysicalAddress.toNat]
    omega
  have hlow : (a.c * 16 + a.d : Nat) % 256 = a.toNat % 256 := by
    rw [PhysicalAddress.toNat]
    omega
  show _ = [UInt8.ofNat (a.toNat / 256), UInt8.ofNat a.toNat]
  rw [hhigh, PhysicalAddress.bytes, byte_eq_of_mod_eq hlow]

theorem PhysicalAddress.take_bytes (a : PhysicalAddress) : a.bytes.take 64 = bigEndian 2 a.toNat := by
  have hlength : (bigEndian 2 a.toNat).length ≤ 64 := by rw [length_bigEndian]; decide
  rw [bytes_eq_bigEndian, List.take_of_length_le hlength]

theorem Device.Vendor.bytes_eq_bigEndian (v : Device.Vendor) : v.bytes = bigEndian 3 v.code.toNat := by
  have hbyte : ∀ (c : UInt32) (n : Nat), c.toNat = n → c.toUInt8 = UInt8.ofNat n := by
    rintro c n rfl
    apply UInt8.toNat_inj.1
    rw [UInt32.toNat_toUInt8, UInt8.toNat_ofNat']
  have hshift : ∀ k : UInt32, k.toNat < 32 → (v.code >>> k).toNat = v.code.toNat / 2 ^ k.toNat := by
    intro k hk
    rw [UInt32.toNat_shiftRight, Nat.mod_eq_of_lt hk, Nat.shiftRight_eq_div_pow]
  show [(v.code >>> 16).toUInt8, (v.code >>> 8).toUInt8, v.code.toUInt8] =
    [UInt8.ofNat (v.code.toNat / 256 / 256), UInt8.ofNat (v.code.toNat / 256), UInt8.ofNat v.code.toNat]
  rw [hbyte _ _ (hshift 16 (by decide)), hbyte _ _ (hshift 8 (by decide)), hbyte _ _ rfl, Nat.div_div_eq_div_mul]
  rfl

/-! ### Opcodes by name -/

theorem Opcode.ofName?_name (o : Opcode) : ofName? o.name = some o := by
  cases o <;> decide +kernel

theorem Opcode.ofName?_eq_some {name : String} {o : Opcode} : ofName? name = some o ↔ o.name = name := by
  constructor
  · intro h
    simpa using List.find?_some h
  · rintro rfl
    exact ofName?_name o

/-- The opcodes whose frames carry something. -/
def Opcode.carriers : List Opcode :=
  [activeSource, inactiveSource, routingInformation, reportPhysicalAddress, setOsdName, deviceVendorId, cecVersion,
    reportPowerStatus, setStreamPath]

/-! ### Frames with parameters -/

theorem Frame.length_bytes_le (f : Frame) : f.bytes.length ≤ maxSize := by
  have hlength := f.parameters_length
  have hopcode : (f.opcode.map Opcode.byte).toList.length ≤ 1 := by
    cases f.opcode with
    | none => exact Nat.zero_le 1
    | some o => exact Nat.le_refl 1
  rw [bytes, List.length_cons, List.length_append, maxSize]
  omega

namespace Bus

variable {b : Bus} {p : Profile} {payload : ByteArray} {name : String} {opcode : Opcode} {initiator device : Device}
  {destination : Option Device} {ps : List UInt8}

/-! ### What a document asks for -/

def Bears (b : Bus) (name : String) (device : Device) : Prop :=
  ∃ id, b.tree.device? id = some device ∧ device.name = name

/-- Whom a name addresses: everyone, or the live device that bears it. -/
inductive Addresses (b : Bus) (name : String) : Option Device → Prop
  | everyone (h : name = everyone) : Addresses b name none
  | one {device : Device} (h : name ≠ everyone) (hd : b.Bears name device) : Addresses b name (some device)

/-- A document asks a device to send an opcode to a device or to everyone. A field that is not there asks for the empty
name. -/
structure Asks (b : Bus) (p : Profile) (opcode : Opcode) (initiator : Device) (destination : Option Device) : Prop where
  opcode : opcode.name = p.field "command"
  initiator : b.Bears (p.field "initiator") initiator
  destination : b.Addresses (p.field "destination") destination

def Targets (b : Bus) (p : Profile) (device : Device) : Prop :=
  ∃ name, p.field? "target" = some name ∧ b.Bears name device

/-- What the frame of a command carries, one row for each group of opcodes. -/
inductive Carries (b : Bus) (p : Profile) (initiator : Device) (destination : Option Device) :
    Opcode → List UInt8 → Prop
  | place {opcode : Opcode} (h : opcode ∈ [Opcode.activeSource, .inactiveSource, .routingInformation]) :
    Carries b p initiator destination opcode (bigEndian 2 initiator.physical.toNat)
  | announcement : Carries b p initiator destination .reportPhysicalAddress
      (bigEndian 2 initiator.physical.toNat ++ bigEndian 1 initiator.kind.code)
  | givenName {name : String} (h : p.field? "osd_name" = some name) :
    Carries b p initiator destination .setOsdName (name.toUTF8.toList.take 64)
  | ownName (h : p.field? "osd_name" = none) :
    Carries b p initiator destination .setOsdName (initiator.name.toUTF8.toList.take 64)
  | vendor : Carries b p initiator destination .deviceVendorId (bigEndian 3 initiator.vendor.code.toNat)
  | version : Carries b p initiator destination .cecVersion (bigEndian 1 initiator.version.code)
  | power : Carries b p initiator destination .reportPowerStatus (bigEndian 1 initiator.power.code)
  | target {device : Device} (h : b.Targets p device) :
    Carries b p initiator destination .setStreamPath (bigEndian 2 device.physical.toNat)
  | destination {device : Device} (h : ¬ ∃ target, b.Targets p target) (hd : destination = some device) :
    Carries b p initiator destination .setStreamPath (bigEndian 2 device.physical.toNat)
  | nowhere (h : ¬ ∃ target, b.Targets p target) (hd : destination = none) :
    Carries b p initiator destination .setStreamPath []
  | bare {opcode : Opcode} (h : opcode ∉ Opcode.carriers) : Carries b p initiator destination opcode []

/-- The address of whom a command is for. -/
def receiverAddress : Option Device → Option LogicalAddress
  | some device => device.logical
  | none => some .broadcast

/-- What a frame tells: its addresses, its opcode and what it carries. -/
structure Tells (b : Bus) (p : Profile) (opcode : Opcode) (initiator : Device) (destination : Option Device)
    (g : Frame) : Prop where
  parameters (ps : List UInt8) : b.Carries p initiator destination opcode ps ↔ ps = g.parameters
  opcode : g.opcode = some opcode
  initiator : g.initiator = initiator.logical
  destination : g.destination = receiverAddress destination

/-! ### Names on a bus -/

theorem deviceNamed?_eq_some (h : b.tree.WellFormed) :
    b.tree.deviceNamed? name = some device ↔ b.Bears name device := by
  constructor
  · intro hd
    obtain ⟨id, hf, hd⟩ := Option.bind_eq_some_iff.1 hd
    obtain ⟨other, hother, hname⟩ := h.device?_of_find? hf
    rw [hd] at hother
    cases hother
    exact ⟨id, hd, hname⟩
  · rintro ⟨id, hd, rfl⟩
    rw [DeviceTree.deviceNamed?, h.find?_of_device? hd, Option.bind_some, hd]

theorem destination_eq_ok (h : b.tree.WellFormed) :
    b.destination name = .ok destination ↔ b.Addresses name destination := by
  rw [Bus.destination]
  by_cases hname : name = everyone
  · rw [if_pos hname]
    constructor
    · intro he
      cases he
      exact .everyone hname
    · intro ha
      cases ha with
      | everyone => rfl
      | one hne => exact absurd hname hne
  · rw [if_neg hname]
    constructor
    · intro hd
      split at hd
      · next device hfound =>
        cases hd
        exact .one hname ((deviceNamed?_eq_some h).1 hfound)
      · cases hd
    · intro ha
      cases ha with
      | everyone he => exact absurd he hname
      | one _ hd => rw [(deviceNamed?_eq_some h).2 hd]

/-- A device that the document targets is found, whatever the destination. -/
theorem streamTarget?_of_targets (h : b.tree.WellFormed) (ht : b.Targets p device) :
    b.streamTarget? p destination = some device := by
  obtain ⟨name, hname, hd⟩ := ht
  have hfound : b.tree.deviceNamed? name = some device := (deviceNamed?_eq_some h).2 hd
  rw [streamTarget?, hname, Option.bind_some, hfound, Option.some_or]

/-- If it targets none, the destination takes its place. -/
theorem streamTarget?_of_not (h : b.tree.WellFormed) (hnone : ¬ ∃ target, b.Targets p target) :
    b.streamTarget? p destination = destination := by
  have hfound : (p.field? "target").bind b.tree.deviceNamed? = none := by
    rw [Option.bind_eq_none_iff]
    intro name hname
    rw [Option.eq_none_iff_forall_ne_some]
    intro target hd
    exact hnone ⟨target, name, hname, (deviceNamed?_eq_some h).1 hd⟩
  rw [streamTarget?, hfound, Option.none_or]

/-! ### What a frame carries -/

/-- What a command puts into its frame, as far as it fits. -/
def carried (b : Bus) (p : Profile) (initiator : Device) (destination : Option Device) (opcode : Opcode) : List UInt8 :=
  (b.parameters p initiator destination opcode).value.take Frame.maxParameters

theorem carried_setStreamPath :
    b.carried p initiator destination .setStreamPath =
      ((b.streamTarget? p destination).map fun device => bigEndian 2 device.physical.toNat).getD [] := by
  rw [carried, Bus.parameters]
  cases b.streamTarget? p destination with
  | some device => exact device.physical.take_bytes
  | none => rfl

theorem carried_of_bare (h : opcode ∉ Opcode.carriers) : b.carried p initiator destination opcode = [] := by
  unfold carried Bus.parameters
  split
  case h_10 => rfl
  all_goals exact absurd (by decide) h

theorem Carries.eq_carried (h : b.tree.WellFormed) (hc : b.Carries p initiator destination opcode ps) :
    ps = b.carried p initiator destination opcode := by
  cases hc with
  | place hopcode =>
    simp only [List.mem_cons, List.not_mem_nil, or_false] at hopcode
    rcases hopcode with rfl | rfl | rfl
    all_goals exact initiator.physical.take_bytes.symm
  | announcement =>
    rw [carried, Bus.parameters, Logged.value_pure, PhysicalAddress.bytes_eq_bigEndian]
    rfl
  | givenName hname =>
    rw [carried, Bus.parameters, hname]
    rfl
  | ownName hname =>
    rw [carried, Bus.parameters, hname]
    rfl
  | vendor =>
    rw [carried, Bus.parameters, Logged.value_pure, Device.Vendor.bytes_eq_bigEndian]
    rfl
  | version => rfl
  | power => rfl
  | target ht =>
    rw [carried_setStreamPath, streamTarget?_of_targets h ht]
    rfl
  | destination hnone hd =>
    rw [carried_setStreamPath, streamTarget?_of_not h hnone, hd]
    rfl
  | nowhere hnone hd =>
    rw [carried_setStreamPath, streamTarget?_of_not h hnone, hd]
    rfl
  | bare hbare => exact (carried_of_bare hbare).symm

theorem exists_carries : ∃ ps, b.Carries p initiator destination opcode ps := by
  by_cases hbare : opcode ∉ Opcode.carriers
  · exact ⟨_, .bare hbare⟩
  simp only [Opcode.carriers, List.mem_cons, List.not_mem_nil, or_false, not_not] at hbare
  rcases hbare with rfl | rfl | rfl | rfl | rfl | rfl | rfl | rfl | rfl
  · exact ⟨_, .place (by decide)⟩
  · exact ⟨_, .place (by decide)⟩
  · exact ⟨_, .place (by decide)⟩
  · exact ⟨_, .announcement⟩
  · cases hname : p.field? "osd_name" with
    | some name => exact ⟨_, .givenName hname⟩
    | none => exact ⟨_, .ownName hname⟩
  · exact ⟨_, .vendor⟩
  · exact ⟨_, .version⟩
  · exact ⟨_, .power⟩
  · by_cases htarget : ∃ target, b.Targets p target
    · obtain ⟨target, ht⟩ := htarget
      exact ⟨_, .target ht⟩
    · cases hd : destination with
      | some device => exact ⟨_, .destination htarget rfl⟩
      | none => exact ⟨_, .nowhere htarget rfl⟩

theorem carries_iff (h : b.tree.WellFormed) :
    b.Carries p initiator destination opcode ps ↔ ps = b.carried p initiator destination opcode := by
  constructor
  · exact fun hc => hc.eq_carried h
  · rintro rfl
    obtain ⟨ps, hc⟩ : ∃ ps, b.Carries p initiator destination opcode ps := exists_carries
    rwa [← hc.eq_carried h]

/-! ### The frame that goes out -/

/-- What a document asks for is what is looked up for it. -/
theorem asks_iff (h : b.tree.WellFormed) : b.Asks p opcode initiator destination ↔
    Opcode.ofName? (p.field "command") = some opcode ∧ b.tree.deviceNamed? (p.field "initiator") = some initiator ∧
      b.destination (p.field "destination") = .ok destination := by
  rw [Opcode.ofName?_eq_some, deviceNamed?_eq_some h, destination_eq_ok h]
  exact ⟨fun hasks => ⟨hasks.opcode, hasks.initiator, hasks.destination⟩, fun ⟨ho, hi, hd⟩ => ⟨ho, hi, hd⟩⟩

theorem commandFrame_eq_ok (h : b.tree.WellFormed) {frame : Frame} :
    outcome (b.commandFrame p) = .ok frame ↔ ∃ opcode initiator destination, b.Asks p opcode initiator destination ∧
      frame = (Frame.addressed initiator.sender ((destination.bind Device.logical).getD .broadcast)
        (some opcode)).withParameters (b.parameters p initiator destination opcode).value := by
  simp only [asks_iff h]
  unfold Bus.commandFrame
  dsimp only
  cases Opcode.ofName? (p.field "command") with
  | none => simp
  | some opcode =>
    cases b.tree.deviceNamed? (p.field "initiator") with
    | none => simp
    | some initiator =>
      simp only [outcome_bind_eq_ok, outcome_liftM_except, outcome_liftM_logged, outcome_pure, Except.ok.injEq,
        Option.some.injEq, and_assoc, exists_eq_left', exists_and_left, exists_const, true_and, @eq_comm _ _ frame]

theorem handle_command_of_ok (hp : Profile.ofBytes payload = .ok p) :
    (b.handle .command payload).value.1 = (outcome (b.commandFrame p)).toOption := by
  rw [Bus.handle, Logged.value_bind, apply_of_ok hp]
  simp only [applyDocument, value_orKeep, outcome_bind]
  cases outcome (b.commandFrame p) with
  | ok frame => rfl
  | error fault => rfl

theorem handle_command_of_error {e : ProfileError} (hp : Profile.ofBytes payload = .error e) :
    (b.handle .command payload).value.1 = none := by
  rw [Bus.handle, Logged.value_bind, Bus.apply, hp]
  rfl

/-- The frame that a document asks for is read back as it was asked for. -/
theorem Reachable.exists_tells (h : b.Reachable) (hasks : b.Asks p opcode initiator destination) {frame : Frame}
    (hframe : frame = (Frame.addressed initiator.sender ((destination.bind Device.logical).getD .broadcast)
      (some opcode)).withParameters (b.parameters p initiator destination opcode).value) :
    ∃ g, Frame.ofBytes frame.bytes = .ok g ∧ b.Tells p opcode initiator destination g := by
  have hopcode : frame.opcode = some opcode := by
    rw [hframe]
    rfl
  refine ⟨frame.settled, Frame.ofBytes_bytes (.inl (by rw [hopcode]; rfl)), ?_, hopcode, ?_, ?_⟩
  · intro ps
    rw [carries_iff h.sound.wellFormed, hframe]
    exact Iff.rfl
  · -- Every live device has an address.
    obtain ⟨id, hd, -⟩ := hasks.initiator
    obtain ⟨a, ha⟩ := Option.isSome_iff_exists.1 (h.sound.hasAddress id initiator hd)
    rw [hframe, ha]
    show some (initiator.logical.getD .unregistered) = some a
    rw [ha, Option.getD_some]
  · cases hasks.destination with
    | everyone =>
      rw [hframe]
      rfl
    | @one device _ hd =>
      obtain ⟨id, hd, -⟩ := hd
      obtain ⟨a, ha⟩ := Option.isSome_iff_exists.1 (h.sound.hasAddress id device hd)
      rw [hframe]
      show some ((device.logical).getD .broadcast) = device.logical
      rw [ha, Option.getD_some]

/-- On every reachable bus a command sends a frame exactly if its document asks for one, with an opcode of the table, a
live device to send it, and everyone or a live device to receive it. The frame has at most 66 bytes, and they are read
back as what the document asks for. -/
theorem Reachable.frame_of_command (h : b.Reachable) (payload : ByteArray) :
    ((b.handle .command payload).value.1.isSome ↔ ∃ p opcode initiator destination, Profile.ofBytes payload = .ok p ∧
        b.Asks p opcode initiator destination) ∧
      ∀ p opcode initiator destination, Profile.ofBytes payload = .ok p → b.Asks p opcode initiator destination →
        ∃ frame g, (b.handle .command payload).value.1 = some frame ∧ frame.bytes.length ≤ 66 ∧
          Frame.ofBytes frame.bytes = .ok g ∧ b.Tells p opcode initiator destination g := by
  have hsent : ∀ p opcode initiator destination, Profile.ofBytes payload = .ok p →
      b.Asks p opcode initiator destination → ∃ frame g, (b.handle .command payload).value.1 = some frame ∧
        frame.bytes.length ≤ 66 ∧ Frame.ofBytes frame.bytes = .ok g ∧ b.Tells p opcode initiator destination g := by
    intro p opcode initiator destination hp hasks
    have hframe := (commandFrame_eq_ok h.sound.wellFormed).2 ⟨opcode, initiator, destination, hasks, rfl⟩
    obtain ⟨g, hread, htells⟩ := h.exists_tells hasks rfl
    refine ⟨_, g, ?_, Frame.length_bytes_le _, hread, htells⟩
    rw [handle_command_of_ok hp, hframe]
    rfl
  refine ⟨⟨?_, ?_⟩, hsent⟩
  · intro hsome
    cases hp : Profile.ofBytes payload with
    | error e =>
      rw [handle_command_of_error hp] at hsome
      cases hsome
    | ok p =>
      rw [handle_command_of_ok hp] at hsome
      cases hframe : outcome (b.commandFrame p) with
      | error fault =>
        rw [hframe] at hsome
        cases hsome
      | ok frame =>
        obtain ⟨opcode, initiator, destination, hasks, -⟩ := (commandFrame_eq_ok h.sound.wellFormed).1 hframe
        exact ⟨p, opcode, initiator, destination, rfl, hasks⟩
  · rintro ⟨p, opcode, initiator, destination, hp, hasks⟩
    obtain ⟨frame, -, hv, -⟩ := hsent p opcode initiator destination hp hasks
    rw [hv]
    rfl

def streamPathSet : ByteArray :=
  "\x7b\"command\":\"SetStreamPath\",\"initiator\":\"TV\",\"destination\":\"Player\"\x7d".toUTF8

def televisionPlayer : Device :=
  { Device.named "Player" .playback with port := 1, physical := .ofBytes 1 0 0 0, logical := some .playbackDevice1 }

theorem televisionBus_frame_of_command : ∃ p initiator frame g,
    televisionBus.Asks p .setStreamPath initiator (some televisionPlayer) ∧
      (televisionBus.handle .command streamPathSet).value.1 = some frame ∧ frame.bytes = [0x04, 0x86, 0x10, 0x00] ∧
        Frame.ofBytes frame.bytes = .ok g ∧
          televisionBus.Tells p .setStreamPath initiator (some televisionPlayer) g := by
  have hfields : (Profile.ofBytes streamPathSet).toOption.map
      (fun p => (p.field "command", p.field "initiator", p.field "destination")) =
        some ("SetStreamPath", "TV", "Player") := by decide +kernel
  have hbytes : (televisionBus.handle .command streamPathSet).value.1.map Frame.bytes =
      some [0x04, 0x86, 0x10, 0x00] := by decide +kernel
  cases hp : Profile.ofBytes streamPathSet with
  | error e =>
    rw [hp] at hfields
    cases hfields
  | ok p =>
    rw [hp, Except.toOption, Option.map_some, Option.some.injEq, Prod.mk.injEq, Prod.mk.injEq] at hfields
    obtain ⟨hcommand, hinitiator, hdestination⟩ := hfields
    have hasks : televisionBus.Asks p .setStreamPath
        { Device.named "TV" .tv with physical := .root, logical := some .tv } (some televisionPlayer) := by
      refine ⟨?_, ?_, ?_⟩
      · rw [hcommand]
        rfl
      · rw [hinitiator]
        exact ⟨⟨0, 0⟩, by decide +kernel, by decide⟩
      · rw [hdestination]
        exact .one (by decide) ⟨⟨1, 0⟩, by decide +kernel, by decide⟩
    obtain ⟨frame, g, hv, -, hread, htells⟩ :=
      (Reachable.frame_of_command reachable_televisionBus streamPathSet).2 _ _ _ _ hp hasks
    refine ⟨p, _, frame, g, hasks, hv, ?_, hread, htells⟩
    rw [hv] at hbytes
    exact Option.some.inj hbytes

/-! ### Fields that are not there -/

/-- Unless a live device bears the empty name, a document has to name an opcode, a device and a destination. -/
theorem Asks.fields_of_named (h : b.Asks p opcode initiator destination) (hnamed : ∀ device, ¬ b.Bears "" device) :
    (p.field? "command").isSome ∧ (p.field? "initiator").isSome ∧ (p.field? "destination").isSome := by
  have hfield : ∀ key, p.field? key = none → p.field key = "" := fun key hnone => by rw [Profile.field, hnone]; rfl
  simp only [Option.isSome_iff_ne_none]
  refine ⟨fun hnone => ?_, fun hnone => ?_, fun hnone => ?_⟩
  · have hname := h.opcode
    rw [hfield _ hnone] at hname
    revert hname
    cases opcode <;> decide +kernel
  · have hborne := h.initiator
    rw [hfield _ hnone] at hborne
    exact hnamed _ hborne
  · have haddressed := h.destination
    rw [hfield _ hnone] at haddressed
    cases haddressed with
    | everyone he => exact absurd he (by decide)
    | one _ hborne => exact hnamed _ hborne

/-- A profile with an emulated television and a player without a name at its first port. -/
def namelessProfile : Profile :=
  let player := .mapping [(.string "name", .string ""), (.string "type", .string "PlaybackDevice"),
    (.string "port_id", .integer 1)]
  let television := .mapping [(.string "name", .string "TV"), (.string "type", .string "TV"),
    (.string "number_children", .integer 1), (.string "children", .mapping [(.integer 0, player)])]
  ⟨.mapping [(.string "hdmicec", .mapping [(.string "emulated_device", .string "TV"),
    (.string "number_devices", .integer 2), (.string "device_map", .mapping [(.integer 0, television)])])]⟩

/-- What the profile says. -/
def namelessSetup : Setup where
  emulated := "TV"
  declaredDevices := 2
  ports := []
  tree := (DeviceTree.single (Device.named "TV" .tv)).attach ⟨0, 0⟩ { Device.named "" .playback with port := 1 }

def namelessBus : Bus := (assigned namelessSetup ⟨0, 0⟩).startUnclaimed (Device.named "TV" .tv)

theorem reachable_namelessBus : namelessBus.Reachable := by
  have hsetup : outcome (Setup.ofProfile namelessProfile) = .ok namelessSetup := by decide +kernel
  have hopened : (ofSetup namelessSetup).value = some namelessBus := by decide +kernel
  exact .opened hsetup hopened

/-- A command that does not say who sends it. -/
def unsigned : ByteArray := "\x7b\"command\":\"ActiveSource\",\"destination\":\"broadcast\"\x7d".toUTF8

/-- A bus on which a command without an initiator is sent, by the device without a name. -/
theorem exists_sent_without_initiator : ∃ (b : Bus) (payload : ByteArray) (p : Profile) (frame : Frame), b.Reachable ∧
    Profile.ofBytes payload = .ok p ∧ p.field? "initiator" = none ∧
      (b.handle .command payload).value.1 = some frame ∧ frame.bytes = [0x4f, 0x82, 0x10, 0x00] := by
  have hfield : (Profile.ofBytes unsigned).toOption.map (fun p => p.field? "initiator") = some none := by
    decide +kernel
  have hbytes : (namelessBus.handle .command unsigned).value.1.map Frame.bytes = some [0x4f, 0x82, 0x10, 0x00] := by
    decide +kernel
  obtain ⟨frame, hframe, hread⟩ := Option.map_eq_some_iff.1 hbytes
  cases hp : Profile.ofBytes unsigned with
  | error e =>
    rw [hp] at hfield
    cases hfield
  | ok p =>
    rw [hp] at hfield
    exact ⟨namelessBus, unsigned, p, frame, reachable_namelessBus, hp, Option.some.inj hfield, hframe, hread⟩

end Bus

end CecBus
