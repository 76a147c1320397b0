import CecBus.Proofs.Bus.Naming
import CecBus.Proofs.Frame.Filling

/-! Announcements. The frame that goes out when a device is added and the frame in which a command has a device report
its place are put together in two places. Both are the announcement of the device that the tree then holds, because the
device is looked up when all addresses have been given. Main result: `Reachable.announces_added`. -/

namespace CecBus

namespace Bus

variable {b : Bus} {p : Profile} {payload : ByteArray} {id : DeviceId} {device : Device} {a : LogicalAddress}

/-! ### Frames that tell a place -/

/-- The announcement of a device has its addresses in it, and its kind. -/
theorem bytes_announcement (hl : device.logical = some a) : device.announcement.bytes =
    UInt8.ofNat (16 * a.code + 15) :: 0x84 ::
      (bigEndian 2 device.physical.toNat ++ bigEndian 1 device.kind.code) := by
  rw [Device.announcement, Device.sender, hl, Frame.withParameters_append, PhysicalAddress.bytes_eq_bigEndian]
  rfl

/-- A document has the device with a name tell everyone where it is. -/
structure AsksForPlace (p : Profile) (name : String) : Prop where
  command : p.field "command" = Opcode.reportPhysicalAddress.name
  initiator : p.field "initiator" = name
  destination : p.field "destination" = everyone

theorem handle_of_asksForPlace (h : b.tree.WellFormed) (hd : b.tree.device? id = some device)
    (hp : Profile.ofBytes payload = .ok p) (hasks : AsksForPlace p device.name) :
    (b.handle .command payload).value = (some device.announcement, b) := by
  have hsent : outcome (b.commandFrame p) = .ok device.announcement := by
    refine (commandFrame_eq_ok h).2 ⟨.reportPhysicalAddress, device, none,
      ⟨hasks.command.symm, ⟨id, hd, hasks.initiator.symm⟩, .everyone hasks.destination⟩, ?_⟩
    rw [Device.announcement, Frame.withParameters_append]
    rfl
  refine Prod.ext ?_ ?_
  · rw [handle_command_of_ok hp, hsent]
    rfl
  · rw [bus_handle, bus_apply_of_ne_state (by decide)]

/-! ### Devices that are added -/

/-- A frame goes out for a device on top of what a message has added: it has the addresses in it that the tree now holds
for the device, and the device sends the same frame when a command asks it for its place. -/
structure Announces (b : Bus) (p : Profile) (b' : Bus) (frame : Frame) (id : DeviceId) (device : Device) : Prop where
  fresh : ¬ b.tree.isLive id
  parent : ∃ parent, b.tree.find? (p.field "parameters/parent") = some parent ∧ b'.tree.parent? id = some parent
  held : b'.tree.device? id = some device
  name : ∃ name, (addedSection p).text "name" = .ok name ∧ device.name = Device.storedName name
  bytes : ∃ a, device.logical = some a ∧ frame.bytes =
    UInt8.ofNat (16 * a.code + 15) :: 0x84 :: (bigEndian 2 device.physical.toNat ++ bigEndian 1 device.kind.code)
  asked (payload : ByteArray) (p' : Profile) : Profile.ofBytes payload = .ok p' → AsksForPlace p' device.name →
    (b'.handle .command payload).value = (some frame, b')

/-- On every reachable bus one frame goes out when devices are added, and it is the one that the device on top sends
when it is asked for its place next. -/
theorem Reachable.announces_added (h : b.Reachable) (hp : Profile.ofBytes payload = .ok p)
    (hstate : p.field "state" = "AddDevice") (hadd : (b.handle .state payload).failed = false) :
    ∃ frame id device, (b.handle .state payload).value.1 = some frame ∧
      b.Announces p (b.handle .state payload).value.2 frame id device := by
  obtain ⟨parent, device, g, hadded, hframe⟩ := h.exists_added hp hstate hadd
  have hafter := (h.handle .state payload).sound
  have hd := DeviceTree.Holds.device?_top (b := ⟨(b.tree.nextId, device), g⟩) hadded.gained.held
  obtain ⟨a, ha⟩ := Option.isSome_iff_exists.1 (hafter.hasAddress _ _ hd)
  refine ⟨device.announcement, b.tree.nextId, device, hframe, ?_⟩
  exact
    { fresh := hadded.gained.fresh _ (by simp)
      parent := ⟨parent, hadded.found, hadded.gained.held.parent_of_headIds List.mem_cons_self⟩
      held := hd
      name := hadded.name
      bytes := ⟨a, ha, bytes_announcement ha⟩
      asked := fun _ _ hp' hasks => handle_of_asksForPlace hafter.wellFormed hd hp' hasks }

/-- A message that adds speakers to the second port of the player, under a name that is too long to be stored. -/
def speakersCome : ByteArray :=
  ("\x7b\"state\":\"AddDevice\",\"parameters\":\x7b\"parent\":\"Player\",\"name\":\"Living room speakers\"," ++
    "\"type\":\"AudioSystem\",\"port_id\":\"2\"\x7d\x7d").toUTF8

def speakersReport : ByteArray :=
  ("\x7b\"command\":\"ReportPhysicalAddress\",\"initiator\":\"Living room spe\"," ++
    "\"destination\":\"broadcast\"\x7d").toUTF8

theorem televisionBus_announces : ∃ p p' frame id device, Profile.ofBytes speakersCome = .ok p ∧
    Profile.ofBytes speakersReport = .ok p' ∧ AsksForPlace p' device.name ∧
    (televisionBus.handle .state speakersCome).value.1 = some frame ∧ frame.bytes = [0x5f, 0x84, 0x12, 0x00, 0x05] ∧
    televisionBus.Announces p (televisionBus.handle .state speakersCome).value.2 frame id device := by
  have hcome : (Profile.ofBytes speakersCome).toOption.map
      (fun p => (p.field "state", ((addedSection p).text "name").toOption)) =
        some ("AddDevice", some "Living room speakers") := by decide +kernel
  have hreport : (Profile.ofBytes speakersReport).toOption.map
      (fun p => (p.field "command", p.field "initiator", p.field "destination")) =
        some (Opcode.reportPhysicalAddress.name, Device.storedName "Living room speakers", everyone) := by decide +kernel
  have hhandled : (televisionBus.handle .state speakersCome).failed = false ∧
      (televisionBus.handle .state speakersCome).value.1.map Frame.bytes = some [0x5f, 0x84, 0x12, 0x00, 0x05] := by
    decide +kernel
  obtain ⟨p, hp, hcome⟩ := exists_ok_of_map_toOption hcome
  obtain ⟨p', hp', hreport⟩ := exists_ok_of_map_toOption hreport
  rw [Prod.mk.injEq, toOption_eq_some] at hcome
  rw [Prod.mk.injEq, Prod.mk.injEq] at hreport
  obtain ⟨frame, id, device, hframe, hannounces⟩ :=
    Reachable.announces_added reachable_televisionBus hp hcome.1 hhandled.1
  have hname : device.name = Device.storedName "Living room speakers" := by
    obtain ⟨name, hname, hstored⟩ := hannounces.name
    rw [hcome.2, Except.ok.injEq] at hname
    rw [hstored, hname]
  have hbytes := hhandled.2
  rw [hframe, Option.map_some, Option.some.injEq] at hbytes
  exact ⟨p, p', frame, id, device, hp, hp', ⟨hreport.1, hreport.2.1.trans hname.symm, hreport.2.2⟩, hframe, hbytes,
    hannounces⟩

end Bus

end CecBus
