import CecBus.Proofs.Bus.Wiring
import CecBus.Proofs.DeviceTree.Reading
import CecBus.Proofs.DeviceTree.Ungrafting
import CecBus.Proofs.Severity

/-! Removing devices undoes adding them. When addresses are given again every old device has the ones it had: its
logical address stays, and its place follows the ports above it, where nothing has changed. So the tree has gained the
new devices and nothing else, and with them go the addresses that they took. Main result:
`Reachable.remove_undoes_add`. -/

namespace CecBus

theorem Device.name_of_ofSection {s : Section} {device : Device} {declared : Nat}
    (h : outcome (ofSection s) = .ok (device, declared)) :
    ∃ name, s.text "name" = .ok name ∧ device.name = storedName name := by
  have hreading : ∀ {result : Except ProfileError String} {text}, outcome (reading result) = .ok text →
      result = .ok text := fun {result text} hr => by cases result <;> cases hr; rfl
  simp only [ofSection, outcome_bind_eq_ok, outcome_pure, Except.ok.injEq, Prod.mk.injEq] at h
  obtain ⟨name, hname, _, -, _, -, _, -, _, -, _, -, _, -, _, -, _, -, _, -, _, -, _, -, rfl, -⟩ := h
  exact ⟨name, hreading hname, rfl⟩

namespace DeviceTree

theorem root_ofSection {s : Section} {t : DeviceTree} (h : outcome (ofSection s) = .ok t) :
    ∃ device declared, outcome (Device.ofSection s) = .ok (device, declared) ∧ t.device? t.root = some device := by
  obtain ⟨top, hshows, declared, hread, -⟩ := exists_shows_of_ofSection h
  exact ⟨top.value.2, declared, (loadDevice_eq_ok.1 hread).1, by rw [hshows.root]; exact hshows.holds.device?_top⟩

end DeviceTree

namespace Bus

variable {b b' : Bus} {p : Profile} {payload : ByteArray}

/-! ### What an addition comes to -/

/-- When others have come and all addresses are given again, an old device has the ones it had. -/
theorem Reachable.device?_of_gains (h : b.Reachable) {parent : DeviceId} {stop : Branch (DeviceId × Device)}
    {g : DeviceTree.Layout} {tree : DeviceTree} (hg : b.Gains p parent stop g tree) {x : DeviceId} {device : Device}
    (hd : b.tree.device? x = some device) :
    ({ b with tree }.assignAddresses).value.tree.device? x = some device := by
  obtain ⟨place, hwired⟩ := h.exists_wiredBy
  obtain ⟨place', hwired'⟩ := exists_wiredBy_assignAddresses (b := { b with tree }) hg.wellFormed
  have hgiven := readdressed_assignAddresses { b with tree }
  obtain ⟨top, hshows, -⟩ := h.sound.wellFormed
  -- Nothing has changed on the way up from an old device.
  have hplace : place' x = place x := by
    refine hshows.place_eq hwired.along hwired'.along (fun y node hn => ?_) (DeviceTree.isLive_of_device? hd)
    have hold := hg.gained.old y (DeviceTree.isLive_of_node? hn)
    rw [hn, Option.map_some] at hold
    obtain ⟨e, he, hlive⟩ := hgiven.live y _ hold
    refine ⟨_, hlive, ?_, ?_⟩
    · by_cases hy : y = parent <;> simp [hy]
    · rw [he.port_eq]
      by_cases hy : y = parent <;> simp [hy]
  obtain ⟨e, he, hlive⟩ := hgiven.device? (hg.gained.device? hd)
  obtain ⟨a, ha⟩ := Option.isSome_iff_exists.1 (h.sound.hasAddress x device hd)
  have hphysical : e.physical = device.physical := by
    rw [hwired.held x device hd, hwired'.held x e hlive, hplace]
    simp only [IsSink, he.kind_eq]
    rfl
  rw [hlive, he.rest, hphysical, he.logical a ha, ← ha]

/-- What a bus has after an addition: the new devices with their addresses, and nothing else that is new. -/
theorem Reachable.gained_of_gains (h : b.Reachable) {parent : DeviceId} {stop : Branch (DeviceId × Device)}
    {g : DeviceTree.Layout} {tree : DeviceTree} (hg : b.Gains p parent stop g tree) :
    ∃ device g', stop.value.2.Readdressed device ∧ b.tree.Gained ({ b with tree }.assignAddresses).value.tree parent
      (.cons (b.tree.nextId, device) g' .nil) :=
  hg.gained.readdressed (readdressed_assignAddresses { b with tree }) fun _ _ hd => h.device?_of_gains hg hd

/-- A bus has what a message describes: the new devices are below the parent that the message names, and the one on top
bears the name that is stored of it. -/
structure Added (b : Bus) (p : Profile) (parent : DeviceId) (device : Device) (g : DeviceTree.Layout) (b' : Bus) :
    Prop where
  found : b.tree.find? (p.field "parameters/parent") = some parent
  live : b.tree.isLive parent
  gained : b.tree.Gained b'.tree parent (.cons (b.tree.nextId, device) g .nil)
  name : ∃ name, (addedSection p).text "name" = .ok name ∧ device.name = Device.storedName name
  emulated : b'.emulated = b.emulated

/-- An addition that reports no error: the tree gains what the message says, all devices are given addresses, and then
the device on top is announced. -/
theorem Sound.exists_gains (h : b.Sound) (hp : Profile.ofBytes payload = .ok p) (hstate : p.field "state" = "AddDevice")
    (hadd : (b.handle .state payload).failed = false) : ∃ parent stop g tree, b.Gains p parent stop g tree ∧
      (b.handle .state payload).value =
        ((({ b with tree }.assignAddresses).value.announce b.tree.nextId).value, ({ b with tree }.assignAddresses).value) := by
  have happly := apply_addDevice (b := b) hp hstate
  rcases addDevice_cases h.wellFormed p with ⟨fault, hv⟩ | ⟨parent, stop, g, tree, hg, hv⟩
  · rw [← Bool.not_eq_true, failed_handle_state, happly, hv] at hadd
    exact absurd ⟨fault, rfl⟩ hadd
  · exact ⟨parent, stop, g, tree, hg, by rw [value_handle, happly, hv]; rfl⟩

/-- An addition that reports no error: the bus has what the message describes, and the device on top is announced. -/
theorem Reachable.exists_added (h : b.Reachable) (hp : Profile.ofBytes payload = .ok p)
    (hstate : p.field "state" = "AddDevice") (hadd : (b.handle .state payload).failed = false) :
    ∃ parent device g, b.Added p parent device g (b.handle .state payload).value.2 ∧
      (b.handle .state payload).value.1 = some device.announcement := by
  obtain ⟨parent, stop, g, tree, hg, hvalue⟩ := h.sound.exists_gains hp hstate hadd
  obtain ⟨device, g', hdevice, hgained⟩ := h.gained_of_gains hg
  obtain ⟨staged, hread, hstaged⟩ := hg.read
  obtain ⟨top, declared, htop, hroot⟩ := DeviceTree.root_ofSection hread
  obtain ⟨name, hname, hstored⟩ := Device.name_of_ofSection htop
  rw [hstaged.root, hstaged.holds.device?_top, Option.some.injEq] at hroot
  have hd := DeviceTree.Holds.device?_top (b := ⟨(b.tree.nextId, device), g'⟩) hgained.held
  have hframe : (({ b with tree }.assignAddresses).value.announce b.tree.nextId).value = some device.announcement := by
    rw [announce, hd]
    rfl
  rw [hvalue]
  exact ⟨parent, device, g',
    ⟨hg.found, hg.live, hgained, ⟨name, hname, by rw [hdevice.name_eq, hroot, hstored]⟩, rfl⟩, hframe⟩

/-! ### Undoing it -/

/-- A bus on which everything that can be seen is as on another one. -/
structure Restored (b b' : Bus) : Prop where
  nodes : b.tree.SameNodes b'.tree
  overview : b'.tree.overview? = b.tree.overview?
  count : b'.tree.count = b.tree.count
  pool : b'.pool = b.pool
  emulated : b'.emulated = b.emulated
  ports : b'.ports = b.ports

theorem restored_of_sameNodes (h : b.Sound) (h' : b'.Sound) (hnodes : b.tree.SameNodes b'.tree)
    (hemulated : b'.emulated = b.emulated) (hports : b'.ports = b.ports) : b.Restored b' where
  nodes := hnodes
  overview := hnodes.overview?_eq h.wellFormed h'.wellFormed
  count := hnodes.count_eq h.wellFormed h'.wellFormed
  pool := by
    refine AddressPool.ext_isTaken fun a => ?_
    rw [h.agrees.taken_iff, h'.agrees.taken_iff]
    simp only [DeviceTree.own?, hnodes.device?_eq]
  emulated := hemulated
  ports := hports

theorem handle_removeDevice (hp : Profile.ofBytes payload = .ok p) (hstate : p.field "state" = "RemoveDevice")
    (hr : outcome (b.removeDevice p) = .ok b') :
    (b.handle .state payload).failed = false ∧ (b.handle .state payload).value.2 = b' := by
  have happly : (b.apply .state payload).value = (.ok none, b') := by rw [apply_removeDevice hp hstate, hr]
  refine ⟨?_, by rw [bus_handle, happly]⟩
  rw [← Bool.not_eq_true, failed_handle_state, happly]
  rintro ⟨fault, hfault⟩
  cases hfault

/-- An addition that reports no error is undone by the removal of the device that it has put on top. -/
theorem Reachable.remove_undoes_add (h : b.Reachable) (hp : Profile.ofBytes payload = .ok p)
    (hstate : p.field "state" = "AddDevice") (hadd : (b.handle .state payload).failed = false)
    (hb : (b.handle .state payload).value.2 = b') :
    ∃ name, (addedSection p).text "name" = .ok name ∧ ∀ payload' p', Profile.ofBytes payload' = .ok p' →
      p'.field "state" = "RemoveDevice" → p'.field "parameters/name" = Device.storedName name →
        (b'.handle .state payload').failed = false ∧ b.Restored (b'.handle .state payload').value.2 := by
  obtain ⟨parent, stop, g, tree, hg, hvalue⟩ := h.sound.exists_gains hp hstate hadd
  rw [hvalue] at hb
  change ({ b with tree }.assignAddresses).value = b' at hb
  obtain ⟨staged, hread, hstaged⟩ := hg.read
  obtain ⟨top, declared, htop, hroot⟩ := DeviceTree.root_ofSection hread
  obtain ⟨name, hname, hstored⟩ := Device.name_of_ofSection htop
  refine ⟨name, hname, fun payload' p' hp' hstate' hname' => ?_⟩
  have hsound : b'.Sound := hb ▸ h.sound.gains hg
  obtain ⟨device, g', hdevice, hgained⟩ := h.gained_of_gains hg
  rw [hb] at hgained
  -- The device on top of what came is found by its name.
  have hfound : b'.tree.find? (p'.field "parameters/name") = some b.tree.nextId := by
    have htop : top = stop.value.2 := by
      obtain ⟨hnode, -⟩ := hstaged.holds
      rw [hstaged.root, DeviceTree.device?, hnode] at hroot
      exact (Option.some.inj hroot).symm
    obtain ⟨hnode, -⟩ := hgained.held
    rw [hname', ← hstored, htop, ← hdevice.name_eq]
    exact hsound.wellFormed.find?_of_device? (DeviceTree.device?_of_node? hnode)
  -- The emulated device was there before.
  have hwithin : b'.tree.isWithin b'.emulated b.tree.nextId = false := by
    obtain ⟨e, he, -⟩ := h.sound.emulated
    have hemulated : b'.emulated = b.emulated := hb ▸ rfl
    have hnew : b'.tree.isLive b.tree.nextId := hgained.held.isLive_of_mem (by simp)
    have hmembers := hgained.mem_members_iff (x := b.emulated) h.sound.wellFormed hsound.wellFormed
    obtain ⟨top', hshows, -⟩ := hsound.wellFormed
    rw [← Bool.not_eq_true, hemulated, ← hshows.mem_members_iff hnew, hmembers]
    exact fun hm => hm.2 (DeviceTree.isLive_of_device? he)
  obtain ⟨removed, v, hremove, hnodes⟩ := hgained.exists_removeSubtree h.sound.wellFormed hsound.wellFormed
  have hr := removeDevice_eq_ok.2 ⟨_, removed, v, hfound, hwithin, hremove, rfl⟩
  obtain ⟨hquiet, hafter⟩ := handle_removeDevice hp' hstate' hr
  refine ⟨hquiet, ?_⟩
  rw [hafter]
  subst hb
  exact restored_of_sameNodes h.sound (hsound.removeDevice hr) hnodes rfl rfl

/-- A message that adds an amplifier with a tuner. The name of the amplifier is too long to be stored. -/
def amplifierComes : ByteArray :=
  ("\x7b\"state\":\"AddDevice\",\"parameters\":\x7b\"parent\":\"Player\",\"name\":\"Living room amplifier\"," ++
    "\"number_children\":\"1\",\"children\":\x7b\"0\":\x7b\"name\":\"Tuner\",\"type\":\"Tuner\"\x7d\x7d\x7d\x7d").toUTF8

def amplifierGoes : ByteArray :=
  "\x7b\"state\":\"RemoveDevice\",\"parameters\":\x7b\"name\":\"Living room amp\"\x7d\x7d".toUTF8

theorem televisionBus_restored :
    (televisionBus.handle .state amplifierComes).value.2.pool.taken = [.tv, .tuner1, .playbackDevice1] ∧
      televisionBus.Restored ((televisionBus.handle .state amplifierComes).value.2.handle .state amplifierGoes).value.2 := by
  have hcomes : (Profile.ofBytes amplifierComes).toOption.map
      (fun p => (p.field "state", ((addedSection p).text "name").toOption)) =
        some ("AddDevice", some "Living room amplifier") := by decide +kernel
  have hgoes : (Profile.ofBytes amplifierGoes).toOption.map
      (fun p => (p.field "state", p.field "parameters/name")) =
        some ("RemoveDevice", Device.storedName "Living room amplifier") := by decide +kernel
  have hhandled : (televisionBus.handle .state amplifierComes).failed = false ∧
      (televisionBus.handle .state amplifierComes).value.2.pool.taken = [.tv, .tuner1, .playbackDevice1] := by
    decide +kernel
  refine ⟨hhandled.2, ?_⟩
  cases hp : Profile.ofBytes amplifierComes with
  | error e => rw [hp] at hcomes; cases hcomes
  | ok p =>
    cases hp' : Profile.ofBytes amplifierGoes with
    | error e => rw [hp'] at hgoes; cases hgoes
    | ok p' =>
      rw [hp, Except.toOption, Option.map_some, Option.some.injEq, Prod.mk.injEq] at hcomes
      rw [hp', Except.toOption, Option.map_some, Option.some.injEq, Prod.mk.injEq] at hgoes
      obtain ⟨name, hname, hundone⟩ :=
        Reachable.remove_undoes_add reachable_televisionBus hp hcomes.1 hhandled.1 rfl
      have hsame : name = "Living room amplifier" := by
        have htext := hcomes.2
        rw [hname] at htext
        exact Option.some.inj htext
      exact (hundone amplifierGoes p' hp' hgoes.1 (hsame ▸ hgoes.2)).2

end Bus

end CecBus
