import CecBus.Bus.Claim
import CecBus.Proofs.Bus.Agreement
import CecBus.Proofs.Bus.Handling

/-! The logical addresses on a bus. `Sound` is what opening establishes and every message and every claim preserves:
the tree is well formed, it agrees with the pool, every device has an address, and the emulated device is there and owns
no more than it may claim. Main result: `Reachable.addressesAgree`. -/

namespace CecBus

namespace Bus

variable {b : Bus}

/-- The invariant of a bus. -/
structure Sound (b : Bus) : Prop where
  wellFormed : b.tree.WellFormed
  agrees : b.tree.Agrees b.pool
  hasAddress (id : DeviceId) : b.tree.HasAddress id
  emulated : ∃ device, b.emulatedDevice? = some device ∧
    (device.kind = .tv → device.own? = none ∨ device.own? = some .tv)

/-! ### Opening -/

theorem assignAddresses_value :
    b.assignAddresses.value =
      { b with
        tree := (b.tree.assignAddresses b.emulated b.pool).value.1.update b.emulated atRootIfTv
        pool := (b.tree.assignAddresses b.emulated b.pool).value.2 } := rfl

theorem logical_atRootIfTv (device : Device) : (atRootIfTv device).logical = device.logical := by
  unfold atRootIfTv
  split <;> rfl

theorem readdressed_atRootIfTv (device : Device) : device.Readdressed (atRootIfTv device) where
  rest := by
    unfold atRootIfTv
    split <;> rfl
  logical a h := by rwa [logical_atRootIfTv]

/-- Nothing but addresses changes when they are given. -/
theorem readdressed_assignAddresses (b : Bus) : b.tree.Readdressed b.assignAddresses.value.tree := by
  rw [assignAddresses_value]
  exact (DeviceTree.readdressed_assignAddresses b.tree b.emulated b.pool).trans
    (.update fun device _ => readdressed_atRootIfTv device)

/-- Giving addresses to all devices makes a bus sound, but for what the emulated device may own. -/
theorem assignAddresses_spec (hw : b.tree.WellFormed) (ha : b.tree.Agrees b.pool) (hlive : b.tree.isLive b.emulated) :
    b.assignAddresses.value.tree.WellFormed ∧ b.assignAddresses.value.tree.Agrees b.assignAddresses.value.pool ∧
      (∀ id, b.assignAddresses.value.tree.HasAddress id) ∧ b.assignAddresses.value.tree.isLive b.emulated := by
  have hassigned := hw.assignAddresses b.emulated b.pool
  have hlive' := hlive
  rw [← DeviceTree.isLive_assignAddresses b.emulated b.pool] at hlive'
  obtain ⟨node, hn⟩ := Option.isSome_iff_exists.1 hlive'
  have hd : (b.tree.assignAddresses b.emulated b.pool).value.1.device? b.emulated = some node.device :=
    DeviceTree.device?_of_node? hn
  rw [assignAddresses_value]
  refine ⟨hassigned.update _ fun device => (readdressed_atRootIfTv device).name_eq,
    ha.assignAddresses.keep hd (readdressed_atRootIfTv _).kind_eq ?_, fun id d hid => ?_, ?_⟩
  · rw [Device.own?, logical_atRootIfTv, Device.own?]
  · obtain ⟨top, hshows, -⟩ := hw
    obtain ⟨e, he, rfl⟩ := DeviceTree.device?_update_eq_some hid
    have hsome := hshows.hasAddress_assignAddresses e he
    split
    · rwa [logical_atRootIfTv]
    · exact hsome
  · rw [DeviceTree.isLive_update]
    exact hlive'

/-- The bus of a description before a television gives its address up. -/
def assigned (setup : Setup) (emulated : DeviceId) : Bus :=
  ({ tree := setup.tree, emulated, ports := setup.ports : Bus }.assignAddresses).value

theorem ofSetup_eq_some {setup : Setup} :
    (ofSetup setup).value = some b ↔ ∃ emulated device, setup.tree.find? setup.emulated = some emulated ∧
      (assigned setup emulated).emulatedDevice? = some device ∧
      b = if device.kind = .tv then (assigned setup emulated).startUnclaimed device else assigned setup emulated := by
  unfold ofSetup
  cases hf : setup.tree.find? setup.emulated with
  | none => simp
  | some emulated =>
    have hassigned : ({ tree := setup.tree, emulated, ports := setup.ports : Bus }.assignAddresses).value =
        assigned setup emulated := rfl
    simp only [Logged.value_bind, Option.some.injEq, exists_and_left, exists_eq_left', hassigned]
    cases hd : (assigned setup emulated).emulatedDevice? with
    | none => simp
    | some device =>
      by_cases hk : device.kind = .tv
      · simp [hk, eq_comm]
      · simp [hk, Ne.symm hk, eq_comm]

theorem isSome_ofSetup {setup : Setup} (hw : setup.tree.WellFormed) (hu : setup.tree.Unaddressed)
    (h : (setup.tree.find? setup.emulated).isSome) : (ofSetup setup).value.isSome := by
  obtain ⟨emulated, hf⟩ := Option.isSome_iff_exists.1 h
  have hlive := hw.isLive_of_find? hf
  obtain ⟨-, -, -, hlive⟩ :=
    assignAddresses_spec (b := { tree := setup.tree, emulated, ports := setup.ports }) hw hu.agrees hlive
  obtain ⟨node, hn⟩ := Option.isSome_iff_exists.1 hlive
  have hd : (assigned setup emulated).emulatedDevice? = some node.device := by
    change ((assigned setup emulated).tree.node? emulated).map DeviceNode.device = _
    rw [assigned, hn]
    rfl
  rw [ofSetup_eq_some.2 ⟨emulated, node.device, hf, hd, rfl⟩]
  rfl

theorem Sound.ofSetup {setup : Setup} (hw : setup.tree.WellFormed) (hu : setup.tree.Unaddressed)
    (h : (ofSetup setup).value = some b) : b.Sound := by
  obtain ⟨emulated, device, hf, hd, rfl⟩ := ofSetup_eq_some.1 h
  have hlive := hw.isLive_of_find? hf
  obtain ⟨hwell, hagrees, haddress, -⟩ :=
    assignAddresses_spec (b := { tree := setup.tree, emulated, ports := setup.ports }) hw hu.agrees hlive
  by_cases hk : device.kind = .tv
  · rw [if_pos hk]
    let unclaimed := fun d : Device => { d with logical := some .broadcast }
    refine ⟨hwell.update unclaimed fun _ => rfl, hagrees.lose (g := unclaimed) hd rfl, fun id d hid => ?_, ?_⟩
    · obtain ⟨e, he, rfl⟩ := DeviceTree.device?_update_eq_some hid
      split
      · rfl
      · exact haddress id e he
    · refine ⟨{ device with logical := some .broadcast }, ?_, fun _ => .inl rfl⟩
      simp only [emulatedDevice?, startUnclaimed, updateEmulated, DeviceTree.device?_update]
      rw [emulatedDevice?] at hd
      rw [hd]
      simp
  · rw [if_neg hk]
    exact ⟨hwell, hagrees, haddress, device, hd, fun h => absurd h hk⟩

/-! ### Messages -/

theorem Sound.assignAddresses (hw : b.tree.WellFormed) (ha : b.tree.Agrees b.pool) {device : Device}
    (hd : b.emulatedDevice? = some device) (hsome : device.logical.isSome)
    (hclaim : device.kind = .tv → device.own? = none ∨ device.own? = some .tv) : b.assignAddresses.value.Sound := by
  obtain ⟨hwell, hagrees, haddress, -⟩ := assignAddresses_spec hw ha (DeviceTree.isLive_of_device? hd)
  refine ⟨hwell, hagrees, haddress, ?_⟩
  obtain ⟨a, hlogical⟩ := Option.isSome_iff_exists.1 hsome
  obtain ⟨d, hd', hkept⟩ := (readdressed_assignAddresses b).device? hd
  refine ⟨d, hkept, ?_⟩
  rw [hd'.kind_eq, Device.own?, hd'.logical a hlogical, ← hlogical, ← Device.own?]
  exact hclaim

theorem Sound.gains (h : b.Sound) {p : Profile} {parent : DeviceId} {stop : Branch (DeviceId × Device)}
    {g : DeviceTree.Layout} {tree : DeviceTree} (hg : b.Gains p parent stop g tree) :
    ({ b with tree }.assignAddresses).value.Sound := by
  have hagrees := h.agrees.insertSection h.wellFormed parent (addedSection p)
  obtain ⟨device, hd, hclaim⟩ := h.emulated
  rw [hg.inserted] at hagrees
  exact Sound.assignAddresses (b := { b with tree }) hg.wellFormed hagrees (hg.gained.device? hd)
    (h.hasAddress _ device hd) hclaim

/-- The emulated device is not removed. -/
theorem emulatedDevice?_removeDevice (hw : b.tree.WellFormed) {p : Profile} {b' : Bus}
    (hr : outcome (b.removeDevice p) = .ok b') : b'.emulatedDevice? = b.emulatedDevice? := by
  obtain ⟨id, removed, tree, hf, hwithin, hremove, rfl⟩ := removeDevice_eq_ok.1 hr
  have hstays : b.emulated ∉ b.tree.members id := by
    have hlive := hw.isLive_of_find? hf
    obtain ⟨top, hshows, -⟩ := hw
    rw [hshows.mem_members_iff hlive, hwithin]
    exact Bool.false_ne_true
  rw [emulatedDevice?, hw.device?_removeSubtree hremove, if_neg hstays, emulatedDevice?]

theorem Sound.removeDevice (h : b.Sound) {p : Profile} {b' : Bus} (hr : outcome (b.removeDevice p) = .ok b') :
    b'.Sound := by
  have hstays := emulatedDevice?_removeDevice h.wellFormed hr
  obtain ⟨id, removed, tree, -, -, hremove, rfl⟩ := removeDevice_eq_ok.1 hr
  have hremoved := (h.wellFormed.removeSubtree_spec hremove).1
  have hview := h.wellFormed.device?_removeSubtree hremove
  refine ⟨h.wellFormed.removeSubtree hremove, h.agrees.discard hremoved hview, fun x d hx => ?_, ?_⟩
  · rw [hview, Option.ite_none_left_eq_some] at hx
    exact h.hasAddress x d hx.2
  · rw [hstays]
    exact h.emulated

theorem Sound.handle (h : b.Sound) (kind : MessageKind) (payload : ByteArray) :
    (b.handle kind payload).value.2.Sound :=
  handle_preserves h.wellFormed h (fun _ _ _ _ _ hg => h.gains hg) (fun _ _ hr => h.removeDevice hr) kind payload

/-! ### Claims -/

theorem outcome_checkClaim (device : Device) (address : LogicalAddress) :
    outcome (checkClaim device address) =
      if device.kind = .tv ∧ address = .tv then .ok () else .error .invalidArgument := by
  unfold checkClaim
  by_cases hk : device.kind = .tv <;> by_cases ha : address = .tv <;> simp [hk, ha, outcome_bind, Except.bind]

theorem outcome_claim {device : Device} (hd : b.emulatedDevice? = some device) (address : LogicalAddress) :
    outcome (b.claim address) =
      if device.kind = .tv ∧ address = .tv then
        if device.logical = some .tv then .ok b
        else if b.pool.isTaken .tv then .error .addressUnavailable
        else .ok (b.setLogical .tv (b.pool.mark .tv))
      else .error .invalidArgument := by
  have hcheck := outcome_checkClaim device address
  by_cases hc : device.kind = .tv ∧ address = .tv
  · rw [if_pos hc] at hcheck ⊢
    obtain ⟨-, rfl⟩ := hc
    by_cases hl : device.logical = some .tv
    · simp [Bus.claim, Bus.device, hd, outcome_bind, hcheck, Except.bind, hl]
    · cases ht : b.pool.isTaken .tv <;>
        simp [Bus.claim, Bus.device, hd, outcome_bind, hcheck, Except.bind, hl, AddressPool.reserve, ht]
  · rw [if_neg hc] at hcheck ⊢
    simp [Bus.claim, Bus.device, hd, outcome_bind, hcheck, Except.bind]

theorem outcome_unclaim {device : Device} (hd : b.emulatedDevice? = some device) (address : LogicalAddress) :
    outcome (b.unclaim address) =
      if device.kind = .tv ∧ address = .tv then
        match device.own? with
        | some current => .ok (b.setLogical .broadcast (b.pool.release current))
        | none => .error .alreadyRemoved
      else .error .invalidArgument := by
  have hcheck := outcome_checkClaim device address
  by_cases hc : device.kind = .tv ∧ address = .tv
  · rw [if_pos hc] at hcheck ⊢
    cases hl : device.logical with
    | none => simp [Bus.unclaim, Bus.device, hd, outcome_bind, hcheck, Except.bind, hl, Device.own?]
    | some a =>
      by_cases ha : a = .broadcast
      · have hown : device.own? = none := by simp [Device.own?, hl, ha]
        simp [Bus.unclaim, Bus.device, hd, outcome_bind, hcheck, Except.bind, hl, ha, hown]
      · have hown : device.own? = some a := Device.own?_eq_some.2 ⟨hl, ha⟩
        simp [Bus.unclaim, Bus.device, hd, outcome_bind, hcheck, Except.bind, hl, ha, hown]
  · rw [if_neg hc] at hcheck ⊢
    simp [Bus.unclaim, Bus.device, hd, outcome_bind, hcheck, Except.bind]

/-- A claim that succeeds finds the address taken by the emulated television already, or takes it while it is
free. -/
theorem claim_eq_ok {address : LogicalAddress} {b' : Bus} :
    outcome (b.claim address) = .ok b' ↔ ∃ device, b.emulatedDevice? = some device ∧ device.kind = .tv ∧ address = .tv ∧
      (device.logical = some .tv ∧ b' = b ∨
        device.logical ≠ some .tv ∧ b.pool.isTaken .tv = false ∧ b' = b.setLogical .tv (b.pool.mark .tv)) := by
  cases hd : b.emulatedDevice? with
  | none => simp [Bus.claim, Bus.device, hd]
  | some device =>
    rw [outcome_claim hd]
    by_cases hc : device.kind = .tv ∧ address = .tv
    · by_cases hl : device.logical = some .tv
      · simp [hc, hl, @eq_comm Bus b']
      · cases b.pool.isTaken .tv <;> simp [hc, hl, @eq_comm Bus b']
    · rw [if_neg hc]
      simpa using fun hk ha => absurd ⟨hk, ha⟩ hc

theorem unclaim_eq_ok {address : LogicalAddress} {b' : Bus} :
    outcome (b.unclaim address) = .ok b' ↔ ∃ device current, b.emulatedDevice? = some device ∧ device.kind = .tv ∧
      address = .tv ∧ device.own? = some current ∧ b' = b.setLogical .broadcast (b.pool.release current) := by
  cases hd : b.emulatedDevice? with
  | none => simp [Bus.unclaim, Bus.device, hd]
  | some device =>
    rw [outcome_unclaim hd]
    by_cases hc : device.kind = .tv ∧ address = .tv
    · cases ho : device.own? <;> simp [hc, ho, @eq_comm Bus b']
    · rw [if_neg hc]
      simpa using fun hk ha => absurd ⟨hk, ha⟩ hc

theorem emulatedDevice?_setLogical {device : Device} (hd : b.emulatedDevice? = some device) (address : LogicalAddress)
    (pool : AddressPool) :
    (b.setLogical address pool).emulatedDevice? = some { device with logical := some address } := by
  rw [emulatedDevice?] at hd
  simp [emulatedDevice?, Bus.setLogical, updateEmulated, DeviceTree.device?_update, hd]

theorem Sound.setLogical (h : b.Sound) {address : LogicalAddress} {pool : AddressPool} {device : Device}
    (hd : b.emulatedDevice? = some device) (hclaim : address = .broadcast ∨ address = .tv)
    (hagrees : (b.setLogical address pool).tree.Agrees pool) : (b.setLogical address pool).Sound := by
  refine ⟨h.wellFormed.update (fun d => { d with logical := some address }) fun _ => rfl, hagrees,
    fun id d hid => ?_, _, emulatedDevice?_setLogical hd address pool, fun _ => ?_⟩
  · obtain ⟨e, he, rfl⟩ := DeviceTree.device?_update_eq_some hid
    split
    · rfl
    · exact h.hasAddress id e he
  · rcases hclaim with rfl | rfl
    · exact .inl rfl
    · exact .inr rfl

theorem Sound.claim (h : b.Sound) {address : LogicalAddress} {b' : Bus} (hc : outcome (b.claim address) = .ok b') :
    b'.Sound := by
  obtain ⟨device, hd, hkind, rfl, ⟨-, rfl⟩ | ⟨hne, hfree, rfl⟩⟩ := claim_eq_ok.1 hc
  · exact h
  · refine h.setLogical hd (.inr rfl) ?_
    obtain ⟨device', hd', hclaim⟩ := h.emulated
    rw [hd] at hd'
    cases hd'
    have hnone : device.own? = none := by
      refine (hclaim hkind).resolve_right fun hown => hne ?_
      exact (Device.own?_eq_some.1 hown).1
    exact h.agrees.gain hd hnone (g := fun d => { d with logical := some .tv }) rfl (by rw [hkind]; decide) hfree

theorem Sound.unclaim (h : b.Sound) {address : LogicalAddress} {b' : Bus}
    (hc : outcome (b.unclaim address) = .ok b') : b'.Sound := by
  obtain ⟨device, current, hd, -, -, hown, rfl⟩ := unclaim_eq_ok.1 hc
  refine h.setLogical hd (.inl rfl) ?_
  obtain ⟨hlogical, hne⟩ := Device.own?_eq_some.1 hown
  have hlost := h.agrees.lose hd (g := fun d => { d with logical := some .broadcast }) rfl
  rwa [hlogical, releaseHeld, if_neg hne] at hlost

/-! ### The buses that can be reached -/

/-- What an accepted profile says: its device map could be read, and the emulated device is in it. -/
theorem setup_of_ofProfile {p : Profile} {setup : Setup} (h : outcome (Setup.ofProfile p) = .ok setup) :
    outcome (DeviceTree.ofSection ⟨p, Setup.mapPath⟩) = .ok setup.tree ∧
      (setup.tree.find? setup.emulated).isSome := by
  simp only [Setup.ofProfile, outcome_bind_eq_ok] at h
  obtain ⟨emulated, -, declared, -, h⟩ := h
  split at h
  · simp at h
  · simp only [outcome_bind_eq_ok, outcome_adapt, mapError_eq_ok] at h
    obtain ⟨-, -, -, -, ports, -, tree, htree, h⟩ := h
    split at h
    · simp at h
    · next hfound =>
      have hsetup : setup.tree = tree ∧ setup.emulated = emulated := by
        split at h
        · simp only [outcome_bind_eq_ok, outcome_pure, Except.ok.injEq] at h
          obtain ⟨-, -, rfl⟩ := h
          exact ⟨rfl, rfl⟩
        · rw [outcome_pure] at h
          cases h
          exact ⟨rfl, rfl⟩
      rw [hsetup.1, hsetup.2]
      exact ⟨htree, by simpa [Option.isSome_iff_ne_none] using hfound⟩

theorem isSome_ofSetup_of_ofProfile {p : Profile} {setup : Setup} (h : outcome (Setup.ofProfile p) = .ok setup) :
    (ofSetup setup).value.isSome := by
  obtain ⟨hread, hfound⟩ := setup_of_ofProfile h
  exact isSome_ofSetup (.ofSection hread) (DeviceTree.unaddressed_ofSection hread) hfound

/-- A bus that opening makes of an accepted profile, or that messages and claims lead to from there. A message that
fails is handled all the same; a claim that fails leaves the bus as it is. -/
inductive Reachable : Bus → Prop
  | opened {p : Profile} {setup : Setup} {b : Bus} (hp : outcome (Setup.ofProfile p) = .ok setup)
      (hb : (ofSetup setup).value = some b) : Reachable b
  | handle {b : Bus} (h : Reachable b) (kind : MessageKind) (payload : ByteArray) :
      Reachable (b.handle kind payload).value.2
  | claim {b b' : Bus} (h : Reachable b) {address : LogicalAddress} (hc : outcome (b.claim address) = .ok b') :
      Reachable b'
  | unclaim {b b' : Bus} (h : Reachable b) {address : LogicalAddress} (hc : outcome (b.unclaim address) = .ok b') :
      Reachable b'

theorem Reachable.sound (h : b.Reachable) : b.Sound := by
  induction h with
  | opened hp hb =>
    have hread := (setup_of_ofProfile hp).1
    exact .ofSetup (.ofSection hread) (DeviceTree.unaddressed_ofSection hread) hb
  | handle _ kind payload ih => exact ih.handle kind payload
  | claim _ hc ih => exact ih.claim hc
  | unclaim _ hc ih => exact ih.unclaim hc

/-- The addresses of the devices and the marks of the pool agree. -/
structure AddressesAgree (b : Bus) : Prop where
  assigned (id : DeviceId) (device : Device) : b.tree.device? id = some device → ∃ a, device.logical = some a
  candidate (id : DeviceId) (device : Device) (a : LogicalAddress) : b.tree.device? id = some device →
    device.logical = some a → a ≠ .broadcast → a ∈ device.kind.candidates
  unique (id x : DeviceId) (device other : Device) (a : LogicalAddress) : b.tree.device? id = some device →
    b.tree.device? x = some other → device.logical = some a → other.logical = some a → a ≠ .broadcast → id = x
  marked (a : LogicalAddress) : a ≠ .broadcast →
    (b.pool.isTaken a ↔ ∃ id device, b.tree.device? id = some device ∧ device.logical = some a)
  shared : b.pool.isTaken .broadcast = false

theorem own?_of_logical {id : DeviceId} {device : Device} {a : LogicalAddress} {t : DeviceTree}
    (hd : t.device? id = some device) (hl : device.logical = some a) (ha : a ≠ .broadcast) : t.own? id = some a := by
  rw [DeviceTree.own?, hd]
  exact Device.own?_eq_some.2 ⟨hl, ha⟩

theorem exists_of_own? {id : DeviceId} {a : LogicalAddress} {t : DeviceTree} (h : t.own? id = some a) :
    ∃ device, t.device? id = some device ∧ device.logical = some a ∧ a ≠ .broadcast := by
  obtain ⟨device, hd, hown⟩ := Option.bind_eq_some_iff.1 h
  exact ⟨device, hd, Device.own?_eq_some.1 hown⟩

theorem addressesAgree_of_sound (h : b.Sound) : b.AddressesAgree where
  assigned id device hd := Option.isSome_iff_exists.1 (h.hasAddress id device hd)
  candidate id device a hd hl ha := h.agrees.candidate id device a hd (Device.own?_eq_some.2 ⟨hl, ha⟩)
  unique id x device other a hd hx hl hlx ha :=
    h.agrees.unique id x a (own?_of_logical hd hl ha) (own?_of_logical hx hlx ha)
  marked a ha := by
    rw [h.agrees.taken_iff]
    constructor
    · rintro ⟨id, hid⟩
      obtain ⟨device, hd, hl, -⟩ := exists_of_own? hid
      exact ⟨id, device, hd, hl⟩
    · rintro ⟨id, device, hd, hl⟩
      exact ⟨id, own?_of_logical hd hl ha⟩
  shared := by
    rw [Bool.eq_false_iff]
    intro htaken
    obtain ⟨id, hid⟩ := (h.agrees.taken_iff _).1 htaken
    obtain ⟨device, -, -, hne⟩ := exists_of_own? hid
    exact hne rfl

/-- On every reachable bus the addresses of the devices and the marks of the pool agree. -/
theorem Reachable.addressesAgree (h : b.Reachable) : b.AddressesAgree := addressesAgree_of_sound h.sound

/-- A profile with an emulated television and a player at its first port. -/
def televisionProfile : Profile :=
  let player := .mapping [(.string "name", .string "Player"), (.string "type", .string "PlaybackDevice"),
    (.string "port_id", .integer 1)]
  let television := .mapping [(.string "name", .string "TV"), (.string "type", .string "TV"),
    (.string "number_children", .integer 1), (.string "children", .mapping [(.integer 0, player)])]
  ⟨.mapping [(.string "hdmicec", .mapping [(.string "emulated_device", .string "TV"),
    (.string "number_devices", .integer 2), (.string "device_map", .mapping [(.integer 0, television)])])]⟩

/-- What the profile says. -/
def televisionSetup : Setup where
  emulated := "TV"
  declaredDevices := 2
  ports := []
  tree := ((DeviceTree.single (Device.named "TV" .tv)).attach ⟨0, 0⟩ { Device.named "Player" .playback with port := 1 })

/-- The bus on which the television has claimed its address. -/
def televisionBus : Bus :=
  let opened := (assigned televisionSetup ⟨0, 0⟩).startUnclaimed (Device.named "TV" .tv)
  opened.setLogical .tv (opened.pool.mark .tv)

theorem ofProfile_televisionProfile : outcome (Setup.ofProfile televisionProfile) = .ok televisionSetup := by
  decide +kernel

def openedTelevisionBus : Bus := (assigned televisionSetup ⟨0, 0⟩).startUnclaimed (Device.named "TV" .tv)

theorem ofSetup_televisionSetup : (ofSetup televisionSetup).value = some openedTelevisionBus := by decide +kernel

theorem reachable_televisionBus : televisionBus.Reachable := by
  have hclaimed : outcome (openedTelevisionBus.claim .tv) = .ok televisionBus := by decide +kernel
  exact .claim (.opened ofProfile_televisionProfile ofSetup_televisionSetup) hclaimed

theorem televisionBus_addressesAgree :
    televisionBus.pool.taken = [.tv, .playbackDevice1] ∧ televisionBus.AddressesAgree :=
  ⟨by decide +kernel, Reachable.addressesAgree reachable_televisionBus⟩

end Bus

end CecBus
