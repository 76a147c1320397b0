import CecBus.Bus
import CecBus.Proofs.DeviceTree.Grafting

/-! The agreement between a tree and the pool its addresses come from. A device owns the logical address it has,
unless that is the shared one; the pool marks the owned addresses and no others. Each way in which a tree can change has
one lemma here: a device gains an address, keeps it or loses it, devices without addresses come, and whole subtrees go.
The operations on trees are then read as such changes. -/

namespace CecBus

theorem AddressPool.ext_isTaken {pool other : AddressPool} (h : ∀ a, pool.isTaken a ↔ other.isTaken a) :
    pool = other := by
  have hmarks : pool.marks = other.marks := by
    refine BitVec.eq_of_getLsbD_eq fun i hi => ?_
    have hcode : ∀ i : Fin 16, ∃ a ∈ LogicalAddress.all, a.code = i.val := by decide
    obtain ⟨a, -, ha⟩ := hcode ⟨i, hi⟩
    rw [← show a.code = i from ha]
    exact Bool.eq_iff_iff.2 (h a)
  cases pool
  cases other
  exact congrArg AddressPool.mk hmarks

/-- The logical address that a device does not share with others. -/
def Device.own? (d : Device) : Option LogicalAddress := d.logical.filter (· ≠ .broadcast)

theorem Device.own?_eq_some {d : Device} {a : LogicalAddress} :
    d.own? = some a ↔ d.logical = some a ∧ a ≠ .broadcast := by
  simp [Device.own?, Option.filter_eq_some_iff]

theorem Bus.isTaken_releaseHeld (pool : AddressPool) (d : Device) (a : LogicalAddress) :
    (releaseHeld pool d.logical).isTaken a ↔ pool.isTaken a ∧ d.own? ≠ some a := by
  cases hd : d.logical with
  | none => simp [releaseHeld, Device.own?, hd]
  | some b =>
    by_cases hb : b = .broadcast
    · subst hb
      have hown : d.own? = none := by simp [Device.own?, hd]
      simp [releaseHeld, hown]
    · have hown : d.own? = some b := Device.own?_eq_some.2 ⟨hd, hb⟩
      simp [releaseHeld, hb, hown, AddressPool.isTaken_release]

theorem Bus.isTaken_foldl_releaseHeld (pool : AddressPool) (devices : List Device) (a : LogicalAddress) :
    ((devices.map Device.logical).foldl releaseHeld pool).isTaken a ↔
      pool.isTaken a ∧ ∀ d ∈ devices, d.own? ≠ some a := by
  induction devices generalizing pool with
  | nil => simp
  | cons d rest ih =>
    rw [List.map_cons, List.foldl_cons, ih, Bus.isTaken_releaseHeld, List.forall_mem_cons, and_assoc]

namespace DeviceTree

variable {t u : DeviceTree} {pool : AddressPool} {emulated id x parent : DeviceId} {device : Device}
  {a : LogicalAddress}

def own? (t : DeviceTree) (id : DeviceId) : Option LogicalAddress := (t.device? id).bind Device.own?

/-- The pool marks what devices own, each of them alone and only what its kind may take. -/
structure Agrees (t : DeviceTree) (pool : AddressPool) : Prop where
  candidate (id : DeviceId) (device : Device) (a : LogicalAddress) :
    t.device? id = some device → device.own? = some a → a ∈ device.kind.candidates
  unique (id x : DeviceId) (a : LogicalAddress) : t.own? id = some a → t.own? x = some a → id = x
  taken_iff (a : LogicalAddress) : pool.isTaken a ↔ ∃ id, t.own? id = some a

theorem own?_update (hd : t.device? id = some device) (g : Device → Device) :
    (t.update id g).own? x = if x = id then (g device).own? else t.own? x := by
  rw [own?, device?_update]
  by_cases hx : x = id
  · subst hx
    simp [hd]
  · simp [hx, own?]

theorem device?_update_eq_some {g : Device → Device} {d : Device} (h : (t.update id g).device? x = some d) :
    ∃ e, t.device? x = some e ∧ d = if x = id then g e else e := by
  rw [device?_update, Option.map_eq_some_iff] at h
  obtain ⟨e, he, rfl⟩ := h
  exact ⟨e, he, rfl⟩

namespace Agrees

/-! ### A device gains, keeps or loses an address -/

/-- A device changes in its place: what it owns afterwards must be for its kind and not be owned by another. -/
theorem change (h : t.Agrees pool) (hd : t.device? id = some device) {g : Device → Device} {pool' : AddressPool}
    (hcandidate : ∀ a, (g device).own? = some a → a ∈ (g device).kind.candidates)
    (halone : ∀ a x, (g device).own? = some a → t.own? x = some a → x = id)
    (htaken : ∀ a, pool'.isTaken a ↔ (g device).own? = some a ∨ ∃ x, x ≠ id ∧ t.own? x = some a) :
    (t.update id g).Agrees pool' := by
  refine ⟨fun x d a hx ha => ?_, fun x y a hx hy => ?_, fun a => ?_⟩
  · obtain ⟨e, he, rfl⟩ := device?_update_eq_some hx
    by_cases hxi : x = id
    · subst hxi
      rw [hd] at he
      cases he
      rw [if_pos rfl] at ha ⊢
      exact hcandidate a ha
    · rw [if_neg hxi] at ha ⊢
      exact h.candidate x e a he ha
  · rw [own?_update hd] at hx hy
    by_cases hxi : x = id <;> by_cases hyi : y = id
    · rw [hxi, hyi]
    · rw [if_pos hxi] at hx
      rw [if_neg hyi] at hy
      rw [hxi, halone a y hx hy]
    · rw [if_neg hxi] at hx
      rw [if_pos hyi] at hy
      rw [hyi, halone a x hy hx]
    · rw [if_neg hxi] at hx
      rw [if_neg hyi] at hy
      exact h.unique x y a hx hy
  · rw [htaken]
    constructor
    · rintro (hown | ⟨x, hxi, hx⟩)
      · exact ⟨id, by rw [own?_update hd, if_pos rfl, hown]⟩
      · exact ⟨x, by rw [own?_update hd, if_neg hxi, hx]⟩
    · rintro ⟨x, hx⟩
      rw [own?_update hd] at hx
      by_cases hxi : x = id
      · rw [if_pos hxi] at hx
        exact .inl hx
      · rw [if_neg hxi] at hx
        exact .inr ⟨x, hxi, hx⟩

theorem keep (h : t.Agrees pool) (hd : t.device? id = some device) {g : Device → Device}
    (hkind : (g device).kind = device.kind) (hown : (g device).own? = device.own?) :
    (t.update id g).Agrees pool := by
  have hid : t.own? id = (g device).own? := by rw [own?, hd, hown]; rfl
  refine h.change hd (fun a ha => ?_) (fun a x ha hx => h.unique x id a hx (hid ▸ ha)) fun a => ?_
  · rw [hkind]
    exact h.candidate id device a hd (hown ▸ ha)
  · rw [h.taken_iff, ← hid]
    constructor
    · rintro ⟨x, hx⟩
      by_cases hxi : x = id
      · exact .inl (hxi ▸ hx)
      · exact .inr ⟨x, hxi, hx⟩
    · rintro (hx | ⟨x, -, hx⟩)
      · exact ⟨id, hx⟩
      · exact ⟨x, hx⟩

theorem gain (h : t.Agrees pool) (hd : t.device? id = some device) (hnone : device.own? = none)
    {g : Device → Device} (hown : (g device).own? = some a) (hcandidate : a ∈ (g device).kind.candidates)
    (hfree : pool.isTaken a = false) : (t.update id g).Agrees (pool.mark a) := by
  have hid : t.own? id = none := by rw [own?, hd]; exact hnone
  refine h.change hd (fun b hb => ?_) (fun b x hb hx => ?_) fun b => ?_
  · rw [hown] at hb
    cases hb
    exact hcandidate
  · rw [hown] at hb
    cases hb
    have htaken := (h.taken_iff a).2 ⟨x, hx⟩
    rw [hfree] at htaken
    cases htaken
  · rw [AddressPool.isTaken_mark, Bool.or_eq_true, h.taken_iff, decide_eq_true_iff, hown, Option.some_inj, or_comm]
    refine or_congr_right ⟨fun ⟨x, hx⟩ => ⟨x, fun hxi => ?_, hx⟩, fun ⟨x, _, hx⟩ => ⟨x, hx⟩⟩
    rw [hxi, hid] at hx
    cases hx

theorem lose (h : t.Agrees pool) (hd : t.device? id = some device) {g : Device → Device}
    (hnone : (g device).own? = none) : (t.update id g).Agrees (Bus.releaseHeld pool device.logical) := by
  have hid : t.own? id = device.own? := by rw [own?, hd]; rfl
  refine h.change hd (fun b hb => ?_) (fun b x hb => ?_) fun b => ?_
  · rw [hnone] at hb
    cases hb
  · rw [hnone] at hb
    cases hb
  · rw [Bus.isTaken_releaseHeld, h.taken_iff, hnone, ← hid]
    constructor
    · rintro ⟨⟨x, hx⟩, hne⟩
      exact .inr ⟨x, fun hxi => hne (hxi ▸ hx), hx⟩
    · rintro (hb | ⟨x, hxi, hx⟩)
      · cases hb
      · exact ⟨⟨x, hx⟩, fun hb => hxi (h.unique x id b hx hb)⟩

/-! ### Devices come and go -/

/-- Devices that own nothing and subtrees that own nothing any more do not matter. -/
theorem attach (h : t.Agrees pool) (hlisted : VacantListed t) (hp : t.isLive parent) (hnone : device.own? = none) :
    (t.attach parent device).Agrees pool := by
  have hview := fun x => device?_attach (x := x) hlisted hp device
  have hnew : t.device? t.nextId = none := by rw [device?, node?_nextId hlisted]; rfl
  have hsame : ∀ x, (t.attach parent device).own? x = t.own? x := by
    intro x
    rw [own?, hview, own?]
    by_cases hx : x = t.nextId
    · rw [if_pos hx, hx, hnew]
      exact hnone
    · rw [if_neg hx]
  refine ⟨fun x d a hx ha => ?_, fun x y a hx hy => ?_, fun a => ?_⟩
  · rw [hview] at hx
    by_cases hxn : x = t.nextId
    · rw [if_pos hxn] at hx
      cases hx
      rw [hnone] at ha
      cases ha
    · rw [if_neg hxn] at hx
      exact h.candidate x d a hx ha
  · rw [hsame] at hx hy
    exact h.unique x y a hx hy
  · simp only [hsame]
    exact h.taken_iff a

/-- When devices go and nothing else changes, their addresses are free again. -/
theorem discard (h : t.Agrees pool) {gone : List DeviceId} {removed : List Device}
    (hremoved : removed = gone.filterMap t.device?)
    (hview : ∀ x, u.device? x = if x ∈ gone then none else t.device? x) :
    u.Agrees ((removed.map Device.logical).foldl Bus.releaseHeld pool) := by
  have hown : ∀ x, u.own? x = if x ∈ gone then none else t.own? x := by
    intro x
    rw [own?, hview]
    split <;> rfl
  refine ⟨fun x d a hx ha => ?_, fun x y a hx hy => ?_, fun a => ?_⟩
  · rw [hview, Option.ite_none_left_eq_some] at hx
    exact h.candidate x d a hx.2 ha
  · rw [hown, Option.ite_none_left_eq_some] at hx hy
    exact h.unique x y a hx.2 hy.2
  · rw [Bus.isTaken_foldl_releaseHeld, h.taken_iff]
    constructor
    · rintro ⟨⟨x, hx⟩, hfree⟩
      refine ⟨x, ?_⟩
      rw [hown, if_neg, hx]
      intro hgone
      obtain ⟨d, hd, hda⟩ := Option.bind_eq_some_iff.1 hx
      exact hfree d (by rw [hremoved]; exact List.mem_filterMap.2 ⟨x, hgone, hd⟩) hda
    · rintro ⟨x, hx⟩
      rw [hown, Option.ite_none_left_eq_some] at hx
      refine ⟨⟨x, hx.2⟩, fun d hmem hda => ?_⟩
      rw [hremoved] at hmem
      obtain ⟨y, hgone, hd⟩ := List.mem_filterMap.1 hmem
      have hy : t.own? y = some a := by rw [own?, hd]; exact hda
      exact hx.1 (h.unique x y a hx.2 hy ▸ hgone)

end Agrees

/-! ### Giving addresses to a tree -/

theorem own?_addressed (place : PhysicalAddress) : (addressed place a device).own? = some a ↔ a ≠ .broadcast := by
  rw [Device.own?_eq_some]
  simp [addressed]

theorem Agrees.given (h : t.Agrees pool) (hd : t.device? id = some device) {waits : Bool} {pool' : AddressPool}
    (hg : Given device waits pool a pool') (place : PhysicalAddress) : (t.update id (addressed place a)).Agrees pool' := by
  have hnone : device.logical = none → device.own? = none := fun hl => by rw [Device.own?, hl]; rfl
  cases hg with
  | kept hl =>
    refine h.keep hd rfl ?_
    rw [Device.own?, Device.own?, hl]
    rfl
  | waiting hl _ => exact h.keep hd rfl (hnone hl).symm
  | drawn hl _ hf =>
    obtain ⟨hcandidate, hne, hfree⟩ := AddressPool.firstFree?_eq_some hf
    exact h.gain hd (hnone hl) ((own?_addressed place).2 hne) hcandidate hfree
  | spent hl _ _ => exact h.keep hd rfl (hnone hl).symm

theorem Agrees.assignAddresses (h : t.Agrees pool) :
    (t.assignAddresses emulated pool).value.1.Agrees (t.assignAddresses emulated pool).value.2 := by
  refine assignAddresses_preserves (P := fun u pool => u.Agrees pool) (fun u pool id node hu hn => ?_) h
  have hd : u.device? id = some node.device := device?_of_node? hn
  exact hu.given hd (given_logicalFor node.device (u.waits emulated id) pool) (u.placeOf node)

/-! ### Devices read from documents -/

def Unaddressed (t : DeviceTree) : Prop := ∀ id device, t.device? id = some device → device.logical = none

/-- What is known of every device that is read is known of every device of a tree that is loaded. -/
theorem forall_device_ofSection {P : Device → Prop} (hP : ∀ device, IsRead device → P device) {s : Section}
    (h : outcome (ofSection s) = .ok t) : ∀ id device, t.device? id = some device → P device := by
  have hboth : t.WellFormed ∧ ∀ id device, t.device? id = some device → P device := by
    refine ofSection_preserves (P := fun u => u.WellFormed ∧ ∀ id device, u.device? id = some device → P device)
      (fun device declared hread => ?_) (fun u parent device id v hread hu hi => ⟨hu.1.insert hi, ?_⟩) h
    · refine ⟨wellFormed_single device, fun id d hd => ?_⟩
      have hmem := (shows_single device).device?_eq_some_iff.1 hd
      cases List.mem_singleton.1 hmem
      exact hP device ⟨s, declared, hread⟩
    · obtain ⟨hlive, -, -, rfl⟩ := insert_eq_ok.1 hi
      intro x d hd
      rw [device?_attach hu.1.listed hlive] at hd
      by_cases hx : x = u.nextId
      · rw [if_pos hx] at hd
        cases hd
        exact hP device hread
      · rw [if_neg hx] at hd
        exact hu.2 x d hd
  exact hboth.2

/-- It stays known when a document is added to a tree, whether that succeeds or not. -/
theorem forall_device_insertSection {P : Device → Prop} (hP : ∀ device, IsRead device → P device) (ht : t.WellFormed)
    (h : ∀ id device, t.device? id = some device → P device) (parent : DeviceId) (s : Section) :
    ∀ id device, (t.insertSection parent s).value.2.device? id = some device → P device := by
  have hboth : (t.insertSection parent s).value.2.WellFormed ∧
      ∀ id device, (t.insertSection parent s).value.2.device? id = some device → P device := by
    refine insertSection_preserves (P := fun u => u.WellFormed ∧ ∀ id device, u.device? id = some device → P device)
      (fun staged u original parent device id v hs hd hu hi => ⟨hu.1.insert hi, ?_⟩) ⟨ht, h⟩
    obtain ⟨hlive, -, -, rfl⟩ := insert_eq_ok.1 hi
    intro x d hx
    rw [device?_attach hu.1.listed hlive] at hx
    by_cases hxn : x = u.nextId
    · rw [if_pos hxn] at hx
      cases hx
      exact forall_device_ofSection hP hs original device hd
    · rw [if_neg hxn] at hx
      exact hu.2 x d hx
  exact hboth.2

theorem unaddressed_ofSection {s : Section} (h : outcome (ofSection s) = .ok t) : t.Unaddressed :=
  forall_device_ofSection (fun _ hread => hread.logical_eq_none) h

theorem Unaddressed.agrees (h : t.Unaddressed) : t.Agrees .empty := by
  have hnone : ∀ id device, t.device? id = some device → device.own? = none := by
    intro id device hd
    rw [Device.own?, h id device hd]
    rfl
  have hown : ∀ id, t.own? id = none := by
    intro id
    cases hd : t.device? id with
    | none => rw [own?, hd]; rfl
    | some device => rw [own?, hd]; exact hnone id device hd
  refine ⟨fun id device a hd ha => ?_, fun id x a hid => ?_, fun a => ?_⟩
  · rw [hnone id device hd] at ha
    cases ha
  · rw [hown] at hid
    cases hid
  · simp [AddressPool.isTaken_empty, hown]

theorem Agrees.insertSection (h : t.Agrees pool) (ht : t.WellFormed) (parent : DeviceId) (s : Section) :
    (t.insertSection parent s).value.2.Agrees pool := by
  have hboth : (t.insertSection parent s).value.2.WellFormed ∧ (t.insertSection parent s).value.2.Agrees pool := by
    refine insertSection_preserves (P := fun u => u.WellFormed ∧ u.Agrees pool)
      (fun staged u original parent device id v hs hd hu hi => ⟨hu.1.insert hi, ?_⟩) ⟨ht, h⟩
    obtain ⟨hlive, -, -, rfl⟩ := insert_eq_ok.1 hi
    refine hu.2.attach hu.1.listed hlive ?_
    rw [Device.own?, unaddressed_ofSection hs original device hd]
    rfl
  exact hboth.2

end DeviceTree

end CecBus
