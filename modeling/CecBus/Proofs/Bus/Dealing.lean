import CecBus.Proofs.Bus.Incremental

/-! Addresses by position. When no device of a tree has an address yet and the pool is empty, first fit deals the
addresses of each kind in their order, because no two kinds share an address: after some devices, the addresses of a kind
that are taken are the first ones, as many as devices of the kind have drawn (`AddressPool.Serves`). Main result:
`Handled.byPosition_assignAddresses`. -/

namespace CecBus

/-- The addresses that a device of a kind may have of its own, the preferred one first. -/
def Device.Kind.shares (kind : Device.Kind) : List LogicalAddress := kind.candidates.filter (· ≠ .broadcast)

namespace Device.Kind

theorem mem_all (kind : Kind) : kind ∈ all := by
  cases kind <;> decide

theorem nodup_shares (kind : Kind) : kind.shares.Nodup := by
  cases kind <;> decide

theorem eq_of_mem_shares {kind other : Kind} {a : LogicalAddress} (h : a ∈ kind.shares) (hother : a ∈ other.shares) :
    kind = other := by
  have hdisjoint : ∀ k ∈ all, ∀ l ∈ all, ∀ a ∈ k.shares, a ∈ l.shares → k = l := by decide
  exact hdisjoint kind kind.mem_all other other.mem_all a h hother

theorem eq_of_getElem?_shares {kind other : Kind} {i j : Nat} {a : LogicalAddress} (h : kind.shares[i]? = some a)
    (hother : other.shares[j]? = some a) : kind = other ∧ i = j := by
  obtain rfl := eq_of_mem_shares (List.mem_of_getElem? h) (List.mem_of_getElem? hother)
  obtain ⟨hi, hia⟩ := List.getElem?_eq_some_iff.1 h
  obtain ⟨hj, hja⟩ := List.getElem?_eq_some_iff.1 hother
  exact ⟨rfl, (kind.nodup_shares.getElem_inj_iff).1 (hia.trans hja.symm)⟩

end Device.Kind

namespace AddressPool

variable {pool : AddressPool} {drawn drawn' : Device.Kind → Nat} {kind : Device.Kind}

theorem firstFree?_eq_find? (pool : AddressPool) (kind : Device.Kind) :
    pool.firstFree? kind = kind.shares.find? fun a => !pool.isTaken a := by
  simp only [firstFree?, Device.Kind.shares, List.find?_filter, Bool.decide_and, Bool.decide_eq_true]

/-- Of the addresses of every kind the first ones are taken, so many as have been drawn. -/
def Serves (pool : AddressPool) (drawn : Device.Kind → Nat) : Prop :=
  ∀ kind i a, kind.shares[i]? = some a → (pool.isTaken a ↔ i < drawn kind)

theorem serves_empty : empty.Serves fun _ => 0 := fun kind i a _ => by simp [isTaken_empty]

theorem Serves.firstFree?_eq (h : pool.Serves drawn) (kind : Device.Kind) :
    pool.firstFree? kind = kind.shares[drawn kind]? := by
  have hfree : ∀ i (hi : i < kind.shares.length), (!pool.isTaken kind.shares[i]) = true ↔ drawn kind ≤ i := by
    intro i hi
    rw [Bool.not_eq_true', ← Bool.not_eq_true, h kind i _ (List.getElem?_eq_getElem hi), Nat.not_lt]
  rw [firstFree?_eq_find?]
  by_cases hn : drawn kind < kind.shares.length
  · rw [List.getElem?_eq_getElem hn, List.find?_eq_some_iff_getElem]
    refine ⟨(hfree _ hn).2 (Nat.le_refl _), drawn kind, hn, rfl, fun j hj => ?_⟩
    rw [Bool.not_eq_true', ← Bool.not_eq_true, hfree j (Nat.lt_trans hj hn), Nat.not_le]
    exact hj
  · rw [List.getElem?_eq_none (Nat.not_lt.1 hn), List.find?_eq_none]
    intro a ha
    obtain ⟨i, hi, rfl⟩ := List.mem_iff_getElem.1 ha
    rw [hfree i hi, Nat.not_le]
    exact Nat.lt_of_lt_of_le hi (Nat.not_lt.1 hn)

theorem Serves.allocate (h : pool.Serves drawn) (hdrawn : ∀ k, drawn' k = drawn k + if k = kind then 1 else 0) :
    (pool.allocate kind).value.1 = (kind.shares[drawn kind]?).getD .broadcast ∧
      (pool.allocate kind).value.2.Serves drawn' := by
  rw [AddressPool.allocate, h.firstFree?_eq kind]
  cases hn : kind.shares[drawn kind]? with
  | none =>
    refine ⟨rfl, fun k i b hb => ?_⟩
    have hi := (List.getElem?_eq_some_iff.1 hb).1
    rw [Logged.value_bind, Logged.value_pure, h k i b hb, hdrawn]
    by_cases hk : k = kind
    · subst hk
      have hspent := List.getElem?_eq_none_iff.1 hn
      rw [if_pos rfl]
      omega
    · rw [if_neg hk, Nat.add_zero]
  | some a =>
    refine ⟨rfl, fun k i b hb => ?_⟩
    rw [Logged.value_bind, Logged.value_pure, isTaken_mark, Bool.or_eq_true, h k i b hb, hdrawn, decide_eq_true_iff]
    by_cases hab : a = b
    · -- The address is now taken, and it is that of no other kind.
      subst hab
      obtain ⟨rfl, rfl⟩ := Device.Kind.eq_of_getElem?_shares hn hb
      simp
    · by_cases hk : k = kind
      · subst hk
        have hi : i ≠ drawn k := by
          rintro rfl
          rw [hn] at hb
          exact hab (Option.some.inj hb)
        simp only [hab, or_false, if_true]
        omega
      · simp [hab, hk]

end AddressPool

namespace DeviceTree

variable {t u : DeviceTree} {pool : AddressPool} {emulated id x : DeviceId} {device : Device} {kind : Device.Kind}
  {ids done : List DeviceId}

/-! ### Who draws an address -/

/-- The devices of a kind, among some in their order, that draw an address: all but one that waits for its claim. -/
def drawers (t : DeviceTree) (emulated : DeviceId) (kind : Device.Kind) (ids : List DeviceId) : List DeviceId :=
  ids.filter fun id => !t.waits emulated id && (t.device? id).any (·.kind = kind)

theorem drawers_append (more : List DeviceId) :
    t.drawers emulated kind (ids ++ more) = t.drawers emulated kind ids ++ t.drawers emulated kind more :=
  List.filter_append _ _

theorem drawers_subset : t.drawers emulated kind ids ⊆ ids := List.filter_subset_self _

/-- Among some devices in their order, the k-th that draws an address of its kind has the k-th address of that kind, or
the shared one when there are not so many; and a device that waits has the shared one. -/
structure ByPosition (t : DeviceTree) (emulated : DeviceId) (ids : List DeviceId) (u : DeviceTree) : Prop where
  kth (kind : Device.Kind) (k : Nat) (id : DeviceId) : (t.drawers emulated kind ids)[k]? = some id →
    (u.device? id).bind Device.logical = some (kind.shares[k]?.getD .broadcast)
  waiting (id : DeviceId) : id ∈ ids → t.waits emulated id = true →
    (u.device? id).bind Device.logical = some .broadcast

/-! ### One device after the other -/

/-- What is true when some devices have had their turn. -/
structure Dealing (t : DeviceTree) (emulated : DeviceId) (done : List DeviceId) (u : DeviceTree) (pool : AddressPool) :
    Prop where
  root : u.root = t.root
  untouched (x : DeviceId) : x ∉ done → u.device? x = t.device? x
  byPosition : t.ByPosition emulated done u
  serves : pool.Serves fun kind => (t.drawers emulated kind done).length

theorem dealing_nil (t : DeviceTree) (emulated : DeviceId) : t.Dealing emulated [] t .empty where
  root := rfl
  untouched _ _ := rfl
  byPosition := ⟨fun kind k id h => (by simp [drawers] at h), fun id h => absurd h List.not_mem_nil⟩
  serves := AddressPool.serves_empty

theorem Dealing.turn (h : t.Dealing emulated done u pool) (hnew : id ∉ done) (hd : u.device? id = some device)
    {a : LogicalAddress} {pool' : AddressPool}
    (hkth : ∀ kind, id ∈ t.drawers emulated kind [id] →
      a = (kind.shares[(t.drawers emulated kind done).length]?).getD .broadcast)
    (hwaiting : t.waits emulated id = true → a = .broadcast)
    (hserves : pool'.Serves fun kind => (t.drawers emulated kind (done ++ [id])).length) (place : PhysicalAddress) :
    t.Dealing emulated (done ++ [id]) (u.update id (addressed place a)) pool' := by
  have hself : ((u.update id (addressed place a)).device? id).bind Device.logical = some a := by
    rw [device?_update, hd]
    simp [addressed]
  have hothers : ∀ x, x ≠ id → (u.update id (addressed place a)).device? x = u.device? x := fun x hx => by
    rw [device?_update]
    simp [hx]
  have hne : ∀ x ∈ done, x ≠ id := fun x hx he => hnew (he ▸ hx)
  refine ⟨h.root, fun x hx => ?_, ⟨fun kind k x hx => ?_, fun x hx hw => ?_⟩, hserves⟩
  · rw [List.mem_append, List.mem_singleton, not_or] at hx
    rw [hothers x hx.2, h.untouched x hx.1]
  · rw [drawers_append, List.getElem?_append] at hx
    split at hx
    · rw [hothers x (hne x (drawers_subset (List.mem_of_getElem? hx)))]
      exact h.byPosition.kth kind k x hx
    · next hk =>
      -- Behind those that have drawn there is this device alone.
      have hmem := List.mem_of_getElem? hx
      have hone := (List.getElem?_eq_some_iff.1 hx).1
      have hlength : (t.drawers emulated kind [id]).length ≤ 1 := List.length_filter_le _ _
      obtain rfl := List.mem_singleton.1 (drawers_subset hmem)
      obtain rfl : k = (t.drawers emulated kind done).length := by omega
      rw [hself, hkth kind hmem]
  · rcases List.mem_append.1 hx with hx | hx
    · rw [hothers x (hne x hx)]
      exact h.byPosition.waiting x hx hw
    · obtain rfl := List.mem_singleton.1 hx
      rw [hself, hwaiting hw]

/-- Giving addresses to one more device deals it its address. -/
theorem Dealing.assignDevice (h : t.Dealing emulated done u pool) (hnone : t.Unaddressed) (hlive : t.isLive id)
    (hnew : id ∉ done) : t.Dealing emulated (done ++ [id]) (assignDevice emulated (u, pool) id).value.1
      (assignDevice emulated (u, pool) id).value.2 := by
  obtain ⟨device, hd⟩ := exists_device?_of_isLive hlive
  have hnow := h.untouched id hnew
  rw [hd] at hnow
  obtain ⟨node, hn, rfl⟩ := Option.map_eq_some_iff.1 hnow
  have hdraws : ∀ kind, t.drawers emulated kind [id] =
      if t.waits emulated id = false ∧ node.device.kind = kind then [id] else [] := fun kind => by
    simp [drawers, hd, List.filter_cons]
  rw [assignDevice_of_some hn, waits_congr h.root, logicalFor, hnone id _ hd]
  cases hw : t.waits emulated id with
  | true =>
    -- The device waits, and the pool stays.
    have hnot : ∀ kind, t.drawers emulated kind [id] = [] := fun kind => by rw [hdraws, hw]; rfl
    have hserves : pool.Serves fun kind => (t.drawers emulated kind (done ++ [id])).length := by
      simpa only [drawers_append, hnot, List.append_nil] using h.serves
    refine h.turn hnew (device?_of_node? hn) (fun kind hmem => ?_) (fun _ => rfl) hserves _
    rw [hnot] at hmem
    cases hmem
  | false =>
    -- It draws, and one more of its kind has drawn.
    have hdrawn : ∀ kind, (t.drawers emulated kind (done ++ [id])).length =
        (t.drawers emulated kind done).length + if kind = node.device.kind then 1 else 0 := fun kind => by
      rw [drawers_append, List.length_append, hdraws, hw]
      by_cases hkind : node.device.kind = kind
      · simp [hkind]
      · simp [hkind, Ne.symm hkind]
    obtain ⟨haddress, hserves⟩ := h.serves.allocate hdrawn
    refine h.turn hnew (device?_of_node? hn) (fun kind hmem => ?_) (fun hwait => ?_) hserves _
    · rw [hdraws, hw] at hmem
      by_cases hkind : node.device.kind = kind
      · rw [← hkind]
        exact haddress
      · simp [hkind] at hmem
    · rw [hw] at hwait
      cases hwait

/-- All devices have their turn, in their order. -/
theorem Dealing.foldl_assignDevice (h : t.Dealing emulated done u pool) (hnone : t.Unaddressed)
    (hlive : ∀ id ∈ ids, t.isLive id) (hnodup : (done ++ ids).Nodup) :
    t.Dealing emulated (done ++ ids)
      (ids.foldl (fun state id => (DeviceTree.assignDevice emulated state id).value) (u, pool)).1
      (ids.foldl (fun state id => (DeviceTree.assignDevice emulated state id).value) (u, pool)).2 := by
  induction ids generalizing done u pool with
  | nil => simpa using h
  | cons id rest ih =>
    have hnew : id ∉ done := fun hmem => (List.nodup_append.1 hnodup).2.2 id hmem id List.mem_cons_self rfl
    rw [List.append_cons] at hnodup ⊢
    exact ih (h.assignDevice hnone (hlive id List.mem_cons_self) hnew)
      (fun x hx => hlive x (List.mem_cons_of_mem _ hx)) hnodup

/-! ### The whole tree -/

/-- A tree and a pool after the devices of a tree, which had no address yet, were dealt theirs in their order. -/
structure Dealt (t : DeviceTree) (emulated : DeviceId) (ids : List DeviceId) (u : DeviceTree) (pool : AddressPool) :
    Prop where
  byPosition : t.ByPosition emulated ids u
  /-- Nothing else is taken. -/
  taken_iff (a : LogicalAddress) : pool.isTaken a ↔ ∃ id, u.own? id = some a

/-- Whatever was done with a tree: if no device has a logical address, and none is taken, the devices are given theirs by
their positions among those of their kind, from the root downwards. -/
theorem Handled.byPosition_assignAddresses (h : t.Handled) (hnone : t.Unaddressed) (emulated : DeviceId) :
    ∃ top, t.Shows top ∧ t.Dealt emulated top.ids (t.assignAddresses emulated .empty).value.1
      (t.assignAddresses emulated .empty).value.2 := by
  obtain ⟨top, hshows⟩ := h.isTree
  have hlive : ∀ id ∈ top.ids, t.isLive id := fun id hid => hshows.isLive_iff.2 hid
  have hdealing := (dealing_nil t emulated).foldl_assignDevice hnone hlive hshows.nodup
  refine ⟨top, hshows, ?_, fun a => ?_⟩
  · rw [assignAddresses, Logged.value_foldlM, hshows.members_root]
    exact hdealing.byPosition
  · rw [(drawn_assignAddresses t emulated .empty).taken_iff, AddressPool.isTaken_empty]
    simp only [Bool.false_eq_true, false_or, Drew]
    refine exists_congr fun id => and_iff_right_of_imp fun hown => ?_
    obtain ⟨device, hd, -⟩ := Option.bind_eq_some_iff.1 hown
    obtain ⟨old, hold, -⟩ := (readdressed_assignAddresses t emulated .empty).exists_of_device? hd
    exact ⟨old, hold, hnone id old hold⟩

/-- A television with a player at each of four ports, and a tuner behind the first of them. -/
def fourPlayers : DeviceTree :=
  [("First", Device.Kind.playback, 0), ("Second", .playback, 0), ("Tuner", .tuner, 1), ("Third", .playback, 0),
    ("Fourth", .playback, 0)].map (fun (name, kind, above) => Operation.insert ⟨above, 0⟩ (Device.named name kind))
    |>.foldl after (single (Device.named "TV" .tv))

/-- In the walk the tuner comes before the second player, which has the second address all the same. For the fourth
there is none, and the television waits. -/
theorem fourPlayers_dealt : fourPlayers.Handled ∧ fourPlayers.Unaddressed ∧
    (∃ top, fourPlayers.Shows top ∧ fourPlayers.Dealt ⟨0, 0⟩ top.ids (fourPlayers.assignAddresses ⟨0, 0⟩ .empty).value.1
      (fourPlayers.assignAddresses ⟨0, 0⟩ .empty).value.2) ∧
    fourPlayers.drawers ⟨0, 0⟩ .playback (fourPlayers.members ⟨0, 0⟩) = [⟨1, 0⟩, ⟨2, 0⟩, ⟨4, 0⟩, ⟨5, 0⟩] ∧
    ((fourPlayers.assignAddresses ⟨0, 0⟩ .empty).value.1.slots.filterMap DeviceSlot.node).map (·.device.logical) =
      [some .broadcast, some .playbackDevice1, some .playbackDevice2, some .tuner1, some .playbackDevice3,
        some .broadcast] := by
  have hhandled : fourPlayers.Handled := .foldl_after (.single _) _
  have hnone : fourPlayers.Unaddressed := by
    intro id device hd
    obtain ⟨node, hn, rfl⟩ := Option.map_eq_some_iff.1 hd
    obtain ⟨slot, hslot, -, hnode⟩ := node?_eq_some.1 hn
    have hall : ∀ slot ∈ fourPlayers.slots, ∀ node ∈ slot.node, node.device.logical = none := by decide +kernel
    exact hall slot (List.mem_of_getElem? hslot) node hnode
  exact ⟨hhandled, hnone, Handled.byPosition_assignAddresses hhandled hnone _, by decide +kernel, by decide +kernel⟩

end DeviceTree

end CecBus
