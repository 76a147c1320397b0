import CecBus.Proofs.Bus.Addresses

/-! Claims on a bus with an emulated television, as they are answered. The first address is refused while another device
holds it and granted otherwise, it can be given up while it is held, and no other address can be claimed. Messages
leave the address of the television alone. -/

namespace CecBus.Bus

variable {b : Bus} {device : Device} {address : LogicalAddress}

/-- Whether a device other than the emulated one holds an address. -/
def HeldByOther (b : Bus) (a : LogicalAddress) : Prop :=
  ∃ x device, x ≠ b.emulated ∧ b.tree.device? x = some device ∧ device.logical = some a

/-! ### What claims and messages do to the emulated device -/

/-- Reallocation does not touch an address that is there, and the emulated device is never removed. -/
theorem Sound.emulatedDevice?_handle (h : b.Sound) (hd : b.emulatedDevice? = some device) (kind : MessageKind)
    (payload : ByteArray) : ∃ d, (b.handle kind payload).value.2.emulatedDevice? = some d ∧ d.name = device.name ∧
      d.kind = device.kind ∧ d.logical = device.logical := by
  refine handle_preserves
    (P := fun b' => ∃ d, b'.emulatedDevice? = some d ∧ d.name = device.name ∧ d.kind = device.kind ∧
      d.logical = device.logical)
    h.wellFormed ⟨device, hd, rfl, rfl, rfl⟩ (fun p parent stop g tree hg => ?_) (fun p b' hr => ?_) kind payload
  · obtain ⟨a, ha⟩ := Option.isSome_iff_exists.1 (h.hasAddress _ device hd)
    obtain ⟨d, hsame, hd'⟩ := (readdressed_assignAddresses { b with tree }).device? (hg.gained.device? hd)
    exact ⟨d, hd', hsame.name_eq, hsame.kind_eq, by rw [hsame.logical a ha, ha]⟩
  · rw [emulatedDevice?_removeDevice h.wellFormed hr]
    exact ⟨device, hd, rfl, rfl, rfl⟩

/-! ### The answers -/

theorem outcome_claim_of_ne_tv (hd : b.emulatedDevice? = some device) (ha : address ≠ .tv) :
    outcome (b.claim address) = .error .invalidArgument ∧ outcome (b.unclaim address) = .error .invalidArgument :=
  ⟨by rw [outcome_claim hd, if_neg fun h => ha h.2], by rw [outcome_unclaim hd, if_neg fun h => ha h.2]⟩

/-- While the television does not hold its address, the pool knows it as taken exactly if another device holds it. -/
theorem Sound.isTaken_tv_iff (h : b.Sound) (hd : b.emulatedDevice? = some device) (hne : device.logical ≠ some .tv) :
    b.pool.isTaken .tv ↔ b.HeldByOther .tv := by
  rw [(addressesAgree_of_sound h).marked .tv (by decide)]
  constructor
  · rintro ⟨x, other, hx, hl⟩
    refine ⟨x, other, fun he => hne ?_, hx, hl⟩
    rw [he, ← emulatedDevice?, hd] at hx
    cases hx
    exact hl
  · rintro ⟨x, other, -, hx, hl⟩
    exact ⟨x, other, hx, hl⟩

theorem Sound.not_heldByOther (h : b.Sound) (hd : b.emulatedDevice? = some device) (hl : device.logical = some .tv) :
    ¬ b.HeldByOther .tv := by
  rintro ⟨x, other, hne, hx, hother⟩
  exact hne ((addressesAgree_of_sound h).unique x b.emulated other device .tv hx hd hother hl (by decide))

/-- A claim is refused while another device holds the address, and granted otherwise. -/
theorem Sound.claim_tv (h : b.Sound) (hd : b.emulatedDevice? = some device) (hk : device.kind = .tv) :
    (b.HeldByOther .tv ∧ outcome (b.claim .tv) = .error .addressUnavailable) ∨
      (¬ b.HeldByOther .tv ∧ ∃ b', outcome (b.claim .tv) = .ok b' ∧ (device.logical = some .tv → b' = b) ∧
        ∃ d, b'.emulatedDevice? = some d ∧ d.kind = .tv ∧ d.logical = some .tv) := by
  rw [outcome_claim hd, if_pos ⟨hk, rfl⟩]
  by_cases hl : device.logical = some .tv
  · exact .inr ⟨h.not_heldByOther hd hl, b, if_pos hl, fun _ => rfl, device, hd, hk, hl⟩
  · rw [if_neg hl]
    by_cases ht : b.pool.isTaken .tv
    · exact .inl ⟨(h.isTaken_tv_iff hd hl).1 ht, if_pos ht⟩
    · exact .inr ⟨fun hother => ht ((h.isTaken_tv_iff hd hl).2 hother), _, if_neg ht, fun he => absurd he hl, _,
        emulatedDevice?_setLogical hd _ _, hk, rfl⟩

theorem unclaim_tv (hd : b.emulatedDevice? = some device) (hk : device.kind = .tv)
    (hl : device.logical = some address) :
    (address = .broadcast ∧ outcome (b.unclaim .tv) = .error .alreadyRemoved) ∨
      (address ≠ .broadcast ∧ ∃ b', outcome (b.unclaim .tv) = .ok b' ∧
        ∃ d, b'.emulatedDevice? = some d ∧ d.kind = .tv ∧ d.logical = some .broadcast) := by
  rw [outcome_unclaim hd, if_pos ⟨hk, rfl⟩]
  by_cases ha : address = .broadcast
  · have hown : device.own? = none := by simp [Device.own?, hl, ha]
    rw [hown]
    exact .inl ⟨ha, rfl⟩
  · rw [Device.own?_eq_some.2 ⟨hl, ha⟩]
    exact .inr ⟨ha, _, rfl, _, emulatedDevice?_setLogical hd _ _, hk, rfl⟩

end CecBus.Bus
