import CecBus.Bus.Handling
import CecBus.Proofs.DeviceTree.Grafting
import CecBus.Proofs.DeviceTree.Placement

/-! What a message can do to a bus, said once. It leaves the bus as it is, or it adds what its document says and gives
addresses to all devices, or it removes a subtree and gives the addresses there back. Later modules derive what messages
preserve from `apply_cases` and never open the handling again. -/

namespace CecBus.Bus

variable {b : Bus}

/-! ### Adding devices -/

/-- The section in which a message says which devices are added. -/
def addedSection (p : Profile) : Section := ⟨p, p.fieldPath "parameters"⟩

/-- A message has the tree of a bus gain a copy of a staged tree below the parent it names. -/
structure Gains (b : Bus) (p : Profile) (parent : DeviceId) (stop : Branch (DeviceId × Device))
    (g : DeviceTree.Layout) (tree : DeviceTree) : Prop where
  found : b.tree.find? (p.field "parameters/parent") = some parent
  free : b.isFull parent = false
  inserted : (b.tree.insertSection parent (addedSection p)).value = (.ok b.tree.nextId, tree)
  read : ∃ staged, outcome (DeviceTree.ofSection (addedSection p)) = .ok staged ∧ staged.Shows stop
  live : b.tree.isLive parent
  wellFormed : tree.WellFormed
  gained : b.tree.Gained tree parent (.cons (b.tree.nextId, stop.value.2) g .nil)
  copy : g.map Prod.snd = stop.below.map Prod.snd

theorem addDevice_of_isFull {p : Profile} {parent : DeviceId}
    (hf : b.tree.find? (p.field "parameters/parent") = some parent) (hfull : b.isFull parent) :
    (b.addDevice p).value = (.error .noFreePort, b) := by
  simp only [addDevice, hf, hfull, if_true, Logged.value_pure]

theorem addDevice_of_free {p : Profile} {parent : DeviceId}
    (hf : b.tree.find? (p.field "parameters/parent") = some parent) (hfree : b.isFull parent = false) :
    (b.addDevice p).value = match (b.tree.insertSection parent (addedSection p)).value with
      | (.error e, tree) => (.error (.notAdded e), { b with tree })
      | (.ok id, tree) => (.ok (({ b with tree }.assignAddresses).value.announce id).value,
          ({ b with tree }.assignAddresses).value) := by
  simp only [addDevice, hf, hfree, Bool.false_eq_true, if_false, Logged.value_bind, addedSection]
  cases (b.tree.insertSection parent ⟨p, p.fieldPath "parameters"⟩).value with
  | mk result tree => cases result <;> rfl

/-- Adding devices fails and leaves the bus as it is, or the tree has gained them and all devices have addresses. -/
theorem addDevice_cases (h : b.tree.WellFormed) (p : Profile) :
    (∃ fault, (b.addDevice p).value = (.error fault, b)) ∨
      ∃ parent stop g tree, b.Gains p parent stop g tree ∧
        (b.addDevice p).value =
          (.ok (({ b with tree }.assignAddresses).value.announce b.tree.nextId).value,
            ({ b with tree }.assignAddresses).value) := by
  cases hf : b.tree.find? (p.field "parameters/parent") with
  | none => exact .inl ⟨.unknownParent (p.field "parameters/parent"), by simp only [addDevice, hf, Logged.value_pure]⟩
  | some parent =>
    cases hfull : b.isFull parent with
    | true => exact .inl ⟨.noFreePort, addDevice_of_isFull hf hfull⟩
    | false =>
      rw [addDevice_of_free hf hfull]
      rcases DeviceTree.insertSection_cases h.isTree parent (addedSection p) with
        ⟨e, hi⟩ | ⟨staged, stop, tree, g, hread, hstaged, -, hlive, hi, hgained, hcopy⟩
      · rw [hi]
        exact .inl ⟨.notAdded e, rfl⟩
      · have hwell := h.insertSection parent (addedSection p)
        rw [hi] at hwell ⊢
        exact .inr ⟨parent, stop, g, tree, ⟨hf, hfull, hi, ⟨staged, hread, hstaged⟩, hlive, hwell, hgained, hcopy⟩, rfl⟩

/-! ### Removing devices -/

theorem removeDevice_eq_ok {p : Profile} {b' : Bus} :
    outcome (b.removeDevice p) = .ok b' ↔ ∃ id removed tree, b.tree.find? (p.field "parameters/name") = some id ∧
      b.tree.isWithin b.emulated id = false ∧ outcome (b.tree.removeSubtree id) = .ok (removed, tree) ∧
      b' = { b with tree, pool := (removed.map Device.logical).foldl releaseHeld b.pool } := by
  unfold Bus.removeDevice
  dsimp only
  cases b.tree.find? (p.field "parameters/name") with
  | none => simp
  | some id =>
    cases hwithin : b.tree.isWithin b.emulated id with
    | true => simp [hwithin]
    | false =>
      simp only [hwithin, Bool.false_eq_true, if_false, outcome_bind_eq_ok, outcome_adapt, mapError_eq_ok,
        outcome_pure, outcome_report, Except.ok.injEq, Option.some.injEq, exists_and_left, exists_eq_left',
        Prod.exists, exists_const, true_and, @eq_comm Bus b']

/-! ### Every message -/

theorem value_orKeep (x : Attempt MessageFault (Option Frame × Bus)) :
    (b.orKeep x).value = match outcome x with
      | .ok (frame, b') => (.ok frame, b')
      | .error fault => (.error fault, b) := by
  rw [orKeep, Logged.value_bind, outcome_run]
  cases outcome x <;> rfl

/-- A state message leaves the bus as it is, or devices come, or devices go. -/
theorem changeState_cases (h : b.tree.WellFormed) (p : Profile) :
    (b.changeState p).value.2 = b ∨
      (p.field "state" = "AddDevice" ∧ ∃ parent stop g tree, b.Gains p parent stop g tree ∧
        (b.changeState p).value =
          (.ok (({ b with tree }.assignAddresses).value.announce b.tree.nextId).value,
            ({ b with tree }.assignAddresses).value)) ∨
      (p.field "state" = "RemoveDevice" ∧ ∃ b', outcome (b.removeDevice p) = .ok b' ∧
        (b.changeState p).value = (.ok none, b')) := by
  unfold changeState
  split
  · next hstate =>
    rcases addDevice_cases h p with ⟨fault, hadd⟩ | ⟨parent, stop, g, tree, hgains, hadd⟩
    · rw [hadd]
      exact .inl rfl
    · exact .inr (.inl ⟨hstate, parent, stop, g, tree, hgains, hadd⟩)
  · next hstate =>
    rw [value_orKeep, outcome_bind]
    cases hr : outcome (b.removeDevice p) with
    | error fault => exact .inl rfl
    | ok b' => exact .inr (.inr ⟨hstate, b', rfl, rfl⟩)
  · exact .inl rfl
  · exact .inl rfl

theorem apply_of_ok {kind : MessageKind} {payload : ByteArray} {p : Profile} (hp : Profile.ofBytes payload = .ok p) :
    b.apply kind payload = b.applyDocument kind p := by
  rw [Bus.apply, hp]

theorem apply_addDevice {payload : ByteArray} {p : Profile} (hp : Profile.ofBytes payload = .ok p)
    (hstate : p.field "state" = "AddDevice") : (b.apply .state payload).value = (b.addDevice p).value := by
  simp only [apply_of_ok hp, applyDocument, changeState, hstate]

/-- A message that asks for a removal comes to it: the bus stays as it is unless the removal succeeds. -/
theorem apply_removeDevice {payload : ByteArray} {p : Profile} (hp : Profile.ofBytes payload = .ok p)
    (hstate : p.field "state" = "RemoveDevice") : (b.apply .state payload).value = match outcome (b.removeDevice p) with
      | .ok b' => (.ok none, b')
      | .error fault => (.error fault, b) := by
  simp only [apply_of_ok hp, applyDocument, changeState, hstate, value_orKeep, outcome_bind]
  cases outcome (b.removeDevice p) <;> rfl

theorem bus_apply_of_ne_state {kind : MessageKind} (hkind : kind ≠ .state) (payload : ByteArray) :
    (b.apply kind payload).value.2 = b := by
  cases hp : Profile.ofBytes payload with
  | error e => rw [Bus.apply, hp, Logged.value_pure]
  | ok p =>
    rw [apply_of_ok hp]
    cases kind with
    | command =>
      simp only [applyDocument, value_orKeep]
      split
      · next hr =>
        simp only [outcome_bind_eq_ok, outcome_pure, Except.ok.injEq, Prod.mk.injEq] at hr
        obtain ⟨frame, -, -, -, -, rfl⟩ := hr
        rfl
      · rfl
    | state => exact absurd rfl hkind
    | event => rfl
    | config => rfl

/-- What a message can do: nothing, or it is a state message and devices come or go. -/
theorem apply_cases (h : b.tree.WellFormed) (kind : MessageKind) (payload : ByteArray) :
    (b.apply kind payload).value.2 = b ∨ ∃ p, kind = .state ∧ Profile.ofBytes payload = .ok p ∧
      ((p.field "state" = "AddDevice" ∧ ∃ parent stop g tree, b.Gains p parent stop g tree ∧
          (b.apply kind payload).value =
            (.ok (({ b with tree }.assignAddresses).value.announce b.tree.nextId).value,
              ({ b with tree }.assignAddresses).value)) ∨
        (p.field "state" = "RemoveDevice" ∧ ∃ b', outcome (b.removeDevice p) = .ok b' ∧
          (b.apply kind payload).value = (.ok none, b'))) := by
  by_cases hkind : kind = .state
  · subst hkind
    cases hp : Profile.ofBytes payload with
    | error e => exact .inl (by rw [Bus.apply, hp, Logged.value_pure])
    | ok p =>
      rw [apply_of_ok hp]
      rcases changeState_cases h p with hsame | hcome | hgo
      · exact .inl hsame
      · exact .inr ⟨p, rfl, rfl, .inl hcome⟩
      · exact .inr ⟨p, rfl, rfl, .inr hgo⟩
  · exact .inl (bus_apply_of_ne_state hkind payload)

theorem value_handle (kind : MessageKind) (payload : ByteArray) : (b.handle kind payload).value =
    ((b.apply kind payload).value.1.toOption.join, (b.apply kind payload).value.2) := by
  rw [Bus.handle, Logged.value_bind]
  cases (b.apply kind payload).value with
  | mk result b' => cases result <;> rfl

theorem bus_handle (kind : MessageKind) (payload : ByteArray) :
    (b.handle kind payload).value.2 = (b.apply kind payload).value.2 := by
  rw [value_handle]

/-- What handling a document comes to: the frame that goes out, if any, and the bus afterwards. -/
def handled (b : Bus) (kind : MessageKind) (p : Profile) : Option Frame × Bus :=
  ((b.applyDocument kind p).value.1.toOption.join, (b.applyDocument kind p).value.2)

theorem value_handle_of_ok {kind : MessageKind} {payload : ByteArray} {p : Profile}
    (hp : Profile.ofBytes payload = .ok p) : (b.handle kind payload).value = b.handled kind p := by
  rw [value_handle, apply_of_ok hp, handled]

/-- What every addition and every removal preserves is preserved when a message is handled. -/
theorem handle_preserves {P : Bus → Prop} (h : b.tree.WellFormed) (hb : P b)
    (hadd : ∀ p parent stop g tree, b.Gains p parent stop g tree → P ({ b with tree }.assignAddresses).value)
    (hremove : ∀ p b', outcome (b.removeDevice p) = .ok b' → P b') (kind : MessageKind) (payload : ByteArray) :
    P (b.handle kind payload).value.2 := by
  rw [bus_handle]
  rcases apply_cases h kind payload with hsame | ⟨p, -, -, ⟨-, parent, stop, g, tree, hgains, hv⟩ | ⟨-, b', hr, hv⟩⟩
  · rw [hsame]
    exact hb
  · rw [hv]
    exact hadd p parent stop g tree hgains
  · rw [hv]
    exact hremove p b' hr

end CecBus.Bus
