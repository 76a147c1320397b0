import CecBus.DeviceTree.Loading
import CecBus.Proofs.DeviceTree.Change
import CecBus.Proofs.Outcome

/-! Loading a document and grafting a staged tree are single insertions one after the other. What an insertion of a
device preserves is therefore preserved by both, and what is known of every device read from a document is known of
every device that loading puts into a tree. -/

namespace CecBus.DeviceTree

variable {t u : DeviceTree} {id parent : DeviceId} {top : Branch (DeviceId × Device)}

theorem insert_eq_ok {device : Device} :
    t.insert parent device = .ok (id, u) ↔
      t.isLive parent ∧ t.find? device.name = none ∧ id = t.nextId ∧ u = t.attach parent device := by
  unfold insert
  cases hl : t.isLive parent with
  | false => simp
  | true => cases hf : t.find? device.name <;> simp [eq_comm]

/-- A device is read when its section can be and lists as many children as it declares. -/
theorem loadDevice_eq_ok {s : Section} {device : Device} {declared : Nat} :
    outcome (loadDevice s) = .ok (device, declared) ↔
      outcome (Device.ofSection s) = .ok (device, declared) ∧ s.count "children" = declared := by
  simp only [loadDevice, outcome_bind_eq_ok, outcome_pure, outcome_liftM_except, checkChildCount]
  constructor
  · rintro ⟨⟨read, n⟩, hread, _, hcheck, hpure⟩
    cases hpure
    refine ⟨hread, ?_⟩
    by_contra hne
    rw [if_neg hne] at hcheck
    cases hcheck
  · rintro ⟨hread, hcount⟩
    exact ⟨_, hread, (), by rw [if_pos hcount], rfl⟩

def IsRead (device : Device) : Prop := ∃ s declared, outcome (loadDevice s) = .ok (device, declared)

theorem logical_of_ofSection {s : Section} {device : Device} {declared : Nat} :
    outcome (Device.ofSection s) = .ok (device, declared) → device.logical = none := by
  simp only [Device.ofSection, outcome_bind_eq_ok, outcome_pure, Except.ok.injEq, Prod.mk.injEq,
    forall_exists_index, and_imp]
  intros
  rename_i hdevice _
  rw [← hdevice]

/-- A device is read without addresses. -/
theorem IsRead.logical_eq_none {device : Device} (h : IsRead device) : device.logical = none := by
  obtain ⟨s, declared, h⟩ := h
  exact logical_of_ofSection (loadDevice_eq_ok.1 h).1

/-! ### Loading -/

section Loading

variable {P : DeviceTree → Prop}

theorem loadChildren_preserves {below : DeviceId → Section → Nat → DeviceTree → Attempt TreeError DeviceTree}
    (hinsert : ∀ t parent device id u, IsRead device → P t → t.insert parent device = .ok (id, u) → P u)
    (hbelow : ∀ id s declared t u, P t → outcome (below id s declared t) = .ok u → P u) (s : Section) :
    ∀ left index t u, P t → outcome (loadChildren below parent s left index t) = .ok u → P u := by
  intro left
  induction left with
  | zero =>
    intro index t u ht h
    rw [loadChildren, outcome_pure] at h
    cases h
    exact ht
  | succ left ih =>
    intro index t u ht h
    simp only [loadChildren, outcome_bind_eq_ok] at h
    obtain ⟨⟨device, declared⟩, hread, ⟨id, v⟩, hinserted, w, hloaded, hrest⟩ := h
    have hv : P v := hinsert t parent device id v ⟨_, _, hread⟩ ht hinserted
    exact ih _ _ _ (hbelow _ _ _ _ _ hv hloaded) hrest

theorem loadBelow_preserves
    (hinsert : ∀ t parent device id u, IsRead device → P t → t.insert parent device = .ok (id, u) → P u) :
    ∀ depth parent s declared t u, P t → outcome (loadBelow depth parent s declared t) = .ok u → P u := by
  intro depth
  induction depth with
  | zero =>
    intro parent s declared t u ht h
    rw [loadBelow, outcome_pure] at h
    cases h
    exact ht
  | succ depth ih =>
    intro parent s declared t u ht h
    rw [loadBelow] at h
    exact loadChildren_preserves hinsert (fun id s declared t u => ih id s declared t u) s _ _ _ _ ht h

/-- What holds of a tree of the first device that was read, and is preserved by insertions of others, holds of every tree
that is read from a document. -/
theorem ofSection_preserves {s : Section}
    (hsingle : ∀ device declared, outcome (loadDevice s) = .ok (device, declared) → P (single device))
    (hinsert : ∀ t parent device id u, IsRead device → P t → t.insert parent device = .ok (id, u) → P u)
    (h : outcome (ofSection s) = .ok t) : P t := by
  simp only [ofSection, outcome_bind_eq_ok] at h
  obtain ⟨⟨device, declared⟩, hread, u, hloaded, -, -, ht⟩ := h
  rw [outcome_pure] at ht
  cases ht
  exact loadBelow_preserves hinsert _ _ _ _ _ _ (hsingle _ _ hread) hloaded

end Loading

/-! ### Grafting -/

section Grafting

variable {P : DeviceTree → Prop} {staged : DeviceTree}

theorem graftAll_preserves {graft : DeviceId → DeviceId → DeviceTree → Except TreeError DeviceId × DeviceTree}
    (hgraft : ∀ original parent t, P t → P (graft original parent t).2) (parent : DeviceId)
    (originals : List DeviceId) (ht : P t) : P (graftAll graft parent originals t).2 := by
  induction originals generalizing t with
  | nil => exact ht
  | cons original rest ih =>
    have hstep := hgraft original parent t ht
    rw [graftAll]
    split
    · next h => rw [h] at hstep; exact hstep
    · next h => rw [h] at hstep; exact ih hstep

theorem graft_preserves
    (hinsert : ∀ t original parent device id u, staged.device? original = some device → P t →
      t.insert parent device = .ok (id, u) → P u) :
    ∀ depth original parent t, P t → P (graft staged depth original parent t).2 := by
  intro depth
  induction depth with
  | zero => exact fun _ _ _ ht => ht
  | succ depth ih =>
    intro original parent t ht
    rw [graft]
    cases hd : staged.device? original with
    | none => exact ht
    | some device =>
      dsimp only
      cases hi : t.insert parent device with
      | error e => exact ht
      | ok result =>
        obtain ⟨id, u⟩ := result
        have hu : P u := hinsert _ _ _ _ _ _ hd ht hi
        have hall := graftAll_preserves (fun o p v hv => ih o p v hv) id (staged.children original) hu
        dsimp only
        split
        · next h => rw [h] at hall; exact hall
        · next h => rw [h] at hall; exact hall

/-- What insertions of staged devices preserve is preserved when a document is added, whether that succeeds or
not. -/
theorem insertSection_preserves {s : Section}
    (hinsert : ∀ staged t original parent device id u, outcome (ofSection s) = .ok staged →
      staged.device? original = some device → P t → t.insert parent device = .ok (id, u) → P u)
    (ht : P t) : P (t.insertSection parent s).value.2 := by
  rw [insertSection, Logged.value_bind, outcome_run]
  cases hs : outcome (ofSection s) with
  | error e => exact ht
  | ok staged =>
    dsimp only
    split
    · exact ht
    · split
      · exact ht
      · exact graft_preserves (fun t original parent device id u => hinsert staged t original parent device id u hs)
          _ _ _ _ ht

end Grafting

end CecBus.DeviceTree
