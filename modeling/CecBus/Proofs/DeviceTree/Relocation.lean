import CecBus.Proofs.DeviceTree.Descent

/-! Reading does not depend on where a value stands. Two sections that lead to the same value, in whichever documents and
at whichever paths, are read alike: the same devices and the same trees come out, or errors that differ in nothing but
the paths they name. Main results: `Section.SamePlace.outcome_ofSection` and `Section.SamePlace.insertSection`. -/

namespace CecBus

variable {α : Type}

/-! ### Errors without paths -/

/-- An error without the key path it names. -/
def ProfileError.pathless : ProfileError → ProfileError
  | .missing _ => .missing ""
  | .kind _ expected => .kind "" expected
  | e => e

/-- An error without the key path it names. -/
def TreeError.pathless : TreeError → TreeError
  | .profile e => .profile e.pathless
  | e => e

theorem ProfileError.mapError_optional (x : Except ProfileError α) :
    (optional x).mapError pathless = optional (x.mapError pathless) := by
  cases x with
  | ok a => rfl
  | error e => cases e <;> rfl

theorem Device.mapError_reading (x : Except ProfileError α) :
    (outcome (Device.reading x)).mapError TreeError.pathless =
      (x.mapError ProfileError.pathless).mapError TreeError.profile := by
  cases x <;> rfl

/-! ### Sections that lead to the same value -/

/-- The same value stands at both sections, or none at either. -/
def Section.SamePlace (s s' : Section) : Prop := s.profile.lookup s.path = s'.profile.lookup s'.path

namespace Section.SamePlace

variable {s s' : Section}

theorem lookup_key (h : s.SamePlace s') (name : String) :
    s.profile.lookup (s.key name) = s'.profile.lookup (s'.key name) := by
  rw [Section.key, Section.key, Profile.lookup_join, Profile.lookup_join, h]

theorem entry (h : s.SamePlace s') (name : String) : (s.entry name).SamePlace (s'.entry name) := h.lookup_key name

theorem childSection (h : s.SamePlace s') (index : Nat) :
    (DeviceTree.childSection s index).SamePlace (DeviceTree.childSection s' index) := h.entry _

/-- Entries of both are read alike, whatever their kind. -/
theorem mapError_read (h : s.SamePlace s') (kind : EntryKind) (of : Yaml.Value → Option α) (name : String) :
    (s.profile.read kind of (s.key name)).mapError ProfileError.pathless =
      (s'.profile.read kind of (s'.key name)).mapError ProfileError.pathless := by
  rw [Profile.read, Profile.read, h.lookup_key name]
  cases s'.profile.lookup (s'.key name) with
  | none => rfl
  | some value => cases hv : of value <;> simp [hv, ProfileError.pathless]

theorem mapError_text (h : s.SamePlace s') (name : String) :
    (s.text name).mapError ProfileError.pathless = (s'.text name).mapError ProfileError.pathless :=
  h.mapError_read .text Profile.textOf name

theorem mapError_text? (h : s.SamePlace s') (name : String) :
    (s.text? name).mapError ProfileError.pathless = (s'.text? name).mapError ProfileError.pathless := by
  rw [Section.text?, Section.text?, ProfileError.mapError_optional, ProfileError.mapError_optional, h.mapError_text]

theorem mapError_number? (h : s.SamePlace s') (name : String) :
    (s.number? name).mapError ProfileError.pathless = (s'.number? name).mapError ProfileError.pathless := by
  rw [Section.number?, Section.number?, ProfileError.mapError_optional, ProfileError.mapError_optional]
  exact congrArg _ (h.mapError_read .number Profile.numberOf name)

theorem mapError_flag? (h : s.SamePlace s') (name : String) :
    (s.flag? name).mapError ProfileError.pathless = (s'.flag? name).mapError ProfileError.pathless := by
  rw [Section.flag?, Section.flag?, ProfileError.mapError_optional, ProfileError.mapError_optional]
  exact congrArg _ (h.mapError_read .flag Profile.flagOf name)

theorem count (h : s.SamePlace s') (name : String) : s.count name = s'.count name := by
  rw [Section.count, Section.count, Profile.count, Profile.count, h.lookup_key]

/-! ### One device -/

theorem outcome_device (h : s.SamePlace s') : (outcome (Device.ofSection s)).mapError TreeError.pathless =
    (outcome (Device.ofSection s')).mapError TreeError.pathless := by
  simp only [Device.ofSection, mapError_outcome_bind, Device.mapError_reading, h.mapError_text, h.mapError_text?,
    h.mapError_number?, h.mapError_flag?]

theorem outcome_loadDevice (h : s.SamePlace s') : (outcome (DeviceTree.loadDevice s)).mapError TreeError.pathless =
    (outcome (DeviceTree.loadDevice s')).mapError TreeError.pathless := by
  simp only [DeviceTree.loadDevice, mapError_outcome_bind, h.outcome_device, DeviceTree.checkChildCount, h.count]

theorem loadDevice_ok (h : s.SamePlace s') {read : Device × Nat}
    (hread : outcome (DeviceTree.loadDevice s) = .ok read) : outcome (DeviceTree.loadDevice s') = .ok read := by
  have hsame := h.outcome_loadDevice
  rw [hread] at hsame
  exact mapError_eq_ok.1 hsame.symm

theorem loadDevice_error (h : s.SamePlace s') {e : TreeError} (hread : outcome (DeviceTree.loadDevice s) = .error e) :
    ∃ e', outcome (DeviceTree.loadDevice s') = .error e' ∧ e'.pathless = e.pathless := by
  have hsame := h.outcome_loadDevice
  rw [hread] at hsame
  exact mapError_eq_error.1 hsame.symm

end Section.SamePlace

/-! ### Trees -/

namespace DeviceTree

variable {s s' : Section} {t : DeviceTree} {result : Except TreeError DeviceTree}

theorem LoadsChildren.relocated {parent : DeviceId} {left index : Nat} (h : LoadsChildren parent s left index t result)
    (hs : s.SamePlace s') : ∃ result', LoadsChildren parent s' left index t result' ∧
      result'.mapError TreeError.pathless = result.mapError TreeError.pathless := by
  induction h generalizing s' with
  | done => exact ⟨_, .done, rfl⟩
  | unread hread =>
    obtain ⟨e', hread', he⟩ := (hs.childSection _).loadDevice_error hread
    exact ⟨_, .unread hread', congrArg Except.error he⟩
  | refused hread hinsert => exact ⟨_, .refused ((hs.childSection _).loadDevice_ok hread) hinsert, rfl⟩
  | deeper hread hinsert _ below_ih =>
    obtain ⟨result', hbelow', hresult⟩ := below_ih (hs.childSection _)
    obtain ⟨e', rfl, he⟩ := mapError_eq_error.1 hresult
    exact ⟨_, .deeper ((hs.childSection _).loadDevice_ok hread) hinsert hbelow', congrArg Except.error he⟩
  | beside hread hinsert _ _ below_ih beside_ih =>
    obtain ⟨below', hbelow', hbelow⟩ := below_ih (hs.childSection _)
    obtain rfl := mapError_eq_ok.1 hbelow
    obtain ⟨result', hbeside', hresult⟩ := beside_ih hs
    exact ⟨_, .beside ((hs.childSection _).loadDevice_ok hread) hinsert hbelow' hbeside', hresult⟩

theorem Loads.relocated (h : Loads s result) (hs : s.SamePlace s') : ∃ result', Loads s' result' ∧
    result'.mapError TreeError.pathless = result.mapError TreeError.pathless := by
  cases h with
  | unread hread =>
    obtain ⟨e', hread', he⟩ := hs.loadDevice_error hread
    exact ⟨_, .unread hread', congrArg Except.error he⟩
  | read hread hbelow =>
    obtain ⟨result', hbelow', hresult⟩ := hbelow.relocated hs
    exact ⟨_, .read (hs.loadDevice_ok hread) hbelow', hresult⟩

end DeviceTree

namespace Section.SamePlace

variable {s s' : Section}

/-- The same tree is read at both sections, or errors that differ in their paths only. -/
theorem outcome_ofSection (h : s.SamePlace s') : (outcome (DeviceTree.ofSection s)).mapError TreeError.pathless =
    (outcome (DeviceTree.ofSection s')).mapError TreeError.pathless := by
  obtain ⟨result', hloads, hresult⟩ := (DeviceTree.loads_ofSection s).relocated h
  rw [(DeviceTree.loads_iff s' result').1 hloads, hresult]

/-- What one section adds to a tree the other one adds as well. -/
theorem insertSection (h : s.SamePlace s') (t : DeviceTree) (parent : DeviceId) :
    (t.insertSection parent s).value.2 = (t.insertSection parent s').value.2 ∧
      (t.insertSection parent s).value.1.mapError TreeError.pathless =
        (t.insertSection parent s').value.1.mapError TreeError.pathless := by
  have hsame := h.outcome_ofSection
  simp only [DeviceTree.insertSection, Logged.value_bind, outcome_run]
  cases hread : outcome (DeviceTree.ofSection s) with
  | error e =>
    rw [hread] at hsame
    obtain ⟨e', hread', he⟩ := mapError_eq_error.1 hsame.symm
    rw [hread']
    exact ⟨rfl, congrArg Except.error he.symm⟩
  | ok staged =>
    rw [hread] at hsame
    rw [mapError_eq_ok.1 hsame.symm]
    exact ⟨rfl, rfl⟩

end Section.SamePlace

end CecBus
