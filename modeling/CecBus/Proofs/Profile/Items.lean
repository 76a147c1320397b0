import CecBus.Proofs.Outcome
import CecBus.Proofs.Profile.KeyPath
import CecBus.Proofs.Text.Numeral
import CecBus.Setup

/-! Items of sequences. A path behind the one of a sequence finds the items up to the length of the sequence, whatever
tags stand around it. Counting does not look through tags, so the items of a tagged sequence are found and not counted.
Main results: `itemsAddressed`, when the two agree, and `exists_item_uncounted`. -/

namespace CecBus

def Yaml.Value.untagged : Yaml.Value → Yaml.Value
  | .tagged _ value => value.untagged
  | value => value

namespace KeyPath

theorem step_untagged (name : String) (value : Yaml.Value) : step name value.untagged = step name value := by
  fun_induction Yaml.Value.untagged value with
  | case1 tag value ih => rw [ih, step]
  | case2 => rfl

theorem step_item (i : Nat) (items : List Yaml.Value) :
    step (toString i) (.sequence items) = if i < UInt64.size then items[i]? else none := by
  rw [step, Numeral.word?_toString]
  split <;> rfl

end KeyPath

namespace Profile

variable {p : Profile} {key : String} {value : Yaml.Value} {items : List Yaml.Value}

/-- An index that fits into a word leads to the item there, also through tags. -/
theorem lookup_item (hvalue : p.lookup key = some value) (hitems : value.untagged = .sequence items) (i : Nat) :
    p.lookup (key ++ "/" ++ toString i) = if i < UInt64.size then items[i]? else none := by
  have hbelow : p.lookup (key ++ "/" ++ toString i) = (p.lookup key).bind (KeyPath.follow · [toString i]) := by
    rw [lookup, KeyPath.names_item, KeyPath.follow_append, lookup]
  rw [hbelow, hvalue, Option.bind_some, KeyPath.follow_cons, ← KeyPath.step_untagged, hitems, KeyPath.step_item]
  exact Option.bind_fun_some _

theorem contains_item (hvalue : p.lookup key = some value) (hitems : value.untagged = .sequence items) (i : Nat) :
    p.contains (key ++ "/" ++ toString i) = true ↔ i < items.length ∧ i < UInt64.size := by
  rw [contains, lookup_item hvalue hitems]
  split <;> simp [*]

/-- The items of a sequence are counted if there is no tag around it. -/
theorem count_items (hvalue : p.lookup key = some value) (hitems : value.untagged = .sequence items) :
    (value = .sequence items ∧ p.count key = items.length) ∨ (value ≠ .sequence items ∧ p.count key = 0) := by
  rw [count, hvalue, Option.map_some, Option.getD_some]
  cases value with
  | tagged tag value => exact .inr ⟨by simp, rfl⟩
  | sequence =>
    cases hitems
    exact .inl ⟨rfl, rfl⟩
  | _ => cases hitems

/-- How the items of a sequence are found, how many are counted, and when the one goes with the other: if there is no
tag around the sequence, or no item in it. -/
structure ItemsAddressed (p : Profile) (key : String) (value : Yaml.Value) (items : List Yaml.Value) : Prop where
  contains_iff (i : Nat) : p.contains (key ++ "/" ++ toString i) = true ↔ i < items.length ∧ i < UInt64.size
  counted : value = .sequence items → p.count key = items.length
  uncounted : value ≠ .sequence items → p.count key = 0
  agree_iff : (∀ i < UInt64.size, p.contains (key ++ "/" ++ toString i) = true ↔ i < p.count key) ↔
    value = .sequence items ∨ items = []

/-- The items of every sequence, whatever tags stand around it. -/
theorem itemsAddressed (hvalue : p.lookup key = some value) (hitems : value.untagged = .sequence items) :
    p.ItemsAddressed key value items := by
  have hcontains := contains_item hvalue hitems
  rcases count_items hvalue hitems with ⟨hbare, hcount⟩ | ⟨htagged, hcount⟩
  · refine ⟨hcontains, fun _ => hcount, fun hne => absurd hbare hne, iff_of_true (fun i hi => ?_) (.inl hbare)⟩
    rw [hcontains, hcount, and_iff_left hi]
  · refine ⟨hcontains, fun heq => absurd heq htagged, fun _ => hcount, ?_⟩
    simp only [hcontains, hcount, Nat.not_lt_zero, iff_false, htagged, false_or]
    constructor
    · intro hnone
      by_contra hne
      exact hnone 0 (by decide) ⟨List.length_pos_iff.2 hne, by decide⟩
    · rintro rfl i - ⟨hlt, -⟩
      exact Nat.not_lt_zero i hlt

def onePort : List Yaml.Value := [.mapping [(.string "id", .integer 1), (.string "type", .string "in")]]

/-- A profile of a television whose list of ports has a tag. -/
def taggedPortsProfile : Profile :=
  let television := .mapping [(.string "name", .string "TV"), (.string "type", .string "TV")]
  ⟨.mapping [(.string "hdmicec", .mapping [(.string "emulated_device", .string "TV"),
    (.string "number_devices", .integer 1), (.string "ports", .tagged "inputs" (.sequence onePort)),
    (.string "device_map", .mapping [(.integer 0, television)])])]⟩

theorem lookup_taggedPorts :
    taggedPortsProfile.lookup "hdmicec/ports" = some (.tagged "inputs" (.sequence onePort)) := rfl

theorem taggedPorts_itemsAddressed : (Yaml.Value.tagged "inputs" (.sequence onePort)).untagged = .sequence onePort ∧
    taggedPortsProfile.ItemsAddressed "hdmicec/ports" (.tagged "inputs" (.sequence onePort)) onePort :=
  ⟨rfl, itemsAddressed lookup_taggedPorts rfl⟩

/-- An item that is found and not counted. It is a port, and the set-up that is read from the profile has none. -/
theorem exists_item_uncounted : ∃ (p : Profile) (key : String) (value : Yaml.Value) (items : List Yaml.Value),
    p.lookup key = some value ∧ value.untagged = .sequence items ∧ p.contains (key ++ "/" ++ toString 0) = true ∧
      ¬ 0 < p.count key ∧ ∃ setup, outcome (Setup.ofProfile p) = .ok setup ∧ setup.ports = [] := by
  refine ⟨taggedPortsProfile, "hdmicec/ports", _, onePort, lookup_taggedPorts, rfl, by decide +kernel,
    by decide +kernel, { emulated := "TV", declaredDevices := 1, ports := [], tree := .single (.named "TV" .tv) }, ?_, rfl⟩
  decide +kernel

end Profile

end CecBus
