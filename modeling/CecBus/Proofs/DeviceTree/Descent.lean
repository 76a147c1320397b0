import CecBus.Proofs.DeviceTree.Insertion
import CecBus.Proofs.Profile.KeyPath

/-! Loading comes to an end because a document is nested only so deep. `Loads` is loading without any bound on the
depth: a device is read and inserted, then all that is below it, then what is beside it. Every child that is declared
and listed lies deeper in the document than its parent, so there is always a result, and it is the one that the bounded
recursion gives. Main result: `loads_iff`. -/

namespace CecBus

/-! ### Depth of a document -/

namespace Yaml.Value

theorem depth_le_of_mem_items {item : Value} {items : List Value} (h : item ∈ items) :
    item.depth ≤ depth.depthOfItems items := by
  induction items with
  | nil => cases h
  | cons first rest ih =>
    rw [depth.depthOfItems]
    rcases List.mem_cons.1 h with rfl | h
    · exact Nat.le_max_left _ _
    · exact Nat.le_trans (ih h) (Nat.le_max_right _ _)

theorem depth_le_of_mem_entries {entry : Value × Value} {entries : List (Value × Value)} (h : entry ∈ entries) :
    entry.2.depth ≤ depth.depthOfEntries entries := by
  induction entries with
  | nil => cases h
  | cons first rest ih =>
    rw [depth.depthOfEntries]
    rcases List.mem_cons.1 h with rfl | h
    · exact Nat.le_max_left _ _
    · exact Nat.le_trans (ih h) (Nat.le_max_right _ _)

end Yaml.Value

namespace KeyPath

variable {value place : Yaml.Value}

theorem depth_le_of_valueOf? {entries : List (Yaml.Value × Yaml.Value)} {key : Yaml.Value}
    (h : valueOf? entries key = some place) : place.depth ≤ Yaml.Value.depth.depthOfEntries entries := by
  obtain ⟨entry, hentry, rfl⟩ := Option.map_eq_some_iff.1 h
  exact Yaml.Value.depth_le_of_mem_entries (List.mem_of_find?_eq_some hentry)

theorem depth_lt_of_step {name : String} (h : step name value = some place) : place.depth < value.depth := by
  fun_induction step name value with
  | case1 entries =>
    rw [Yaml.Value.depth, Nat.lt_succ_iff]
    rcases Option.or_eq_some_iff.1 h with h | ⟨-, h⟩
    · exact depth_le_of_valueOf? h
    · obtain ⟨n, -, h⟩ := Option.bind_eq_some_iff.1 h
      exact depth_le_of_valueOf? h
  | case2 items =>
    rw [Yaml.Value.depth, Nat.lt_succ_iff]
    obtain ⟨n, -, h⟩ := Option.bind_eq_some_iff.1 h
    exact Yaml.Value.depth_le_of_mem_items (List.mem_of_getElem? h)
  | case3 tag value ih =>
    rw [Yaml.Value.depth]
    exact ih h
  | case4 => cases h

theorem depth_le_of_follow {path : List String} (h : follow value path = some place) : place.depth ≤ value.depth := by
  induction path generalizing value with
  | nil =>
    cases h
    exact Nat.le_refl _
  | cons name rest ih =>
    rw [follow_cons, Option.bind_eq_some_iff] at h
    obtain ⟨next, hstep, hrest⟩ := h
    exact Nat.le_of_lt (Nat.lt_of_le_of_lt (ih hrest) (depth_lt_of_step hstep))

end KeyPath

namespace DeviceTree

variable {s : Section} {steps index declared : Nat}

/-- What a section leads to is nested no deeper than a bound. -/
def DepthAtMost (s : Section) (steps : Nat) : Prop := ∀ value, s.profile.lookup s.path = some value → value.depth ≤ steps

theorem depthAtMost_root (s : Section) : DepthAtMost s s.profile.root.depth := fun _ h => KeyPath.depth_le_of_follow h

theorem names_children : KeyPath.names "children" = ["children"] := by decide +kernel

theorem names_childPath (index : Nat) :
    KeyPath.names ("children/" ++ toString index) = ["children", toString index] := by
  have hslash : "children/" = "children" ++ "/" := by decide +kernel
  rw [hslash, KeyPath.names_item, names_children, List.singleton_append]

/-- Where nothing is nested no children are listed. -/
theorem DepthAtMost.count_eq_zero (h : DepthAtMost s 0) : s.count "children" = 0 := by
  have hnone : s.profile.lookup (s.key "children") = none := by
    rw [Section.key, Profile.lookup_join, Option.bind_eq_none_iff]
    intro value hvalue
    rw [names_children, KeyPath.follow_cons, Option.bind_eq_none_iff]
    intro place hplace
    have hlt := KeyPath.depth_lt_of_step hplace
    have hle := h value hvalue
    omega
  rw [Section.count, Profile.count, hnone]
  rfl

theorem DepthAtMost.childSection (h : DepthAtMost s (steps + 1)) (index : Nat) :
    DepthAtMost (childSection s index) steps := by
  intro place hplace
  obtain ⟨value, hvalue, hplace⟩ : ∃ value, s.profile.lookup s.path = some value ∧
      KeyPath.follow value (KeyPath.names ("children/" ++ toString index)) = some place := by
    rw [← Option.bind_eq_some_iff, ← Profile.lookup_join]
    exact hplace
  rw [names_childPath, KeyPath.follow_cons, Option.bind_eq_some_iff] at hplace
  obtain ⟨children, hstep, hrest⟩ := hplace
  have hlt := KeyPath.depth_lt_of_step hstep
  have hle := KeyPath.depth_le_of_follow hrest
  have hbound := h value hvalue
  omega

/-! ### Loading without a bound -/

/-- What it comes to when some children of a device are read from an index on, each with all that is below it. -/
inductive LoadsChildren : DeviceId → Section → Nat → Nat → DeviceTree → Except TreeError DeviceTree → Prop
  | done {parent s index t} : LoadsChildren parent s 0 index t (.ok t)
  | unread {parent s left index t e} (hread : outcome (loadDevice (childSection s index)) = .error e) :
    LoadsChildren parent s (left + 1) index t (.error e)
  | refused {parent s left index t device declared e}
    (hread : outcome (loadDevice (childSection s index)) = .ok (device, declared))
    (hinsert : t.insert parent device = .error e) : LoadsChildren parent s (left + 1) index t (.error e)
  | deeper {parent s left index t device declared id u e}
    (hread : outcome (loadDevice (childSection s index)) = .ok (device, declared))
    (hinsert : t.insert parent device = .ok (id, u))
    (hbelow : LoadsChildren id (childSection s index) declared 0 u (.error e)) :
    LoadsChildren parent s (left + 1) index t (.error e)
  | beside {parent s left index t device declared id u v result}
    (hread : outcome (loadDevice (childSection s index)) = .ok (device, declared))
    (hinsert : t.insert parent device = .ok (id, u))
    (hbelow : LoadsChildren id (childSection s index) declared 0 u (.ok v))
    (hbeside : LoadsChildren parent s left (index + 1) v result) : LoadsChildren parent s (left + 1) index t result

/-- What it comes to when a tree is read from a section. -/
inductive Loads (s : Section) : Except TreeError DeviceTree → Prop
  | unread {e} (hread : outcome (loadDevice s) = .error e) : Loads s (.error e)
  | read {device declared result} (hread : outcome (loadDevice s) = .ok (device, declared))
    (hbelow : LoadsChildren (single device).root s declared 0 (single device) result) : Loads s result

/-- A child is read and inserted in one way only. -/
theorem child_unique {parent id x : DeviceId} {t u v : DeviceTree} {device other : Device} {count : Nat}
    (hread : outcome (loadDevice s) = .ok (device, declared)) (hread₂ : outcome (loadDevice s) = .ok (other, count))
    (hinsert : t.insert parent device = .ok (id, u)) (hinsert₂ : t.insert parent other = .ok (x, v)) :
    declared = count ∧ id = x ∧ u = v := by
  rw [hread] at hread₂
  cases hread₂
  rw [hinsert] at hinsert₂
  cases hinsert₂
  exact ⟨rfl, rfl, rfl⟩

/-- There is one result at most. -/
theorem LoadsChildren.eq {parent : DeviceId} {left : Nat} {t : DeviceTree} {result other : Except TreeError DeviceTree}
    (h : LoadsChildren parent s left index t result) (hother : LoadsChildren parent s left index t other) :
    result = other := by
  induction h generalizing other with
  | done =>
    cases hother
    rfl
  | unread hread => cases hother <;> simp_all
  | refused hread hinsert => cases hother <;> simp_all
  | deeper hread hinsert _ ih =>
    cases hother with
    | unread hread₂ => simp [hread] at hread₂
    | refused hread₂ hinsert₂ => simp_all
    | deeper hread₂ hinsert₂ hbelow₂ =>
      obtain ⟨rfl, rfl, rfl⟩ := child_unique hread hread₂ hinsert hinsert₂
      exact ih hbelow₂
    | beside hread₂ hinsert₂ hbelow₂ _ =>
      obtain ⟨rfl, rfl, rfl⟩ := child_unique hread hread₂ hinsert hinsert₂
      cases ih hbelow₂
  | beside hread hinsert _ _ below_ih beside_ih =>
    cases hother with
    | unread hread₂ => simp [hread] at hread₂
    | refused hread₂ hinsert₂ => simp_all
    | deeper hread₂ hinsert₂ hbelow₂ =>
      obtain ⟨rfl, rfl, rfl⟩ := child_unique hread hread₂ hinsert hinsert₂
      cases below_ih hbelow₂
    | beside hread₂ hinsert₂ hbelow₂ hbeside₂ =>
      obtain ⟨rfl, rfl, rfl⟩ := child_unique hread hread₂ hinsert hinsert₂
      cases below_ih hbelow₂
      exact beside_ih hbeside₂

theorem Loads.eq {result other : Except TreeError DeviceTree} (h : Loads s result) (hother : Loads s other) :
    result = other := by
  cases h with
  | unread hread => cases hother <;> simp_all
  | read hread hbelow =>
    cases hother with
    | unread hread₂ => simp [hread] at hread₂
    | read hread₂ hbelow₂ =>
      rw [hread] at hread₂
      cases hread₂
      exact hbelow.eq hbelow₂

/-! ### The bound is never reached -/

/-- Child after child is loaded, if what is below each of them is. -/
theorem loads_loadChildren {load : DeviceId → Section → Nat → DeviceTree → Attempt TreeError DeviceTree}
    (hload : ∀ n id u, LoadsChildren id (childSection s n) ((childSection s n).count "children") 0 u
      (outcome (load id (childSection s n) ((childSection s n).count "children") u)))
    (parent : DeviceId) (left index : Nat) (t : DeviceTree) :
    LoadsChildren parent s left index t (outcome (loadChildren load parent s left index t)) := by
  induction left generalizing index t with
  | zero => exact .done
  | succ left ih =>
    rw [loadChildren, outcome_bind]
    cases hread : outcome (loadDevice (childSection s index)) with
    | error e => exact .unread hread
    | ok read =>
      obtain ⟨device, declared⟩ := read
      dsimp only [Except.bind]
      rw [outcome_bind, outcome_liftM_except]
      cases hinsert : t.insert parent device with
      | error e => exact .refused hread hinsert
      | ok inserted =>
        obtain ⟨id, u⟩ := inserted
        dsimp only [Except.bind]
        rw [outcome_bind]
        have hbelow := hload index id u
        rw [(loadDevice_eq_ok.1 hread).2] at hbelow
        cases hv : outcome (load id (childSection s index) declared u) with
        | error e =>
          rw [hv] at hbelow
          exact .deeper hread hinsert hbelow
        | ok v =>
          rw [hv] at hbelow
          exact .beside hread hinsert hbelow (ih (index + 1) v)

/-- What the bounded recursion comes to is what loading comes to, if the bound suffices for what the section leads to. -/
theorem loads_loadBelow (parent : DeviceId) (t : DeviceTree) (hdeep : DepthAtMost s steps) :
    LoadsChildren parent s (s.count "children") 0 t (outcome (loadBelow steps parent s (s.count "children") t)) := by
  induction steps generalizing parent s t with
  | zero =>
    rw [hdeep.count_eq_zero]
    exact .done
  | succ steps ih => exact loads_loadChildren (fun n id u => ih id u (hdeep.childSection n)) parent _ 0 t

theorem loads_ofSection (s : Section) : Loads s (outcome (ofSection s)) := by
  rw [ofSection, outcome_bind]
  cases hread : outcome (loadDevice s) with
  | error e => exact .unread hread
  | ok read =>
    obtain ⟨device, declared⟩ := read
    have hbelow := loads_loadBelow (single device).root (single device) (depthAtMost_root s)
    rw [(loadDevice_eq_ok.1 hread).2] at hbelow
    dsimp only [Except.bind]
    rw [outcome_bind]
    cases hu : outcome (loadBelow s.profile.root.depth (single device).root s declared (single device)) with
    | error e =>
      rw [hu] at hbelow
      exact .read hread hbelow
    | ok u =>
      rw [hu] at hbelow
      exact .read hread hbelow

/-- Loading has exactly one result, whatever the document: the one that is given. -/
theorem loads_iff (s : Section) (result : Except TreeError DeviceTree) : Loads s result ↔ outcome (ofSection s) = result := by
  constructor
  · exact fun h => (loads_ofSection s).eq h
  · rintro rfl
    exact loads_ofSection s

end DeviceTree

end CecBus
