import Mathlib.Data.List.Nodup
import Mathlib.Data.List.Perm.Basic
import CecBus.DeviceTree.Forest

/-! Forests whose values carry ids: where an id stands, a leaf added below an id, and a subtree taken out. These are
what the operations on slots come to when a tree is read as a forest. -/

namespace CecBus

namespace Forest

variable {κ β : Type} [DecidableEq κ]

section Shape

variable {α : Type}

def heads : Forest α → List α
  | nil => []
  | cons a _ beside => a :: beside.heads

/-- The values in preorder, each with its depth. -/
def levels (depth : Nat) : Forest α → List (α × Nat)
  | nil => []
  | cons a below beside => (a, depth) :: (below.levels (depth + 1) ++ beside.levels depth)

def add (entry : α) : Forest α → Forest α
  | nil => cons entry nil nil
  | cons a below beside => cons a below (beside.add entry)

@[simp] theorem map_fst_levels (f : Forest α) (depth : Nat) : (f.levels depth).map Prod.fst = f.toList := by
  induction f generalizing depth with
  | nil => rfl
  | cons a below beside below_ih beside_ih => simp [levels, toList, below_ih, beside_ih]

@[simp] theorem heads_add (entry : α) (f : Forest α) : (f.add entry).heads = f.heads ++ [entry] := by
  induction f with
  | nil => rfl
  | cons a below beside _ beside_ih => simp [add, heads, beside_ih]

@[simp] theorem toList_add (entry : α) (f : Forest α) : (f.add entry).toList = f.toList ++ [entry] := by
  induction f with
  | nil => rfl
  | cons a below beside _ beside_ih => simp [add, toList, beside_ih]

theorem heads_sublist (f : Forest α) : f.heads.Sublist f.toList := by
  induction f with
  | nil => exact List.Sublist.refl _
  | cons a below beside _ beside_ih => exact (beside_ih.trans (List.sublist_append_right _ _)).cons_cons a

@[simp] theorem heads_map {γ : Type} (g : α → γ) (f : Forest α) : (f.map g).heads = f.heads.map g := by
  induction f with
  | nil => rfl
  | cons a below beside _ beside_ih => simp [map, heads, beside_ih]

end Shape

def ids (f : Forest (κ × β)) : List κ := f.toList.map Prod.fst

def headIds (f : Forest (κ × β)) : List κ := f.heads.map Prod.fst

/-- The forest with one more leaf below an id. -/
def addBelow (id : κ) (entry : κ × β) : Forest (κ × β) → Forest (κ × β)
  | nil => nil
  | cons a below beside =>
    cons a (if a.1 = id then below.add entry else below.addBelow id entry) (beside.addBelow id entry)

/-- The forest without an id and what is below it. -/
def without (id : κ) : Forest (κ × β) → Forest (κ × β)
  | nil => nil
  | cons a below beside =>
    if a.1 = id then beside.without id else cons a (below.without id) (beside.without id)

def subtree? (id : κ) : Forest (κ × β) → Option (Branch (κ × β))
  | nil => none
  | cons a below beside => if a.1 = id then some ⟨a, below⟩ else (below.subtree? id).or (beside.subtree? id)

omit [DecidableEq κ] in
@[simp] theorem ids_cons (a : κ × β) (below beside : Forest (κ × β)) :
    (cons a below beside).ids = a.1 :: (below.ids ++ beside.ids) := by
  simp [ids, toList]

omit [DecidableEq κ] in
@[simp] theorem ids_nil : (nil : Forest (κ × β)).ids = [] := rfl

omit [DecidableEq κ] in
theorem headIds_sublist (f : Forest (κ × β)) : f.headIds.Sublist f.ids := f.heads_sublist.map _

omit [DecidableEq κ] in
theorem headIds_subset (f : Forest (κ × β)) : f.headIds ⊆ f.ids := f.headIds_sublist.subset

/-! ### A leaf below an id -/

theorem addBelow_of_not_mem {id : κ} (entry : κ × β) {f : Forest (κ × β)} (h : id ∉ f.ids) :
    f.addBelow id entry = f := by
  induction f with
  | nil => rfl
  | cons a below beside below_ih beside_ih =>
    simp only [ids_cons, List.mem_cons, List.mem_append, not_or] at h
    rw [addBelow, if_neg (Ne.symm h.1), below_ih h.2.1, beside_ih h.2.2]

@[simp] theorem heads_addBelow (id : κ) (entry : κ × β) (f : Forest (κ × β)) :
    (f.addBelow id entry).heads = f.heads := by
  induction f with
  | nil => rfl
  | cons a below beside _ beside_ih => rw [addBelow, heads, heads, beside_ih]

/-- Among distinct ids exactly one leaf comes in. -/
theorem toList_addBelow_perm {id : κ} (entry : κ × β) {f : Forest (κ × β)} (hnodup : f.ids.Nodup)
    (h : id ∈ f.ids) : (f.addBelow id entry).toList.Perm (entry :: f.toList) := by
  induction f with
  | nil => simp at h
  | cons a below beside below_ih beside_ih =>
    simp only [ids_cons, List.nodup_cons, List.mem_append, not_or] at hnodup
    obtain ⟨⟨hbelow, hbeside⟩, hrest⟩ := hnodup
    obtain ⟨hnb, hns, hdisj⟩ := List.nodup_append.1 hrest
    by_cases ha : a.1 = id
    · subst ha
      rw [addBelow, if_pos rfl, addBelow_of_not_mem entry hbeside]
      simp only [toList, toList_add, List.append_assoc, List.singleton_append]
      exact ((List.perm_middle.cons a).trans (List.Perm.swap _ _ _))
    · rw [addBelow, if_neg ha]
      simp only [ids_cons, List.mem_cons, List.mem_append, Ne.symm ha, false_or] at h
      rcases h with h | h
      · have hout : id ∉ beside.ids := fun hb => hdisj id h id hb rfl
        rw [addBelow_of_not_mem entry hout]
        simp only [toList]
        exact (((below_ih hnb h).append_right _).cons a).trans (List.Perm.swap _ _ _)
      · have hout : id ∉ below.ids := fun hb => hdisj id hb id h rfl
        rw [addBelow_of_not_mem entry hout]
        simp only [toList]
        exact ((((beside_ih hns h).append_left _).trans List.perm_middle).cons a).trans (List.Perm.swap _ _ _)

/-! ### A subtree taken out -/

theorem without_of_not_mem {id : κ} {f : Forest (κ × β)} (h : id ∉ f.ids) : f.without id = f := by
  induction f with
  | nil => rfl
  | cons a below beside below_ih beside_ih =>
    simp only [ids_cons, List.mem_cons, List.mem_append, not_or] at h
    rw [without, if_neg (Ne.symm h.1), below_ih h.2.1, beside_ih h.2.2]

theorem heads_without (id : κ) (f : Forest (κ × β)) :
    (f.without id).heads = f.heads.filter (·.1 ≠ id) := by
  induction f with
  | nil => rfl
  | cons a below beside _ beside_ih =>
    rw [without, heads]
    by_cases ha : a.1 = id
    · rw [if_pos ha, beside_ih, List.filter_cons_of_neg (by simp [ha])]
    · rw [if_neg ha, heads, beside_ih, List.filter_cons_of_pos (by simp [ha])]

theorem subtree?_of_not_mem {id : κ} {f : Forest (κ × β)} (h : id ∉ f.ids) : f.subtree? id = none := by
  induction f with
  | nil => rfl
  | cons a below beside below_ih beside_ih =>
    simp only [ids_cons, List.mem_cons, List.mem_append, not_or] at h
    rw [subtree?, if_neg (Ne.symm h.1), below_ih h.2.1, beside_ih h.2.2]
    rfl

theorem exists_subtree?_of_mem {id : κ} {f : Forest (κ × β)} (h : id ∈ f.ids) :
    ∃ b, f.subtree? id = some b ∧ b.value.1 = id := by
  induction f with
  | nil => simp at h
  | cons a below beside below_ih beside_ih =>
    rw [subtree?]
    by_cases ha : a.1 = id
    · exact ⟨_, if_pos ha, ha⟩
    · rw [if_neg ha]
      simp only [ids_cons, List.mem_cons, List.mem_append, Ne.symm ha, false_or] at h
      by_cases hb : id ∈ below.ids
      · obtain ⟨b, hs, hv⟩ := below_ih hb
        exact ⟨b, by rw [hs]; rfl, hv⟩
      · obtain ⟨b, hs, hv⟩ := beside_ih (h.resolve_left hb)
        exact ⟨b, by rw [subtree?_of_not_mem hb, hs]; rfl, hv⟩

end Forest

namespace Branch

variable {α κ β : Type}

def forest (b : Branch α) : Forest α := .cons b.value b.below .nil

def toList (b : Branch α) : List α := b.value :: b.below.toList

def ids (b : Branch (κ × β)) : List κ := b.toList.map Prod.fst

@[simp] theorem toList_forest (b : Branch α) : b.forest.toList = b.toList := by
  simp [forest, toList, Forest.toList]

@[simp] theorem ids_forest (b : Branch (κ × β)) : b.forest.ids = b.ids := by
  simp [Forest.ids, ids]

end Branch

namespace Forest

variable {κ β : Type} [DecidableEq κ]

/-- Among distinct ids, a subtree and what is left without it make up the forest. -/
theorem toList_perm_without {id : κ} {f : Forest (κ × β)} {b : Branch (κ × β)} (hnodup : f.ids.Nodup)
    (hs : f.subtree? id = some b) : f.toList.Perm (b.toList ++ (f.without id).toList) := by
  induction f with
  | nil => cases hs
  | cons a below beside below_ih beside_ih =>
    simp only [ids_cons, List.nodup_cons, List.mem_append, not_or] at hnodup
    obtain ⟨⟨hbelow, hbeside⟩, hrest⟩ := hnodup
    obtain ⟨hnb, hns, hdisj⟩ := List.nodup_append.1 hrest
    rw [subtree?] at hs
    by_cases ha : a.1 = id
    · subst ha
      rw [if_pos rfl] at hs
      cases hs
      rw [without, if_pos rfl, without_of_not_mem hbeside]
      exact List.Perm.refl _
    · rw [if_neg ha] at hs
      rw [without, if_neg ha]
      simp only [toList]
      by_cases hb : id ∈ below.ids
      · have hout : id ∉ beside.ids := fun h => hdisj id hb id h rfl
        rw [subtree?_of_not_mem hout, Option.or_none] at hs
        rw [without_of_not_mem hout]
        calc List.Perm (a :: (below.toList ++ beside.toList))
              (a :: ((b.toList ++ (below.without id).toList) ++ beside.toList)) :=
            ((below_ih hnb hs).append_right _).cons a
          List.Perm _ (b.toList ++ a :: ((below.without id).toList ++ beside.toList)) := by
            rw [List.append_assoc]
            exact List.perm_middle.symm
      · rw [subtree?_of_not_mem hb, Option.none_or] at hs
        rw [without_of_not_mem hb]
        calc List.Perm (a :: (below.toList ++ beside.toList))
              (a :: (below.toList ++ (b.toList ++ (beside.without id).toList))) :=
            ((beside_ih hns hs).append_left _).cons a
          List.Perm _ (a :: (b.toList ++ (below.toList ++ (beside.without id).toList))) := by
            refine List.Perm.cons a ?_
            rw [← List.append_assoc, ← List.append_assoc]
            exact List.perm_append_comm.append_right _
          List.Perm _ (b.toList ++ a :: (below.toList ++ (beside.without id).toList)) := List.perm_middle.symm

theorem nodup_of_subtree? {id : κ} {f : Forest (κ × β)} {b : Branch (κ × β)} (hnodup : f.ids.Nodup)
    (hs : f.subtree? id = some b) : b.ids.Nodup := by
  have hperm := (toList_perm_without hnodup hs).map Prod.fst
  rw [List.map_append] at hperm
  exact (List.nodup_append.1 (hperm.nodup_iff.1 hnodup)).1

end Forest

end CecBus
