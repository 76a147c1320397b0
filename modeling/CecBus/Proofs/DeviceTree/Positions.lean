import CecBus.Proofs.DeviceTree.Shape

/-! Nodes by position. A list of positions leads from the top of a tree through children: `Branch.at?` follows it in
a forest and `DeviceTree.descend` in slots, and for a held forest both come to the same. The positions of all nodes
are listed in preorder. -/

namespace CecBus

variable {α β : Type}

def Branch.map (f : α → β) (b : Branch α) : Branch β := ⟨f b.value, b.below.map f⟩

@[simp] theorem Branch.toList_map (f : α → β) (b : Branch α) : (b.map f).toList = b.toList.map f := by
  simp [Branch.map, Branch.toList]

namespace Forest

/-- The tree at a position of a forest. -/
def nth? : Forest α → Nat → Option (Branch α)
  | nil, _ => none
  | cons a below _, 0 => some ⟨a, below⟩
  | cons _ _ beside, index + 1 => beside.nth? index

theorem getElem?_heads (f : Forest α) (index : Nat) : f.heads[index]? = (f.nth? index).map Branch.value := by
  induction f generalizing index with
  | nil => rfl
  | cons a below beside _ beside_ih =>
    cases index with
    | zero => rfl
    | succ index => exact beside_ih index

theorem isSome_nth?_iff (f : Forest α) (index : Nat) : (f.nth? index).isSome ↔ index < f.heads.length := by
  rw [← Option.isSome_map (f := Branch.value), ← getElem?_heads]
  simp

theorem nth?_map (g : α → β) (f : Forest α) (index : Nat) : (f.map g).nth? index = (f.nth? index).map (Branch.map g) := by
  induction f generalizing index with
  | nil => rfl
  | cons a below beside _ beside_ih =>
    cases index with
    | zero => rfl
    | succ index => exact beside_ih index

end Forest

namespace Branch

def at? : Branch α → List Nat → Option (Branch α)
  | b, [] => some b
  | b, index :: path => (b.below.nth? index).bind fun child => child.at? path

@[simp] theorem at?_nil (b : Branch α) : b.at? [] = some b := rfl

theorem at?_cons (b : Branch α) (index : Nat) (path : List Nat) :
    b.at? (index :: path) = (b.below.nth? index).bind fun child => child.at? path := rfl

theorem at?_map (g : α → β) (b : Branch α) (path : List Nat) : (b.map g).at? path = (b.at? path).map (map g) := by
  induction path generalizing b with
  | nil => rfl
  | cons index path ih =>
    rw [at?_cons, at?_cons, map, Forest.nth?_map, Option.bind_map, Option.map_bind]
    congr 1
    funext child
    exact ih child

end Branch

/-! ### All positions -/

namespace Forest

/-- The values in preorder, each with the positions that lead to it; the first tree stands at a position. -/
def labelled (start : Nat) : Forest α → List (List Nat × α)
  | nil => []
  | cons a below beside =>
    ([start], a) :: ((below.labelled 0).map (fun e => (start :: e.1, e.2)) ++ beside.labelled (start + 1))

@[simp] theorem map_snd_labelled (f : Forest α) (start : Nat) : (f.labelled start).map Prod.snd = f.toList := by
  induction f generalizing start with
  | nil => rfl
  | cons a below beside below_ih beside_ih =>
    simp [labelled, toList, beside_ih, ← below_ih 0, Function.comp_def]

theorem mem_labelled_iff (f : Forest α) (start : Nat) (path : List Nat) (a : α) :
    (path, a) ∈ f.labelled start ↔
      ∃ index rest, path = (start + index) :: rest ∧ ∃ b, ((f.nth? index).bind (·.at? rest)) = some b ∧ b.value = a := by
  induction f generalizing start path with
  | nil => simp [labelled, nth?]
  | cons value below beside below_ih beside_ih =>
    simp only [labelled, List.mem_cons, List.mem_append, List.mem_map, Prod.mk.injEq]
    constructor
    · rintro (⟨rfl, rfl⟩ | ⟨⟨inner, _⟩, hmem, rfl, rfl⟩ | hmem)
      · exact ⟨0, [], rfl, _, rfl, rfl⟩
      · obtain ⟨index, rest, rfl, b, hb, hv⟩ := (below_ih 0 inner).1 hmem
        refine ⟨0, _, rfl, b, ?_, hv⟩
        rwa [Nat.zero_add]
      · obtain ⟨index, rest, rfl, hb⟩ := (beside_ih (start + 1) path).1 hmem
        exact ⟨index + 1, rest, by rw [Nat.add_right_comm]; rfl, hb⟩
    · rintro ⟨index, rest, rfl, b, hb, hv⟩
      cases index with
      | zero =>
        cases rest with
        | nil =>
          cases hb
          exact .inl ⟨rfl, hv.symm⟩
        | cons next rest =>
          refine .inr (.inl ⟨(next :: rest, a), (below_ih 0 _).2 ⟨next, rest, ?_, b, hb, hv⟩, rfl, rfl⟩)
          rw [Nat.zero_add]
      | succ index =>
        exact .inr (.inr ((beside_ih (start + 1) _).2 ⟨index, rest, by rw [Nat.add_right_comm]; rfl, b, hb, hv⟩))

theorem nodup_labelled (f : Forest α) (start : Nat) : ((f.labelled start).map Prod.fst).Nodup := by
  induction f generalizing start with
  | nil => exact List.nodup_nil
  | cons a below beside below_ih beside_ih =>
    have hbelow : ((below.labelled 0).map fun e => start :: e.1).Nodup := by
      have hmap : (below.labelled 0).map (fun e => start :: e.1) = ((below.labelled 0).map Prod.fst).map (start :: ·) := by
        simp
      rw [hmap]
      exact (below_ih 0).map (List.cons_injective)
    have hbeside : ∀ path ∈ (beside.labelled (start + 1)).map Prod.fst, ∀ rest, path ≠ start :: rest := by
      rintro path hmem rest rfl
      obtain ⟨⟨_, value⟩, hmem, rfl⟩ := List.mem_map.1 hmem
      obtain ⟨index, _, heq, -⟩ := (mem_labelled_iff _ _ _ _).1 hmem
      have hhead := (List.cons.inj heq).1
      omega
    have hfirst : ∀ e ∈ below.labelled 0, e.1 ≠ [] := by
      rintro ⟨path, value⟩ hmem rfl
      obtain ⟨_, _, heq, -⟩ := (mem_labelled_iff _ _ _ _).1 hmem
      cases heq
    simp only [labelled, List.map_cons, List.map_append, List.map_map, Function.comp_def]
    rw [List.nodup_cons, List.nodup_append, List.mem_append, not_or]
    refine ⟨⟨fun hmem => ?_, fun hmem => hbeside _ hmem [] rfl⟩, hbelow, beside_ih _, ?_⟩
    · obtain ⟨e, he, heq⟩ := List.mem_map.1 hmem
      exact hfirst e he (List.cons.inj heq).2
    · rintro x hx y hy rfl
      obtain ⟨e, -, rfl⟩ := List.mem_map.1 hx
      exact hbeside _ hy _ rfl

end Forest

namespace Branch

/-- The values in preorder, each with the positions that lead to it. -/
def labelled (b : Branch α) : List (List Nat × α) := ([], b.value) :: b.below.labelled 0

@[simp] theorem map_snd_labelled (b : Branch α) : b.labelled.map Prod.snd = b.toList := by
  simp [labelled, toList]

theorem mem_labelled_iff (b : Branch α) (path : List Nat) (a : α) :
    (path, a) ∈ b.labelled ↔ (b.at? path).map value = some a := by
  rw [labelled, List.mem_cons, Forest.mem_labelled_iff, Option.map_eq_some_iff]
  cases path with
  | nil => simp [eq_comm]
  | cons index path => simp [at?_cons]

theorem mem_positions_iff (b : Branch α) (path : List Nat) : path ∈ b.labelled.map Prod.fst ↔ (b.at? path).isSome := by
  rw [List.mem_map, Option.isSome_iff_exists]
  constructor
  · rintro ⟨⟨_, a⟩, hmem, rfl⟩
    obtain ⟨c, hc, -⟩ := Option.map_eq_some_iff.1 ((b.mem_labelled_iff _ _).1 hmem)
    exact ⟨c, hc⟩
  · rintro ⟨c, hc⟩
    exact ⟨(path, c.value), (b.mem_labelled_iff _ _).2 (by rw [hc]; rfl), rfl⟩

theorem nodup_labelled (b : Branch α) : (b.labelled.map Prod.fst).Nodup := by
  rw [labelled, List.map_cons, List.nodup_cons]
  refine ⟨fun hmem => ?_, b.below.nodup_labelled 0⟩
  obtain ⟨⟨_, value⟩, hmem, rfl⟩ := List.mem_map.1 hmem
  obtain ⟨_, _, heq, -⟩ := (Forest.mem_labelled_iff _ _ _ _).1 hmem
  cases heq

/-- What tells the values apart tells the positions apart. -/
theorem eq_of_at?_eq {g : α → β} {b c d : Branch α} (hnodup : (b.toList.map g).Nodup) {path other : List Nat}
    (hc : b.at? path = some c) (hd : b.at? other = some d) (hg : g c.value = g d.value) : path = other := by
  rw [← map_snd_labelled, List.map_map] at hnodup
  have hpath : (path, c.value) ∈ b.labelled := (b.mem_labelled_iff _ _).2 (by rw [hc]; rfl)
  have hother : (other, d.value) ∈ b.labelled := (b.mem_labelled_iff _ _).2 (by rw [hd]; rfl)
  exact congrArg Prod.fst (List.inj_on_of_nodup_map hnodup hpath hother hg)

theorem nodup_map {g : α → β} {b : Branch α} (h : ∀ path other c d, b.at? path = some c → b.at? other = some d →
    g c.value = g d.value → path = other) : (b.toList.map g).Nodup := by
  rw [← map_snd_labelled, List.map_map]
  refine List.Nodup.map_on ?_ (List.Nodup.of_map _ b.nodup_labelled)
  rintro ⟨path, a⟩ hpath ⟨other, a'⟩ hother hg
  rw [mem_labelled_iff] at hpath hother
  obtain ⟨c, hc, rfl⟩ := Option.map_eq_some_iff.1 hpath
  obtain ⟨d, hd, rfl⟩ := Option.map_eq_some_iff.1 hother
  obtain rfl := h path other c d hc hd hg
  rw [hc] at hd
  cases hd
  rfl

end Branch

/-! ### Positions in slots -/

namespace DeviceTree

variable {t : DeviceTree} {id x : DeviceId} {above place : Option DeviceId} {f : Layout}
  {b c : Branch (DeviceId × Device)}

/-- The id that positions of children lead to. -/
def descend (t : DeviceTree) : DeviceId → List Nat → Option DeviceId
  | id, [] => some id
  | id, index :: path => ((t.children id)[index]?).bind fun child => t.descend child path

theorem Holds.nth? (h : t.Holds above f) {index : Nat} (hb : f.nth? index = some b) : t.Holds above b.forest := by
  induction f generalizing index with
  | nil => cases hb
  | cons entry below beside _ beside_ih =>
    obtain ⟨hnode, hbelow, hbeside⟩ := h
    cases index with
    | zero =>
      cases hb
      exact ⟨hnode, hbelow, trivial⟩
    | succ index => exact beside_ih hbeside hb

theorem Holds.at? (h : t.Holds place b.forest) {path : List Nat} (hc : b.at? path = some c) :
    ∃ place, t.Holds place c.forest := by
  induction path generalizing b place with
  | nil =>
    cases hc
    exact ⟨place, h⟩
  | cons index path ih =>
    obtain ⟨child, hchild, hc⟩ := Option.bind_eq_some_iff.1 hc
    exact ih (Holds.nth? h.2.1 hchild) hc

/-- In a held tree positions lead to the same node as in the slots. -/
theorem Holds.descend (h : t.Holds place b.forest) (path : List Nat) :
    t.descend b.value.1 path = (b.at? path).map fun c => c.value.1 := by
  induction path generalizing b place with
  | nil => rfl
  | cons index path ih =>
    rw [DeviceTree.descend, h.children_eq, Forest.headIds, List.getElem?_map, Forest.getElem?_heads, Option.map_map,
      Option.bind_map, Branch.at?_cons, Option.map_bind]
    cases hchild : b.below.nth? index with
    | none => rfl
    | some child => exact ih (Holds.nth? h.2.1 hchild)

theorem Holds.device?_top (h : t.Holds place b.forest) : t.device? b.value.1 = some b.value.2 := by
  obtain ⟨hnode, -⟩ := h
  exact device?_of_node? hnode

theorem Holds.device?_descend (h : t.Holds place b.forest) (path : List Nat) :
    (t.descend b.value.1 path).bind t.device? = (b.at? path).map fun c => c.value.2 := by
  rw [h.descend, Option.bind_map]
  cases hc : b.at? path with
  | none => rfl
  | some c =>
    obtain ⟨place, hheld⟩ := h.at? hc
    exact hheld.device?_top

/-- Positions lead to the ids of the tree and to no others. -/
theorem Holds.exists_descend_iff (h : t.Holds place b.forest) : (∃ path, t.descend b.value.1 path = some x) ↔ x ∈ b.ids := by
  rw [Branch.ids, ← Branch.map_snd_labelled, List.map_map, List.mem_map]
  constructor
  · rintro ⟨path, hx⟩
    rw [h.descend, Option.map_eq_some_iff] at hx
    obtain ⟨c, hc, rfl⟩ := hx
    exact ⟨(path, c.value), (b.mem_labelled_iff _ _).2 (by rw [hc]; rfl), rfl⟩
  · rintro ⟨⟨path, entry⟩, hmem, rfl⟩
    obtain ⟨c, hc, rfl⟩ := Option.map_eq_some_iff.1 ((b.mem_labelled_iff _ _).1 hmem)
    exact ⟨path, by rw [h.descend, hc]; rfl⟩

end DeviceTree

end CecBus
