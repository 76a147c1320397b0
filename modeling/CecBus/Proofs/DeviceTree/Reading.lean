import CecBus.Proofs.DeviceTree.Descent
import CecBus.Proofs.DeviceTree.Grafting
import CecBus.Proofs.DeviceTree.Positions

/-! What loading a document comes to. The document describes at most one tree of devices (`Describes`): every device is
read at its path, and below it are its children, as many as it declares. Loading succeeds exactly when there is such a
tree and its names are distinct, and then the tree that comes out is that one. Main result: `loadedExactly`. -/

namespace CecBus

namespace DeviceTree

/-! ### The tree that a document describes -/

/-- The devices at some children of a section from an index on, each with those below it. -/
inductive Reads : Section → Nat → Nat → Forest Device → Prop
  | nil {s index} : Reads s 0 index .nil
  | cons {s left index device declared below beside}
    (hread : outcome (loadDevice (childSection s index)) = .ok (device, declared))
    (hbelow : Reads (childSection s index) declared 0 below) (hbeside : Reads s left (index + 1) beside) :
    Reads s (left + 1) index (.cons device below beside)

/-- The device at a section with those below it. -/
def Describes (s : Section) (b : Branch Device) : Prop :=
  ∃ declared, outcome (loadDevice s) = .ok (b.value, declared) ∧ Reads s declared 0 b.below

variable {s : Section} {parent : DeviceId} {t u : DeviceTree} {left index steps declared : Nat} {device : Device}
  {f g : Forest Device} {b c : Branch Device} {result : Except TreeError DeviceTree}

theorem Reads.eq (hf : Reads s left index f) (hg : Reads s left index g) : f = g := by
  induction hf generalizing g with
  | nil =>
    cases hg
    rfl
  | cons hread _ _ below_ih beside_ih =>
    cases hg with
    | cons hread₂ hbelow₂ hbeside₂ =>
      rw [hread] at hread₂
      cases hread₂
      rw [below_ih hbelow₂, beside_ih hbeside₂]

theorem Reads.length_heads (h : Reads s left index f) : f.heads.length = left := by
  induction h with
  | nil => rfl
  | cons _ _ _ _ beside_ih => rw [Forest.heads, List.length_cons, beside_ih]

theorem Reads.describes (h : Reads s left index f) {n : Nat} (hb : f.nth? n = some b) :
    Describes (childSection s (index + n)) b := by
  induction h generalizing n with
  | nil => cases hb
  | cons hread hbelow _ _ beside_ih =>
    cases n with
    | zero =>
      cases hb
      exact ⟨_, hread, hbelow⟩
    | succ n =>
      rw [← Nat.succ_add_eq_add_succ]
      exact beside_ih hb

theorem exists_reads (h : ∀ n < left, ∃ b, Describes (childSection s (index + n)) b) : ∃ f, Reads s left index f := by
  induction left generalizing index with
  | zero => exact ⟨.nil, .nil⟩
  | succ left ih =>
    obtain ⟨⟨device, below⟩, declared, hread, hbelow⟩ := h 0 (Nat.succ_pos _)
    obtain ⟨beside, hbeside⟩ := @ih (index + 1) fun n hn => by
      rw [Nat.succ_add_eq_add_succ]
      exact h (n + 1) (Nat.succ_lt_succ hn)
    exact ⟨.cons device below beside, .cons hread hbelow hbeside⟩

/-! ### Positions in a document -/

/-- The section that positions of children lead to. -/
def sectionAt (s : Section) (path : List Nat) : Section := path.foldl childSection s

/-- Positions that a document declares: at every step the device that is read there declares more children than the
position. -/
def IsNode : Section → List Nat → Prop
  | _, [] => True
  | s, index :: path => ∃ device declared, outcome (Device.ofSection s) = .ok (device, declared) ∧ index < declared ∧
    IsNode (childSection s index) path

@[simp] theorem sectionAt_nil (s : Section) : sectionAt s [] = s := rfl

@[simp] theorem sectionAt_cons (s : Section) (index : Nat) (path : List Nat) :
    sectionAt s (index :: path) = sectionAt (childSection s index) path := rfl

/-- The section that positions lead to stays in the document, at the path that they spell. -/
theorem names_sectionAt (s : Section) (path : List Nat) :
    (sectionAt s path).profile = s.profile ∧ KeyPath.names (sectionAt s path).path =
      KeyPath.names s.path ++ path.flatMap fun index => ["children", toString index] := by
  induction path generalizing s with
  | nil => simp
  | cons index path ih =>
    obtain ⟨hprofile, hnames⟩ := ih (childSection s index)
    have hchild : KeyPath.names (childSection s index).path = KeyPath.names s.path ++ ["children", toString index] := by
      rw [childSection, Section.entry, Section.key, KeyPath.names_join, names_childPath]
    refine ⟨hprofile, ?_⟩
    rw [sectionAt_cons, hnames, hchild, List.flatMap_cons, List.append_assoc]

theorem Describes.nth? (h : Describes s b) (hc : b.below.nth? index = some c) : Describes (childSection s index) c := by
  obtain ⟨declared, -, hreads⟩ := h
  have hdescribes := hreads.describes hc
  rwa [Nat.zero_add] at hdescribes

/-- What positions lead to in the tree is what the document says at the same positions. -/
theorem Describes.at? (h : Describes s b) {path : List Nat} (hc : b.at? path = some c) : Describes (sectionAt s path) c := by
  induction path generalizing s b with
  | nil =>
    cases hc
    exact h
  | cons index path ih =>
    obtain ⟨child, hchild, hc⟩ := Option.bind_eq_some_iff.1 hc
    exact ih (h.nth? hchild) hc

theorem Describes.isNode_iff (h : Describes s b) (path : List Nat) : IsNode s path ↔ (b.at? path).isSome := by
  induction path generalizing s b with
  | nil => exact iff_of_true trivial rfl
  | cons index path ih =>
    obtain ⟨declared, hread, hreads⟩ := id h
    have hdevice := (loadDevice_eq_ok.1 hread).1
    rw [Branch.at?_cons]
    cases hchild : b.below.nth? index with
    | none =>
      have hout : ¬ index < declared := by
        rw [← hreads.length_heads, ← Forest.isSome_nth?_iff, hchild]
        exact Bool.false_ne_true
      refine iff_of_false ?_ Bool.false_ne_true
      rintro ⟨other, count, hother, hlt, -⟩
      rw [hdevice] at hother
      cases hother
      exact hout hlt
    | some child =>
      have hin : index < declared := by
        rw [← hreads.length_heads, ← Forest.isSome_nth?_iff, hchild]
        rfl
      rw [Option.bind_some, ← ih (h.nth? hchild)]
      constructor
      · rintro ⟨-, -, -, -, hrest⟩
        exact hrest
      · exact fun hrest => ⟨_, _, hdevice, hin, hrest⟩

/-- A document describes a tree if all its devices can be read. -/
theorem exists_describes (hdeep : DepthAtMost s steps) (hreads : ∀ path, IsNode s path →
    ∃ device declared, outcome (loadDevice (sectionAt s path)) = .ok (device, declared)) : ∃ b, Describes s b := by
  induction steps generalizing s with
  | zero =>
    obtain ⟨device, declared, hread⟩ := hreads [] trivial
    obtain rfl : 0 = declared := by rw [← hdeep.count_eq_zero]; exact (loadDevice_eq_ok.1 hread).2
    exact ⟨⟨device, .nil⟩, 0, hread, .nil⟩
  | succ steps ih =>
    obtain ⟨device, declared, hread⟩ := hreads [] trivial
    obtain ⟨f, hf⟩ := @exists_reads s declared 0 fun n hn => by
      rw [Nat.zero_add]
      exact ih (hdeep.childSection n) fun path hpath =>
        hreads (n :: path) ⟨device, declared, (loadDevice_eq_ok.1 hread).1, hn, hpath⟩
    exact ⟨⟨device, f⟩, declared, hread, hf⟩

/-! ### Loading comes to that tree -/

/-- Children that are loaded are those that the document describes, and the tree has gained them. -/
theorem LoadsChildren.exists_gained (h : LoadsChildren parent s left index t result) (ht : t.WellFormed)
    (hu : result = .ok u) : ∃ g, Reads s left index (g.map Prod.snd) ∧ t.Gained u parent g ∧ u.WellFormed := by
  induction h generalizing u with
  | done =>
    cases hu
    exact ⟨.nil, .nil, .nil _ _, ht⟩
  | unread _ => cases hu
  | refused _ _ => cases hu
  | deeper _ _ _ _ => cases hu
  | beside hread hinsert _ _ below_ih beside_ih =>
    obtain ⟨below, hbelow, hgained, hv⟩ := below_ih (ht.insert hinsert) rfl
    obtain ⟨beside, hbeside, hrest, hw⟩ := beside_ih hv hu
    obtain ⟨hlive, -, rfl, rfl⟩ := insert_eq_ok.1 hinsert
    exact ⟨.cons _ below beside, .cons hread hbelow hbeside, .cons ht.listed hlive hgained hrest, hw⟩

/-- Children that the document describes are loaded if their names are new. -/
theorem LoadsChildren.exists_ok (h : LoadsChildren parent s left index t result) (ht : t.WellFormed)
    (hp : t.isLive parent) (hf : Reads s left index f) (hfits : t.Fits f) : ∃ u, result = .ok u := by
  induction h generalizing f with
  | done => exact ⟨_, rfl⟩
  | unread hread =>
    cases hf with
    | cons hread₂ _ _ => simp [hread] at hread₂
  | refused hread hinsert =>
    cases hf with
    | cons hread₂ _ _ =>
      rw [hread] at hread₂
      cases hread₂
      rw [hfits.insert ht.isTree hp] at hinsert
      cases hinsert
  | deeper hread hinsert _ below_ih =>
    cases hf with
    | cons hread₂ hbelow₂ _ =>
      rw [hread] at hread₂
      cases hread₂
      have hw := ht.insert hinsert
      rw [hfits.insert ht.isTree hp] at hinsert
      cases hinsert
      exact below_ih hw ((isLive_attach ht.listed hp _).2 (.inl rfl)) hbelow₂ (hfits.attach ht.listed hp)
  | beside hread hinsert hbelow _ _ beside_ih =>
    cases hf with
    | cons hread₂ hbelow₂ hbeside₂ =>
      rw [hread] at hread₂
      cases hread₂
      obtain ⟨g, hg, hgained, hv⟩ := hbelow.exists_gained (ht.insert hinsert) rfl
      rw [hfits.insert ht.isTree hp] at hinsert
      cases hinsert
      exact beside_ih hv (hgained.isLive ((isLive_attach ht.listed hp _).2 (.inr hp))) hbeside₂
        (hfits.gained ht.listed hp hgained (hg.eq hbelow₂))

theorem Gained.shows_of_single {g : Layout} (h : (single device).Gained t ⟨0, 0⟩ g) (ht : t.WellFormed) :
    t.Shows ⟨(⟨0, 0⟩, device), g⟩ where
  root := h.root
  holds := by
    have hroot := h.old ⟨0, 0⟩ rfl
    refine ⟨?_, h.held, trivial⟩
    rw [hroot]
    rfl
  nodup := by
    rw [← Branch.ids_forest, Branch.forest, Forest.ids_cons, Forest.ids_nil, List.append_nil, List.nodup_cons]
    exact ⟨fun hmem => h.fresh _ hmem rfl, h.nodup⟩
  complete x hx := by
    rw [← Branch.ids_forest, Branch.forest, Forest.ids_cons, Forest.ids_nil, List.append_nil, List.mem_cons]
    rcases h.complete x hx with hx | hx
    · exact .inl (List.mem_singleton.1 ((shows_single device).complete x hx))
    · exact .inr hx
  listed := ht.listed

/-- A tree that was loaded shows the tree that the document describes. -/
theorem exists_shows_of_ofSection (h : outcome (ofSection s) = .ok t) :
    ∃ top, t.Shows top ∧ Describes s (top.map Prod.snd) := by
  have hloads := loads_ofSection s
  rw [h] at hloads
  cases hloads with
  | read hread hbelow =>
    obtain ⟨g, hg, hgained, hw⟩ := hbelow.exists_gained (wellFormed_single _) rfl
    exact ⟨_, hgained.shows_of_single hw, _, hread, hg⟩

theorem exists_ofSection_of_describes (h : Describes s b) (hnames : (b.toList.map Device.name).Nodup) :
    ∃ t, outcome (ofSection s) = .ok t := by
  obtain ⟨declared, hread, hreads⟩ := h
  rw [Branch.toList, List.map_cons, List.nodup_cons] at hnames
  have hloads := loads_ofSection s
  generalize outcome (ofSection s) = result at hloads
  cases hloads with
  | unread hread₂ => simp [hread] at hread₂
  | read hread₂ hbelow =>
    rw [hread] at hread₂
    cases hread₂
    refine hbelow.exists_ok (wellFormed_single _) rfl hreads ⟨hnames.2, ?_⟩
    rintro name hname ⟨id, device, hd, rfl⟩
    rw [(shows_single b.value).device?_eq_some_iff] at hd
    cases List.mem_singleton.1 hd
    exact hnames.1 hname

/-! ### What loading comes to -/

/-- Every declared device of a document can be read at its path, lists as many children as it declares, and has a name of
its own. -/
structure Loadable (s : Section) : Prop where
  read (path : List Nat) : IsNode s path → ∃ device declared,
    outcome (Device.ofSection (sectionAt s path)) = .ok (device, declared) ∧ (sectionAt s path).count "children" = declared
  names (path other : List Nat) (device twin : Device) (declared count : Nat) : IsNode s path → IsNode s other →
    outcome (Device.ofSection (sectionAt s path)) = .ok (device, declared) →
    outcome (Device.ofSection (sectionAt s other)) = .ok (twin, count) → device.name = twin.name → path = other

/-- A tree mirrors a document: positions lead to a device exactly if the document declares it, the device is the one that
is read there, and there are no other devices. -/
structure Mirrors (t : DeviceTree) (s : Section) : Prop where
  isNode_iff (path : List Nat) : IsNode s path ↔ ∃ id, t.descend t.root path = some id
  device (path : List Nat) (id : DeviceId) : t.descend t.root path = some id → ∃ device declared,
    outcome (Device.ofSection (sectionAt s path)) = .ok (device, declared) ∧ t.device? id = some device ∧
      (t.children id).length = declared
  count : ∃ paths : List (List Nat), paths.Nodup ∧ (∀ path, path ∈ paths ↔ IsNode s path) ∧ t.count = paths.length

theorem Describes.loadable (h : Describes s b) (hnames : (b.toList.map Device.name).Nodup) : Loadable s := by
  have hat : ∀ path, IsNode s path → ∃ c, b.at? path = some c ∧ ∃ declared,
      outcome (loadDevice (sectionAt s path)) = .ok (c.value, declared) := by
    intro path hpath
    obtain ⟨c, hc⟩ := Option.isSome_iff_exists.1 ((h.isNode_iff path).1 hpath)
    obtain ⟨declared, hread, -⟩ := h.at? hc
    exact ⟨c, hc, declared, hread⟩
  constructor
  · intro path hpath
    obtain ⟨c, -, declared, hread⟩ := hat path hpath
    exact ⟨c.value, declared, loadDevice_eq_ok.1 hread⟩
  · intro path other device twin declared count hpath hother hdevice htwin hname
    obtain ⟨c, hc, n, hread⟩ := hat path hpath
    obtain ⟨d, hd, m, hread₂⟩ := hat other hother
    rw [(loadDevice_eq_ok.1 hread).1] at hdevice
    rw [(loadDevice_eq_ok.1 hread₂).1] at htwin
    cases hdevice
    cases htwin
    exact Branch.eq_of_at?_eq hnames hc hd hname

theorem Loadable.exists_describes (h : Loadable s) : ∃ b, Describes s b ∧ (b.toList.map Device.name).Nodup := by
  obtain ⟨b, hb⟩ := DeviceTree.exists_describes (depthAtMost_root s) fun path hpath => by
    obtain ⟨device, declared, hread⟩ := h.read path hpath
    exact ⟨device, declared, loadDevice_eq_ok.2 hread⟩
  refine ⟨b, hb, Branch.nodup_map fun path other c d hc hd hname => ?_⟩
  obtain ⟨n, hread, -⟩ := hb.at? hc
  obtain ⟨m, hread₂, -⟩ := hb.at? hd
  refine h.names path other _ _ _ _ ?_ ?_ (loadDevice_eq_ok.1 hread).1 (loadDevice_eq_ok.1 hread₂).1 hname
  · rw [hb.isNode_iff, hc]
    rfl
  · rw [hb.isNode_iff, hd]
    rfl

theorem Shows.mirrors {top : Branch (DeviceId × Device)} (h : t.Shows top) (hb : Describes s (top.map Prod.snd)) :
    t.Mirrors s := by
  have hnode : ∀ path, IsNode s path ↔ (top.at? path).isSome := fun path => by
    rw [hb.isNode_iff, Branch.at?_map, Option.isSome_map]
  constructor
  · intro path
    rw [hnode, h.root, h.holds.descend, ← Option.isSome_map, Option.isSome_iff_exists]
  · intro path id hid
    rw [h.root, h.holds.descend, Option.map_eq_some_iff] at hid
    obtain ⟨c, hc, rfl⟩ := hid
    obtain ⟨place, hheld⟩ := h.holds.at? hc
    obtain ⟨declared, hread, hreads⟩ := hb.at? (by rw [Branch.at?_map, hc, Option.map_some])
    refine ⟨c.value.2, declared, (loadDevice_eq_ok.1 hread).1, hheld.device?_top, ?_⟩
    rw [hheld.children_eq, Forest.headIds, List.length_map, ← hreads.length_heads, Branch.map, Forest.heads_map,
      List.length_map]
  · refine ⟨top.labelled.map Prod.fst, top.nodup_labelled, fun path => ?_, ?_⟩
    · rw [Branch.mem_positions_iff, hnode]
    · rw [h.count_eq, ← Branch.map_snd_labelled, List.length_map, List.length_map]

/-- Reading succeeds exactly when every declared device can be read and the names are distinct. -/
theorem exists_ofSection_iff (s : Section) : (∃ t, outcome (ofSection s) = .ok t) ↔ Loadable s := by
  constructor
  · rintro ⟨t, ht⟩
    obtain ⟨top, hshows, hdescribes⟩ := exists_shows_of_ofSection ht
    refine hdescribes.loadable ?_
    rw [Branch.toList_map, List.map_map]
    exact (WellFormed.ofSection ht).nodup_names hshows
  · intro hloadable
    obtain ⟨b, hb, hnames⟩ := hloadable.exists_describes
    exact exists_ofSection_of_describes hb hnames

/-- What is known of loading a document: it comes to one result, it succeeds exactly when every declared device can be read
and the names are distinct, and then the tree mirrors the document. -/
structure LoadedExactly (s : Section) : Prop where
  ends (result : Except TreeError DeviceTree) : Loads s result ↔ outcome (ofSection s) = result
  succeeds : (∃ t, outcome (ofSection s) = .ok t) ↔ Loadable s
  mirrors (t : DeviceTree) : outcome (ofSection s) = .ok t → t.Mirrors s
  place (path : List Nat) : (sectionAt s path).profile = s.profile ∧ KeyPath.names (sectionAt s path).path =
    KeyPath.names s.path ++ path.flatMap fun index => ["children", toString index]

/-- Every document, at every path in it, is loaded in this way. -/
theorem loadedExactly (s : Section) : LoadedExactly s where
  ends := loads_iff s
  succeeds := exists_ofSection_iff s
  mirrors t ht := by
    obtain ⟨top, hshows, hdescribes⟩ := exists_shows_of_ofSection ht
    exact hshows.mirrors hdescribes
  place := names_sectionAt s

/-- Names count as they are stored, so two that differ later on are the same. -/
example :
    let player := .mapping [(.string "name", .string "Living room telephone")]
    let document := .mapping [(.string "name", .string "Living room television"), (.string "number_children", .integer 1),
      (.string "children", .sequence [player])]
    outcome (ofSection ⟨⟨document⟩, ""⟩) = .error (.duplicateName "Living room tel") := by
  decide +kernel

end DeviceTree

end CecBus
