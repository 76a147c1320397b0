import CecBus.Proofs.DeviceTree.Coherence
import CecBus.Proofs.DeviceTree.Grafting
import CecBus.Proofs.DeviceTree.Positions

/-! Adding a document to a tree. It succeeds exactly when the document can be read, when it shares no name with the
tree and when the parent is live. Then the tree has gained a copy of what was read, and nothing else has changed;
otherwise nothing at all has changed. None of this needs the names in the tree to be distinct, so devices may also be
changed by hand in between. Main result: `Handled.addedWhole`. -/

namespace CecBus

namespace DeviceTree

variable {t u : DeviceTree} {id parent : DeviceId}

/-! ### Trees whose devices are changed by hand -/

/-- A tree that operations make, also when devices in it are changed at will in between. -/
inductive Handled : DeviceTree → Prop
  | single (device : Device) : Handled (single device)
  | ofSection {s : Section} {t : DeviceTree} (h : outcome (ofSection s) = .ok t) : Handled t
  | after {t : DeviceTree} (h : Handled t) (operation : Operation) : Handled (t.after operation)
  | update {t : DeviceTree} (h : Handled t) (id : DeviceId) (f : Device → Device) : Handled (t.update id f)

theorem IsTree.update (h : t.IsTree) (id : DeviceId) (f : Device → Device) : (t.update id f).IsTree := by
  obtain ⟨top, hshows⟩ := h
  exact ⟨_, hshows.update f⟩

theorem IsTree.removeSubtree (h : t.IsTree) {removed : List Device}
    (hr : outcome (t.removeSubtree id) = .ok (removed, u)) : u.IsTree := by
  obtain ⟨hne, parent, hparent, hprune⟩ := removeSubtree_eq_ok.1 hr
  obtain ⟨top, hshows⟩ := h
  obtain ⟨b, hs, hv⟩ := hshows.exists_subtree (isLive_of_parent? hparent)
  obtain ⟨-, hpruned, -⟩ := hshows.prune hne hparent hs hv
  rw [hprune] at hpruned
  exact ⟨_, hpruned⟩

theorem IsTree.assignAddresses (h : t.IsTree) (emulated : DeviceId) (pool : AddressPool) :
    (t.assignAddresses emulated pool).value.1.IsTree :=
  assignAddresses_preserves (P := fun u _ => u.IsTree) (fun _ _ _ _ hu _ => hu.update _ _) h

theorem IsTree.after (h : t.IsTree) (operation : Operation) : (t.after operation).IsTree :=
  after_preserves (fun _ _ _ _ _ ht hi => ht.insert hi) (fun _ _ _ _ ht hr => ht.removeSubtree hr)
    (fun _ emulated pool ht => ht.assignAddresses emulated pool) h operation

theorem Handled.isTree (h : t.Handled) : t.IsTree := by
  induction h with
  | single device => exact ⟨_, shows_single device⟩
  | ofSection h => exact (WellFormed.ofSection h).isTree
  | after _ operation ih => exact ih.after operation
  | update _ id f ih => exact ih.update id f

theorem Handled.foldl_after (h : t.Handled) (operations : List Operation) :
    (operations.foldl DeviceTree.after t).Handled := by
  induction operations generalizing t with
  | nil => exact h
  | cons operation rest ih => exact ih (h.after operation)

/-! ### What is gained -/

/-- A tree has gained a copy of a staged tree as the last child of a device: the same devices at the same positions,
under ids that stood for nothing before. Every other id stands for what it stood for. -/
structure GainedCopy (t u : DeviceTree) (parent id : DeviceId) (staged : DeviceTree) : Prop where
  root : u.root = t.root
  last_child : u.children parent = t.children parent ++ [id]
  parent_eq : u.parent? id = some parent
  copy (path : List Nat) : (u.descend id path).bind u.device? = (staged.descend staged.root path).bind staged.device?
  distinct (path other : List Nat) (x : DeviceId) : u.descend id path = some x → u.descend id other = some x →
    path = other
  fresh (path : List Nat) (x : DeviceId) : u.descend id path = some x → t.isLive x = false
  others (x : DeviceId) : (∀ path, u.descend id path ≠ some x) → u.device? x = t.device? x ∧ u.parent? x = t.parent? x ∧
    (x ≠ parent → u.children x = t.children x)

/-- Ids outside of what was gained keep their place; only the parent has one more child. -/
theorem Gained.node?_of_not_mem {g : Layout} {x : DeviceId} (h : t.Gained u parent g) (hx : x ∉ g.ids) :
    u.node? x = (t.node? x).map fun node =>
      if x = parent then { node with children := node.children ++ g.headIds } else node := by
  by_cases hlive : t.isLive x
  · exact h.old x hlive
  · have hgone : ¬ u.isLive x := fun hu => (h.complete x hu).elim hlive hx
    rw [DeviceTree.isLive, Option.not_isSome_iff_eq_none] at hlive hgone
    rw [hlive, hgone]
    rfl

theorem Gained.copy {staged : DeviceTree} {stop b : Branch (DeviceId × Device)} (hp : t.isLive parent)
    (h : t.Gained u parent b.forest) (hstaged : staged.Shows stop) (hsame : b.map Prod.snd = stop.map Prod.snd) :
    t.GainedCopy u parent b.value.1 staged where
  root := h.root
  last_child := by
    rw [h.children_eq hp, if_pos rfl]
    rfl
  parent_eq := h.held.parent_of_headIds List.mem_cons_self
  copy path := by
    have hdevice : ∀ c : Branch (DeviceId × Device), (c.at? path).map (fun c => c.value.2) =
        ((c.map Prod.snd).at? path).map Branch.value := fun c => by
      rw [Branch.at?_map, Option.map_map]
      rfl
    rw [h.held.device?_descend, hstaged.root, hstaged.holds.device?_descend, hdevice, hsame, hdevice]
  distinct path other x hpath hother := by
    rw [h.held.descend, Option.map_eq_some_iff] at hpath hother
    obtain ⟨c, hc, rfl⟩ := hpath
    obtain ⟨d, hd, hx⟩ := hother
    have hnodup := h.nodup
    rw [Branch.ids_forest] at hnodup
    exact Branch.eq_of_at?_eq hnodup hc hd hx.symm
  fresh path x hx := by
    rw [← Bool.not_eq_true]
    exact h.fresh x (by rw [Branch.ids_forest]; exact h.held.exists_descend_iff.1 ⟨path, hx⟩)
  others x hx := by
    have hout : x ∉ b.forest.ids := fun hmem => by
      rw [Branch.ids_forest] at hmem
      obtain ⟨path, hpath⟩ := h.held.exists_descend_iff.2 hmem
      exact hx path hpath
    simp only [DeviceTree.device?, DeviceTree.parent?, DeviceTree.children, h.node?_of_not_mem hout]
    cases t.node? x with
    | none => simp
    | some node => by_cases hxp : x = parent <;> simp [hxp]

/-! ### All or nothing -/

/-- A document is added to a tree as a whole or not at all. -/
structure AddedWhole (t : DeviceTree) (parent : DeviceId) (s : Section) : Prop where
  succeeds : (∃ id, (t.insertSection parent s).value.1 = .ok id) ↔
    ∃ staged, outcome (ofSection s) = .ok staged ∧ (∀ name, staged.Bears name → ¬ t.Bears name) ∧ t.isLive parent
  copied (id : DeviceId) (staged : DeviceTree) : (t.insertSection parent s).value.1 = .ok id →
    outcome (ofSection s) = .ok staged → t.GainedCopy (t.insertSection parent s).value.2 parent id staged
  unchanged (e : TreeError) : (t.insertSection parent s).value.1 = .error e → (t.insertSection parent s).value.2 = t

theorem IsTree.succeeds (h : t.IsTree) (parent : DeviceId) (s : Section) :
    (∃ id, (t.insertSection parent s).value.1 = .ok id) ↔
      ∃ staged, outcome (ofSection s) = .ok staged ∧ (∀ name, staged.Bears name → ¬ t.Bears name) ∧ t.isLive parent := by
  obtain ⟨top, hshows⟩ := id h
  constructor
  · rintro ⟨id, hid⟩
    rcases insertSection_cases h parent s with ⟨e, hv⟩ | ⟨staged, stop, _, _, hs, hstaged, hc, hp, -⟩
    · rw [hv] at hid
      cases hid
    · exact ⟨staged, hs, (hshows.clash?_eq_none_iff hstaged).1 hc, hp⟩
  · rintro ⟨staged, hs, hfree, hp⟩
    obtain ⟨stop, hstaged, -⟩ := WellFormed.ofSection hs
    obtain ⟨-, u, -, -, hv, -⟩ := exists_insertSection h hs ((hshows.clash?_eq_none_iff hstaged).2 hfree) hp
    exact ⟨t.nextId, by rw [hv]⟩

/-- Whatever was done with a tree, also by hand: a document is added to it as a whole or not at all. -/
theorem Handled.addedWhole (h : t.Handled) (parent : DeviceId) (s : Section) : t.AddedWhole parent s where
  succeeds := h.isTree.succeeds parent s
  copied id staged hid hs := by
    rcases insertSection_cases h.isTree parent s with ⟨e, hv⟩ | ⟨read, stop, u, g, hread, hstaged, -, hp, hv, hg, hcopy⟩
    · rw [hv] at hid
      cases hid
    · rw [hv] at hid ⊢
      cases hid
      rw [hread] at hs
      cases hs
      exact Gained.copy (b := ⟨(t.nextId, stop.value.2), g⟩) hp hg hstaged (by rw [Branch.map, Branch.map, hcopy])
  unchanged e he := insertSection_error h.isTree he

/-- A soundbar with a player. -/
def soundbarProfile : Profile :=
  let player := .mapping [(.string "name", .string "Player"), (.string "port_id", .integer 1)]
  ⟨.mapping [(.string "name", .string "Soundbar"), (.string "number_children", .integer 1),
    (.string "children", .sequence [player])]⟩

/-- The soundbar joins a television whose tuner was given another name by hand. -/
theorem soundbar_addedWhole :
    (televisionAndTuner.update ⟨1, 1⟩ fun _ => Device.named "Radio" .tuner).AddedWhole ⟨0, 0⟩ ⟨soundbarProfile, ""⟩ ∧
      ((televisionAndTuner.update ⟨1, 1⟩ fun _ => Device.named "Radio" .tuner).insertSection ⟨0, 0⟩
        ⟨soundbarProfile, ""⟩).value.1 = .ok ⟨2, 0⟩ := by
  have hreachable : televisionAndTuner.Handled := .after (.after (.after (.single _) _) _) _
  exact ⟨Handled.addedWhole (.update hreachable _ _) ⟨0, 0⟩ ⟨soundbarProfile, ""⟩, by decide +kernel⟩

end DeviceTree

end CecBus
