import CecBus.Proofs.DeviceTree.Generations

/-! What an id means as operations go on. It stands for its device until that device is taken out, by itself or with
one above it. From then on it stands for nothing, whatever the slot holds, as long as the slot has not been released as
often as there are generations; and no other device gets the same id in that time. Main result: `Reachable.traced`. -/

namespace CecBus

namespace DeviceTree

variable {t u v : DeviceTree} {id x y parent : DeviceId} {device : Device} {node : DeviceNode} {operation : Operation}
  {operations : List Operation}

/-! ### Operations one after the other -/

def afterAll (t : DeviceTree) (operations : List Operation) : DeviceTree := operations.foldl after t

/-- How often operations release a slot. -/
def releasesIn (index : Nat) : DeviceTree → List Operation → Nat
  | _, [] => 0
  | t, operation :: rest => (if t.releases index operation then 1 else 0) + releasesIn index (t.after operation) rest

/-- No operation takes a device out, by itself or with one above it. -/
def Outlasts (id : DeviceId) : DeviceTree → List Operation → Prop
  | _, [] => True
  | t, operation :: rest => (∀ x, t.Removes x operation → ¬ t.IsAbove x id) ∧ Outlasts id (t.after operation) rest

/-- The children that a device has after some operations: those that it had, as far as they are live, and behind them
those that were put below it. -/
def childrenAlong (id : DeviceId) : DeviceTree → List DeviceId → List Operation → List DeviceId
  | _, children, [] => children
  | t, children, operation :: rest =>
    childrenAlong id (t.after operation) (children.filter (t.after operation).isLive ++ t.issuedBelow id operation) rest

@[simp] theorem afterAll_nil (t : DeviceTree) : t.afterAll [] = t := rfl

@[simp] theorem afterAll_cons (t : DeviceTree) (operation : Operation) (rest : List Operation) :
    t.afterAll (operation :: rest) = (t.after operation).afterAll rest := rfl

theorem WellFormed.afterAll (h : t.WellFormed) (operations : List Operation) : (t.afterAll operations).WellFormed := by
  induction operations generalizing t with
  | nil => exact h
  | cons operation rest ih => exact ih (h.after operation)

/-! ### One operation -/

/-- An operation removes one device at most. -/
theorem Removes.eq (hx : t.Removes x operation) (hy : t.Removes y operation) : x = y := by
  cases hx with
  | byName hfind _ =>
    cases hy with
    | byName hfind' _ =>
      rw [hfind] at hfind'
      exact Option.some.inj hfind'
  | byId _ =>
    cases hy with
    | byId _ => rfl

theorem WellFormed.not_isLive_after (h : t.WellFormed) (hx : t.Removes x operation) (habove : t.IsAbove x id) :
    (t.after operation).isLive id = false := by
  cases h.effect operation with
  | unchanged _ _ hremoves => exact absurd hx (hremoves x)
  | gained _ _ _ _ _ _ _ hremoves => exact absurd hx (hremoves x)
  | readdressed _ _ _ _ hremoves => exact absurd hx (hremoves x)
  | removed y hlive hremoves _ hview _ =>
    obtain rfl := hx.eq hremoves
    rw [isLive, hview, if_pos ((h.mem_members_iff_isAbove hlive).2 habove)]
    rfl

/-- Below a device that stays, a removal takes out the child that it removes and no other. -/
theorem WellFormed.filter_children (h : t.WellFormed) (hlive : t.isLive x) (hn : t.node? id = some node)
    (habove : ¬ t.IsAbove x id) :
    node.children.filter (· ≠ x) = node.children.filter fun child => decide (child ∉ t.members x) := by
  apply List.filter_congr
  intro child hchild
  have hparent : t.parent? child = some id :=
    ((coherent_of_wellFormed h).child_live id child (by rwa [children, hn])).2
  rw [decide_eq_decide, h.mem_members_iff_isAbove hlive, not_iff_not]
  constructor
  · rintro rfl
    exact .refl
  · intro hx
    rcases Relation.ReflTransGen.cases_head hx with rfl | ⟨y, hy, hrest⟩
    · rfl
    · rw [hparent] at hy
      cases hy
      exact absurd hrest habove

/-- A device that is not taken out keeps its place; its children are those that are still live and the one that was put
below it. -/
theorem WellFormed.exists_node_after (h : t.WellFormed) (hn : t.node? id = some node)
    (hstays : ∀ x, t.Removes x operation → ¬ t.IsAbove x id) :
    ∃ d, node.device.Readdressed d ∧ (operation.isAssignment = false → d = node.device) ∧
      (t.after operation).node? id =
        some ⟨d, node.parent, node.children.filter (t.after operation).isLive ++ t.issuedBelow id operation⟩ := by
  have hlive : t.isLive id := isLive_of_node? hn
  have hchildren : ∀ child ∈ node.children, t.isLive child := fun child hchild =>
    ((coherent_of_wellFormed h).child_live id child (by rwa [children, hn])).1
  have hall (hkept : ∀ x, t.isLive x → (t.after operation).isLive x) :
      node.children.filter (t.after operation).isLive = node.children :=
    List.filter_eq_self.2 fun child hchild => hkept child (hchildren child hchild)
  cases h.effect operation with
  | unchanged hsame hissued _ =>
    refine ⟨node.device, .refl _, fun _ => rfl, ?_⟩
    rw [hall fun x hx => by rwa [hsame], hissued, List.append_nil, hsame, hn]
  | gained parent new added g hgained _ hissued _ =>
    refine ⟨node.device, .refl _, fun _ => rfl, ?_⟩
    rw [hall fun x hx => hgained.isLive hx, hissued, hgained.old id hlive, hn, Option.map_some]
    have hheads : (Forest.cons (new, added) g .nil).headIds = [new] := rfl
    by_cases hid : id = parent
    · rw [if_pos hid, if_pos hid.symm, hheads]
    · rw [if_neg hid, if_neg (Ne.symm hid), List.append_nil]
  | removed x hx hremoves hissued hview _ =>
    have habove := hstays x hremoves
    refine ⟨node.device, .refl _, fun _ => rfl, ?_⟩
    have hleft : node.children.filter (t.after operation).isLive =
        node.children.filter fun child => decide (child ∉ t.members x) := by
      apply List.filter_congr
      intro child hchild
      rw [isLive, hview]
      by_cases hmem : child ∈ t.members x
      · simp [hmem]
      · rw [if_neg hmem, Option.isSome_map, decide_eq_true hmem]
        exact hchildren child hchild
    rw [hview, if_neg fun hmem => habove ((h.mem_members_iff_isAbove hx).1 hmem), hn, hissued, List.append_nil, hleft,
      Option.map_some, h.filter_children hx hn habove]
  | readdressed hassignment hreaddressed _ hissued _ =>
    obtain ⟨d, hd, hnode⟩ := hreaddressed.live id node hn
    refine ⟨d, hd, fun hnot => ?_, ?_⟩
    · rw [hassignment] at hnot
      cases hnot
    · rw [hall fun x hx => by rwa [hreaddressed.isLive_eq], hissued, List.append_nil, hnode]

/-- A slot whose device stays is not released. -/
theorem WellFormed.releases_eq (h : t.WellFormed) (hlive : t.isLive id) :
    t.releases id.index operation = !(t.after operation).isLive id := by
  cases hafter : (t.after operation).isLive id with
  | false => exact h.releases_iff.2 ⟨id, rfl, hlive, hafter⟩
  | true =>
    rw [Bool.not_true, ← Bool.not_eq_true, h.releases_iff]
    rintro ⟨x, hindex, hx, hgone⟩
    rw [eq_of_index_eq hx hlive hindex, hafter] at hgone
    cases hgone

/-- Only an operation that adds devices makes an id live, and then the slots stay in their generations. -/
theorem WellFormed.generation_after_of_issued (h : t.WellFormed) (hbefore : t.isLive id = false)
    (hafter : (t.after operation).isLive id) (index : Nat) : (t.after operation).generation index = t.generation index := by
  cases h.effect operation with
  | unchanged hsame => rw [hsame]
  | gained _ _ _ _ _ hgenerations => exact hgenerations index
  | readdressed _ _ hgenerations => exact hgenerations index
  | removed x _ _ _ hview =>
    rw [isLive, hview] at hafter
    split at hafter
    · cases hafter
    · rw [Option.isSome_map] at hafter
      rw [isLive, hafter] at hbefore
      cases hbefore

/-! ### Runs -/

/-- The generation of a slot counts its releases. -/
theorem WellFormed.generation_afterAll (h : t.WellFormed) (operations : List Operation) (index : Nat) :
    (t.afterAll operations).generation index = t.generation index + UInt32.ofNat (releasesIn index t operations) := by
  induction operations generalizing t with
  | nil => exact (UInt32.add_zero _).symm
  | cons operation rest ih =>
    rw [afterAll_cons, ih (h.after operation), h.generation_after, releasesIn, UInt32.ofNat_add, UInt32.add_assoc]
    split <;> rfl

/-- A device that is not taken out keeps its place along a run. -/
theorem WellFormed.exists_node_afterAll (h : t.WellFormed) (hn : t.node? id = some node) (houtlasts : Outlasts id t operations) :
    ∃ d, node.device.Readdressed d ∧ ((∀ operation ∈ operations, operation.isAssignment = false) → d = node.device) ∧
      (t.afterAll operations).node? id = some ⟨d, node.parent, childrenAlong id t node.children operations⟩ := by
  induction operations generalizing t node with
  | nil => exact ⟨node.device, .refl _, fun _ => rfl, hn⟩
  | cons operation rest ih =>
    obtain ⟨hstays, hrest⟩ := houtlasts
    obtain ⟨d, hd, hsame, hnode⟩ := h.exists_node_after hn hstays
    obtain ⟨e, he, hsame', hnode'⟩ := ih (h.after operation) hnode hrest
    refine ⟨e, hd.trans he, fun hall => ?_, hnode'⟩
    rw [List.forall_mem_cons] at hall
    exact (hsame' hall.2).trans (hsame hall.1)

/-- A device outlasts operations exactly if these never release its slot. -/
theorem WellFormed.outlasts_iff (h : t.WellFormed) (hlive : t.isLive id) :
    Outlasts id t operations ↔ releasesIn id.index t operations = 0 := by
  induction operations generalizing t with
  | nil => exact iff_of_true trivial rfl
  | cons operation rest ih =>
    rw [Outlasts, releasesIn, h.releases_eq hlive]
    by_cases hstays : ∀ x, t.Removes x operation → ¬ t.IsAbove x id
    · obtain ⟨node, hn⟩ := Option.isSome_iff_exists.1 hlive
      obtain ⟨d, -, -, hnode⟩ := h.exists_node_after hn hstays
      have hafter : (t.after operation).isLive id := isLive_of_node? hnode
      rw [and_iff_right hstays, ih (h.after operation) hafter, hafter]
      simp
    · obtain ⟨x, hx, habove⟩ : ∃ x, t.Removes x operation ∧ t.IsAbove x id := by
        simpa only [not_forall, not_not, exists_prop] using hstays
      rw [h.not_isLive_after hx habove]
      exact iff_of_false (fun hall => hstays hall.1) (by simp)

/-- While a slot is released less often than there are generations, its generation tells whether it was released. -/
theorem WellFormed.releasesIn_eq_zero (h : t.WellFormed) (hlive : t.isLive id)
    (hfew : releasesIn id.index t operations < UInt32.size)
    (hsame : (t.afterAll operations).generation id.index = id.generation) : releasesIn id.index t operations = 0 := by
  rw [h.generation_afterAll, generation_of_isLive hlive] at hsame
  have hzero : UInt32.ofNat (releasesIn id.index t operations) = 0 := by simpa using hsame
  rwa [← UInt32.toNat_inj, UInt32.toNat_ofNat_of_lt' hfew] at hzero

/-! ### What callers see -/

/-- An id stands for nothing: all that is asked of it finds nothing, and what is done with it is refused and changes
nothing. -/
structure Stale (t : DeviceTree) (id : DeviceId) : Prop where
  device : t.device? id = none
  parent : t.parent? id = none
  children : t.children id = []
  walk : t.walk id = []
  insert (device : Device) : t.insert id device = .error .staleId
  insertSection (s : Section) : ∃ e, (t.insertSection id s).value = (.error e, t)
  removeSubtree : outcome (t.removeSubtree id) = .error .staleId
  after_insert (device : Device) : t.after (.insert id device) = t
  after_removeSubtree : t.after (.removeSubtree id) = t

theorem WellFormed.stale (h : t.WellFormed) (hdead : t.isLive id = false) : t.Stale id := by
  have hnode : t.node? id = none := by
    rwa [isLive, Option.isSome_eq_false_iff, Option.isNone_iff_eq_none] at hdead
  have hparent : t.parent? id = none := by rw [parent?, hnode]; rfl
  have hinsert : ∀ device, t.insert id device = .error .staleId := fun device => by
    rw [DeviceTree.insert, hdead]
    rfl
  have hroot : id ≠ t.root := by
    rintro rfl
    rw [(coherent_of_wellFormed h).root_live] at hdead
    cases hdead
  have hremove : outcome (t.removeSubtree id) = .error .staleId := by
    rw [DeviceTree.removeSubtree, if_neg hroot, hparent]
    rfl
  exact
    { device := by rw [device?, hnode]; rfl
      parent := hparent
      children := by rw [DeviceTree.children, hnode]; rfl
      walk := visit_stale hnode _ _
      insert := hinsert
      insertSection := fun s => by
        rcases insertSection_cases h.isTree id s with herror | ⟨_, _, _, _, -, -, -, hlive, -⟩
        · exact herror
        · rw [hdead] at hlive
          cases hlive
      removeSubtree := hremove
      after_insert := fun device => by rw [DeviceTree.after, hinsert]
      after_removeSubtree := by rw [DeviceTree.after, hremove] }

/-- What the id of a device means after some operations. -/
structure Traced (t : DeviceTree) (id : DeviceId) (device : Device) (operations : List Operation) : Prop where
  /-- Until it is taken out the device answers to its id, and only operations that give addresses change it. -/
  device (h : Outlasts id t operations) : ∃ d, (t.afterAll operations).device? id = some d ∧ device.Readdressed d ∧
    ((∀ operation ∈ operations, operation.isAssignment = false) → d = device)
  parent (h : Outlasts id t operations) : (t.afterAll operations).parent? id = t.parent? id
  children (h : Outlasts id t operations) :
    (t.afterAll operations).children id = childrenAlong id t (t.children id) operations
  /-- Afterwards nothing does, even when the slot holds another device. -/
  stale (h : ¬ Outlasts id t operations) (hfew : releasesIn id.index t operations < UInt32.size) :
    (t.afterAll operations).Stale id
  /-- An id that comes into use then is another one. -/
  distinct (hfew : releasesIn id.index t operations < UInt32.size) (operation : Operation) (x : DeviceId)
    (hbefore : (t.afterAll operations).isLive x = false) (hafter : ((t.afterAll operations).after operation).isLive x) :
    x ≠ id
  /-- What comes into use is the id of the device that was inserted. -/
  issued (parent x : DeviceId) (new : Device) (u : DeviceTree)
    (h : (t.afterAll operations).insert parent new = .ok (x, u)) : (t.afterAll operations).isLive x = false ∧
      u.device? x = some new ∧ u.parent? x = some parent ∧ u.children x = []

theorem WellFormed.distinct (h : t.WellFormed) (hlive : t.isLive id)
    (hfew : releasesIn id.index t operations < UInt32.size) (hbefore : (t.afterAll operations).isLive x = false)
    (hafter : ((t.afterAll operations).after operation).isLive x) : x ≠ id := by
  rintro rfl
  have hgeneration := (h.afterAll operations).generation_after_of_issued hbefore hafter x.index
  rw [generation_of_isLive hafter] at hgeneration
  have houtlasts := (h.outlasts_iff hlive).2 (h.releasesIn_eq_zero hlive hfew hgeneration.symm)
  obtain ⟨node, hn⟩ := Option.isSome_iff_exists.1 hlive
  obtain ⟨d, -, -, hnode⟩ := h.exists_node_afterAll hn houtlasts
  rw [isLive_of_node? hnode] at hbefore
  cases hbefore

theorem WellFormed.issued (h : t.WellFormed) (hi : t.insert parent device = .ok (x, u)) :
    t.isLive x = false ∧ u.device? x = some device ∧ u.parent? x = some parent ∧ u.children x = [] := by
  obtain ⟨hlive, -, rfl, rfl⟩ := insert_eq_ok.1 hi
  have hnode := node?_attach (x := t.nextId) h.listed hlive device
  rw [if_pos rfl] at hnode
  exact ⟨not_isLive_nextId h.listed, device?_of_node? hnode, by rw [parent?, hnode]; rfl,
    by rw [DeviceTree.children, hnode]; rfl⟩

/-- Whatever is done with a tree: the id of a device stands for that device until it is taken out, and then for
nothing; and no device that comes later has the same id, as long as the slot was released less often than there are
generations. -/
theorem Reachable.traced (h : t.Reachable) (hd : t.device? id = some device) (operations : List Operation) :
    t.Traced id device operations := by
  have hw := h.wellFormed
  obtain ⟨node, hn, rfl⟩ := Option.map_eq_some_iff.1 hd
  have hlive : t.isLive id := isLive_of_node? hn
  exact
    { device := fun houtlasts => by
        obtain ⟨d, hd, hsame, hnode⟩ := hw.exists_node_afterAll hn houtlasts
        exact ⟨d, device?_of_node? hnode, hd, hsame⟩
      parent := fun houtlasts => by
        obtain ⟨d, -, -, hnode⟩ := hw.exists_node_afterAll hn houtlasts
        rw [parent?, parent?, hnode, hn]
        rfl
      children := fun houtlasts => by
        obtain ⟨d, -, -, hnode⟩ := hw.exists_node_afterAll hn houtlasts
        rw [DeviceTree.children, DeviceTree.children, hnode, hn]
        rfl
      stale := fun hgone hfew => by
        refine (hw.afterAll operations).stale ?_
        rw [← Bool.not_eq_true]
        intro hback
        exact hgone ((hw.outlasts_iff hlive).2 (hw.releasesIn_eq_zero hlive hfew (generation_of_isLive hback)))
      distinct := fun hfew operation x hbefore hafter => hw.distinct hlive hfew hbefore hafter
      issued := fun parent x new u hi => (hw.afterAll operations).issued hi }

def televisionAndPlayer : DeviceTree :=
  (single (Device.named "TV" .tv)).after (.insert ⟨0, 0⟩ (Device.named "Player" .playback))

def exchange : List Operation := [.removeSubtree ⟨1, 0⟩, .insert ⟨0, 0⟩ (Device.named "Tuner" .tuner)]

theorem exchange_traced :
    televisionAndPlayer.device? ⟨1, 0⟩ = some (Device.named "Player" .playback) ∧
      televisionAndPlayer.Traced ⟨1, 0⟩ (Device.named "Player" .playback) exchange ∧
      releasesIn 1 televisionAndPlayer exchange = 1 ∧
      (televisionAndPlayer.afterAll exchange).device? ⟨1, 1⟩ = some (Device.named "Tuner" .tuner) ∧
      (televisionAndPlayer.afterAll exchange).Stale ⟨1, 0⟩ := by
  have hreachable : televisionAndPlayer.Reachable := .after (.single _) _
  have hplayer : televisionAndPlayer.device? ⟨1, 0⟩ = some (Device.named "Player" .playback) := rfl
  have htraced := Reachable.traced hreachable hplayer exchange
  have hreleases : releasesIn 1 televisionAndPlayer exchange = 1 := rfl
  refine ⟨hplayer, htraced, hreleases, rfl, htraced.stale (fun houtlasts => ?_) (by rw [hreleases]; decide)⟩
  exact houtlasts.1 ⟨1, 0⟩ (.byId rfl) .refl

end DeviceTree

end CecBus
