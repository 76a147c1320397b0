import Mathlib.Data.Finset.Card
import Mathlib.Data.List.Induction
import CecBus.AddressPool

/-! The pool as a set. A history of calls alone says which addresses are held: those that were granted and not released
since, without the shared one (`Held`). The marks of the pool represent this set after every history (`Represents`), and
each call then does to the pool what its name says of the set (`Obeys`). Main result: `exists_represented`. -/

namespace CecBus.AddressPool

/-- What a pool can be asked for. -/
inductive Call where
  | allocate (kind : Device.Kind)
  | reserve (address : LogicalAddress)
  | release (address : LogicalAddress)

/-- A call with its answer. -/
inductive Event where
  | allocated (kind : Device.Kind) (address : LogicalAddress)
  | reserved (address : LogicalAddress) (granted : Bool)
  | released (address : LogicalAddress)

/-- The event that a call leads to, with the pool after it. -/
def serve (pool : AddressPool) : Call → Event × AddressPool
  | .allocate kind => (pool.allocate kind).value.map (.allocated kind) id
  | .reserve address => (pool.reserve address).map (.reserved address) id
  | .release address => (.released address, pool.release address)

/-- The history that calls of an empty pool lead to, with the pool after them. -/
def serveAll (calls : List Call) : List Event × AddressPool :=
  calls.foldl (fun (history, pool) call => (history ++ [(pool.serve call).1], (pool.serve call).2)) ([], empty)

/-- The address that an event grants. -/
def Event.granted? : Event → Option LogicalAddress
  | allocated _ address => some address
  | reserved address granted => if granted then some address else none
  | released _ => none

/-- After a history an address is held that is not the shared one: it was granted and not released since. -/
def Held (history : List Event) (a : LogicalAddress) : Prop :=
  a ≠ .broadcast ∧ ∃ before e after, history = before ++ e :: after ∧ e.granted? = some a ∧ .released a ∉ after

/-- A pool stands for a set of addresses: it has one mark for each of them, and the shared one is not among them. -/
structure Represents (pool : AddressPool) (s : Finset LogicalAddress) : Prop where
  isTaken_iff (a : LogicalAddress) : pool.isTaken a ↔ a ∈ s
  count_eq : pool.count = s.card
  cpop_marks : pool.marks.cpop.toNat = s.card
  not_mem_broadcast : .broadcast ∉ s

/-- The calls of a pool do to a set what they promise. -/
structure Obeys (pool : AddressPool) (s : Finset LogicalAddress) : Prop where
  /-- The first address of a kind that may still be given is added. -/
  allocate_of_free (kind : Device.Kind) (before : List LogicalAddress) (a : LogicalAddress)
    (after : List LogicalAddress) : kind.candidates = before ++ a :: after →
    (∀ b ∈ before, b = .broadcast ∨ b ∈ s) → a ≠ .broadcast → a ∉ s →
      (pool.allocate kind).value.1 = a ∧ (pool.allocate kind).value.2.Represents (insert a s)
  /-- Without one the set stays as it is. -/
  allocate_of_full (kind : Device.Kind) : (∀ b ∈ kind.candidates, b = .broadcast ∨ b ∈ s) →
    (pool.allocate kind).value.1 = .broadcast ∧ (pool.allocate kind).value.2.Represents s
  reserve_refused_iff (a : LogicalAddress) : (pool.reserve a).1 = false ↔ a ∈ s
  reserve (a : LogicalAddress) : (pool.reserve a).2.Represents (if a = .broadcast then s else insert a s)
  release (a : LogicalAddress) : (pool.release a).Represents (s.erase a)

variable {pool : AddressPool} {s : Finset LogicalAddress} {history : List Event} {a : LogicalAddress}

/-! ### Marks as a set -/

theorem mem_taken : a ∈ pool.taken ↔ pool.isTaken a := by
  simp [taken]

theorem nodup_taken (pool : AddressPool) : pool.taken.Nodup :=
  List.Nodup.filter _ (by decide)

theorem toNat_cpop_marks (pool : AddressPool) : pool.marks.cpop.toNat = pool.count := by
  have hbit : ∀ b : Bool, b.toNat = if b = true then 1 else 0 := by decide
  rw [BitVec.toNat_cpop, count, taken]
  simp only [LogicalAddress.all, ← List.countP_eq_length_filter, List.countP_cons, List.countP_nil, isTaken,
    LogicalAddress.code, BitVec.cpopNatRec_succ, hbit]
  rfl

theorem represents_iff : pool.Represents s ↔ (∀ a, pool.isTaken a ↔ a ∈ s) ∧ .broadcast ∉ s := by
  refine ⟨fun h => ⟨h.isTaken_iff, h.not_mem_broadcast⟩, fun ⟨htaken, hshared⟩ => ?_⟩
  have hset : pool.taken.toFinset = s := by
    ext a
    rw [List.mem_toFinset, mem_taken, htaken]
  have hcount : pool.count = s.card := by
    rw [← hset, List.toFinset_card_of_nodup pool.nodup_taken, count]
  exact ⟨htaken, hcount, (toNat_cpop_marks pool).trans hcount, hshared⟩

theorem represents_empty : empty.Represents ∅ :=
  represents_iff.2 ⟨fun a => by simp [isTaken_empty], Finset.notMem_empty _⟩

namespace Represents

theorem isTaken_eq_false (h : pool.Represents s) : pool.isTaken a = false ↔ a ∉ s := by
  rw [← h.isTaken_iff, Bool.not_eq_true]

theorem mark (h : pool.Represents s) (ha : a ≠ .broadcast) : (pool.mark a).Represents (insert a s) := by
  refine represents_iff.2 ⟨fun b => ?_, ?_⟩
  · rw [isTaken_mark, Bool.or_eq_true, h.isTaken_iff, decide_eq_true_iff, Finset.mem_insert, or_comm, eq_comm]
  · rw [Finset.mem_insert, not_or]
    exact ⟨ha.symm, h.not_mem_broadcast⟩

theorem release (h : pool.Represents s) (a : LogicalAddress) : (pool.release a).Represents (s.erase a) := by
  refine represents_iff.2 ⟨fun b => ?_, fun hb => h.not_mem_broadcast (Finset.mem_of_mem_erase hb)⟩
  rw [isTaken_release, Bool.and_eq_true, h.isTaken_iff, decide_eq_true_iff, Finset.mem_erase, and_comm, ne_comm]

/-! ### One call -/

theorem reserve_refused_iff (h : pool.Represents s) (a : LogicalAddress) : (pool.reserve a).1 = false ↔ a ∈ s := by
  rw [AddressPool.reserve]
  split
  · next ha =>
    subst ha
    exact iff_of_false Bool.noConfusion h.not_mem_broadcast
  · split
    · next htaken => exact iff_of_true rfl ((h.isTaken_iff a).1 htaken)
    · next hfree => exact iff_of_false Bool.noConfusion (mt (h.isTaken_iff a).2 hfree)

theorem reserve (h : pool.Represents s) (a : LogicalAddress) :
    (pool.reserve a).2.Represents (if a = .broadcast then s else insert a s) := by
  rw [AddressPool.reserve]
  split
  · exact h
  · next ha =>
    split
    · next htaken =>
      rw [Finset.insert_eq_of_mem ((h.isTaken_iff a).1 htaken)]
      exact h
    · exact h.mark ha

theorem firstFree?_eq_find? (h : pool.Represents s) (kind : Device.Kind) :
    pool.firstFree? kind = kind.candidates.find? fun a => a ≠ .broadcast ∧ a ∉ s := by
  have htest : ∀ a, (decide (a ≠ .broadcast) && !pool.isTaken a) = decide (a ≠ .broadcast ∧ a ∉ s) := by
    intro a
    rw [Bool.decide_and, Bool.eq_iff_iff]
    simp [h.isTaken_eq_false]
  simp only [firstFree?, htest]

theorem obeys (h : pool.Represents s) : pool.Obeys s where
  allocate_of_free kind before a after hcandidates hbefore hshared hfree := by
    have hfirst : pool.firstFree? kind = some a := by
      rw [h.firstFree?_eq_find?, List.find?_eq_some_iff_append]
      refine ⟨decide_eq_true ⟨hshared, hfree⟩, before, after, hcandidates, fun b hb => ?_⟩
      simpa [or_iff_not_imp_left] using hbefore b hb
    rw [allocate, hfirst]
    exact ⟨rfl, h.mark hshared⟩
  allocate_of_full kind hfull := by
    have hfirst : pool.firstFree? kind = none := by
      rw [h.firstFree?_eq_find?, List.find?_eq_none]
      intro b hb
      simpa [or_iff_not_imp_left] using hfull b hb
    rw [allocate, hfirst]
    exact ⟨rfl, h⟩
  reserve_refused_iff := h.reserve_refused_iff
  reserve := h.reserve
  release := h.release

end Represents

/-! ### Histories -/

theorem serveAll_concat (calls : List Call) (call : Call) : serveAll (calls ++ [call]) =
    ((serveAll calls).1 ++ [((serveAll calls).2.serve call).1], ((serveAll calls).2.serve call).2) := by
  rw [serveAll, List.foldl_append]
  rfl

theorem not_held_nil : ¬ Held [] a := by
  rintro ⟨-, before, e, after, hsplit, -⟩
  simp at hsplit

theorem held_concat {e : Event} : Held (history ++ [e]) a ↔
    a ≠ .broadcast ∧ e.granted? = some a ∨ Held history a ∧ e ≠ .released a := by
  constructor
  · rintro ⟨hshared, before, granting, after, hsplit, hgranted, hkept⟩
    cases after using List.reverseRecOn with
    | nil =>
      obtain ⟨rfl, hlast⟩ := List.append_inj' hsplit rfl
      rw [List.singleton_inj] at hlast
      subst hlast
      exact .inl ⟨hshared, hgranted⟩
    | append_singleton after last =>
      rw [← List.cons_append, ← List.append_assoc] at hsplit
      obtain ⟨rfl, hlast⟩ := List.append_inj' hsplit rfl
      rw [List.singleton_inj] at hlast
      subst hlast
      rw [List.mem_append, not_or, List.mem_singleton] at hkept
      exact .inr ⟨⟨hshared, before, granting, after, rfl, hgranted, hkept.1⟩, Ne.symm hkept.2⟩
  · rintro (⟨hshared, hgranted⟩ | ⟨⟨hshared, before, granting, after, rfl, hgranted, hkept⟩, hlast⟩)
    · exact ⟨hshared, history, e, [], rfl, hgranted, List.not_mem_nil⟩
    · refine ⟨hshared, before, granting, after ++ [e], by simp, hgranted, ?_⟩
      rw [List.mem_append, not_or, List.mem_singleton]
      exact ⟨hkept, hlast.symm⟩

/-- What an event says about the addresses that are held is what its call did to the set. -/
theorem Represents.serve (h : pool.Represents s) (call : Call) : ∃ s', (pool.serve call).2.Represents s' ∧
    ∀ a, a ∈ s' ↔ a ≠ .broadcast ∧ (pool.serve call).1.granted? = some a ∨
      a ∈ s ∧ (pool.serve call).1 ≠ .released a := by
  cases call with
  | allocate kind =>
    rw [AddressPool.serve, AddressPool.allocate]
    cases hfirst : pool.firstFree? kind with
    | none =>
      refine ⟨s, h, fun a => ?_⟩
      simp [Event.granted?, eq_comm]
    | some b =>
      rw [h.firstFree?_eq_find?] at hfirst
      have hb : b ≠ .broadcast ∧ b ∉ s := by simpa using List.find?_some hfirst
      refine ⟨insert b s, h.mark hb.1, fun a => ?_⟩
      simp only [Logged.value_bind, Logged.value_pure, Prod.map_apply, Event.granted?, Finset.mem_insert,
        Option.some.injEq]
      constructor
      · rintro (rfl | ha)
        · exact .inl ⟨hb.1, rfl⟩
        · exact .inr ⟨ha, nofun⟩
      · rintro (⟨-, rfl⟩ | ⟨ha, -⟩)
        · exact .inl rfl
        · exact .inr ha
  | reserve b =>
    refine ⟨_, h.reserve b, fun a => ?_⟩
    have hgranted : (pool.serve (.reserve b)).1.granted? = some a ↔ b ∉ s ∧ b = a := by
      rw [← h.reserve_refused_iff]
      cases hanswer : (pool.reserve b).1 <;> simp [AddressPool.serve, Event.granted?, hanswer]
    have hkept : (pool.serve (.reserve b)).1 ≠ .released a := nofun
    rw [hgranted, and_iff_left hkept]
    by_cases hshared : b = .broadcast
    · subst hshared
      rw [if_pos rfl]
      exact ⟨.inr, fun hcase => hcase.resolve_left fun hnew => hnew.1 hnew.2.2.symm⟩
    · rw [if_neg hshared, Finset.mem_insert]
      constructor
      · rintro (rfl | ha)
        · by_cases hmem : a ∈ s
          · exact .inr hmem
          · exact .inl ⟨hshared, hmem, rfl⟩
        · exact .inr ha
      · rintro (⟨-, -, rfl⟩ | ha)
        · exact .inl rfl
        · exact .inr ha
  | release b =>
    refine ⟨s.erase b, h.release b, fun a => ?_⟩
    simp [AddressPool.serve, Event.granted?, and_comm, eq_comm]

/-- After every history there is one set that the pool stands for: the addresses held. -/
theorem exists_held_represented (calls : List Call) :
    ∃ s : Finset LogicalAddress, (∀ a, a ∈ s ↔ Held (serveAll calls).1 a) ∧ (serveAll calls).2.Represents s := by
  induction calls using List.reverseRecOn with
  | nil => exact ⟨∅, fun a => iff_of_false (Finset.notMem_empty a) not_held_nil, represents_empty⟩
  | append_singleton calls call ih =>
    obtain ⟨s, hheld, hs⟩ := ih
    obtain ⟨s', hs', hmem⟩ := hs.serve call
    rw [serveAll_concat]
    refine ⟨s', fun a => ?_, hs'⟩
    rw [hmem, held_concat, hheld]

/-- A pool that starts empty stands, after any calls, for the set of the addresses that were granted and not released
since, without the shared one: an address is taken if it is in the set, and there are as many taken addresses as
members. The next call gives the first address of a kind that is not in the set, or the shared one if there is none,
refuses to reserve what is in the set and nothing else, and takes out what is released and nothing else. -/
theorem exists_represented (calls : List Call) :
    ∃ s : Finset LogicalAddress, (∀ a, a ∈ s ↔ Held (serveAll calls).1 a) ∧ (serveAll calls).2.Represents s ∧
      (serveAll calls).2.Obeys s := by
  obtain ⟨s, hheld, hs⟩ := exists_held_represented calls
  exact ⟨s, hheld, hs, hs.obeys⟩

end CecBus.AddressPool
