import Mathlib.Data.List.Induction
import CecBus.Registry

/-! Handles over the life of a registry. A registry is served a list of calls, and the calls with their answers are
written down. What is written down decides everything: the generation of a slot is the number of its releases, as far
as a word can count them, and the handle that is live in a slot is the one it was issued under last, unless it was
released since. So a handle is new as long as fewer releases of its slot lie between than there are generations. Main
result: `accounted_of_requests`. -/

namespace CecBus

/-! ### Handles as words -/

theorem Handle.toNat_token (h : Handle) :
    h.token.toNat = h.generation.toNat * UInt32.size + (h.index.toNat + 1) % UInt32.size := by
  have hgeneration : h.generation.toNat < UInt32.size := h.generation.toNat_lt
  have hlow : (h.index.toNat + 1) % UInt32.size < 2 ^ 32 := Nat.mod_lt _ (by decide)
  have hhigh : h.generation.toNat * UInt32.size % UInt64.size = h.generation.toNat * UInt32.size := by
    apply Nat.mod_eq_of_lt
    simp only [UInt32.size, UInt64.size] at hgeneration ⊢
    omega
  have hparts : h.token.toNat = h.generation.toNat <<< 32 % UInt64.size ||| (h.index.toNat + 1) % UInt32.size := by
    rw [token, UInt64.toNat_or, UInt64.toNat_shiftLeft, UInt32.toNat_toUInt64, UInt32.toNat_toUInt64, UInt32.toNat_add]
    rfl
  have hshift : h.generation.toNat <<< 32 = h.generation.toNat * UInt32.size := Nat.shiftLeft_eq _ _
  rw [hparts, hshift, hhigh, ← hshift, Nat.shiftLeft_add_eq_or_of_lt hlow]

/-- The words and the handles stand for each other. -/
theorem Handle.ofToken_eq_iff {word : UInt64} {h : Handle} : ofToken word = h ↔ h.token = word := by
  have hword := word.toNat_lt
  have hindex := h.index.toNat_lt
  have hgeneration := h.generation.toNat_lt
  have hparts : ofToken word = h ↔ (word.toUInt32 - 1).toNat = h.index.toNat ∧
      (word >>> 32).toUInt32.toNat = h.generation.toNat := by
    obtain ⟨index, generation⟩ := h
    rw [UInt32.toNat_inj, UInt32.toNat_inj, ofToken, Handle.mk.injEq]
  rw [hparts, ← UInt64.toNat_inj, toNat_token]
  simp only [UInt32.size, UInt32.toNat_sub, UInt64.toNat_toUInt32, UInt64.toNat_shiftRight, UInt32.toNat_ofNat, UInt64.toNat_ofNat,
    Nat.shiftRight_eq_div_pow, Nat.reduceMod, Nat.reducePow, Nat.reduceSub] at hword hindex hgeneration ⊢
  omega

theorem Handle.token_ne_zero {h : Handle} (hindex : h.index.toNat + 1 < UInt32.size) : h.token ≠ 0 := by
  intro hzero
  have hvalue := h.toNat_token
  rw [Nat.mod_eq_of_lt hindex, hzero] at hvalue
  have hnonzero : (0 : UInt64).toNat = 0 := rfl
  omega

namespace Registry

/-! ### Calls, and what is written down of them -/

/-- A call on a registry. -/
inductive Request where
  | register
  | resolve (handle : Handle)
  | release (handle : Handle)

/-- A call with its answer. -/
inductive Event where
  | registered (answer : Option Handle)
  | resolved (handle : Handle) (answer : Bool)
  | released (handle : Handle) (answer : Bool)
  deriving DecidableEq

/-- How a call is answered, and the registry it leaves behind. -/
def serve (r : Registry) : Request → Event × Registry
  | .register =>
    match r.register? with
    | some (handle, next) => (.registered (some handle), next)
    | none => (.registered none, r)
  | .resolve handle => (.resolved handle (r.resolves handle), r)
  | .release handle =>
    match r.release? handle with
    | some next => (.released handle true, next)
    | none => (.released handle false, r)

/-- A registry and the calls that were made on it, the latest first. -/
structure Record where
  events : List Event
  registry : Registry

def Record.next (record : Record) (request : Request) : Record :=
  ⟨(record.registry.serve request).1 :: record.events, (record.registry.serve request).2⟩

/-- Calls are made on a new registry, one after the other. -/
def record (capacity : Nat) (requests : List Request) : Record :=
  requests.foldl Record.next ⟨[], ofCapacity capacity⟩

namespace Event

def issued? (index : UInt32) : Event → Option Handle
  | .registered (some handle) => if handle.index = index then some handle else none
  | _ => none

def releases (index : UInt32) : Event → Bool
  | .released handle true => handle.index = index
  | _ => false

@[simp] theorem issued?_registered (index : UInt32) (handle : Handle) :
    (registered (some handle)).issued? index = if handle.index = index then some handle else none := rfl

@[simp] theorem issued?_released (index : UInt32) (handle : Handle) (answer : Bool) :
    (released handle answer).issued? index = none := rfl

@[simp] theorem releases_registered (index : UInt32) (answer : Option Handle) :
    (registered answer).releases index = false := rfl

@[simp] theorem releases_released (index : UInt32) (handle : Handle) :
    (released handle true).releases index = decide (handle.index = index) := rfl

def isIssue : Event → Bool
  | .registered (some _) => true
  | _ => false

def isRelease : Event → Bool
  | .released _ true => true
  | _ => false

end Event

def releases (index : UInt32) (events : List Event) : Nat := events.countP (·.releases index)

def lastIssued? (index : UInt32) (events : List Event) : Option Handle := events.findSome? (·.issued? index)

/-- The handle that a slot was issued under, if it was not released since. -/
def heldUnder? (index : UInt32) : List Event → Option Handle
  | [] => none
  | event :: earlier => (event.issued? index).or (if event.releases index then none else heldUnder? index earlier)

def isLiveAt (r : Registry) (index : UInt32) : Bool := (r.slots[index.toNat]?).any (·.isLive)

def liveHandle? (r : Registry) (index : UInt32) : Option Handle :=
  (r.slots[index.toNat]?).bind fun slot => if slot.isLive then some ⟨index, slot.generation⟩ else none

variable {capacity : Nat} {events later earlier : List Event} {event : Event} {r next : Registry} {handle x : Handle}
  {index : UInt32}

/-! ### What a call changes -/

theorem modify_eq_set {i : Nat} {slot : Slot} {slots : List Slot} (hs : slots[i]? = some slot) (f : Slot → Slot) :
    slots.modify i f = slots.set i (f slot) := by
  obtain ⟨hlt, rfl⟩ := List.getElem?_eq_some_iff.1 hs
  apply List.ext_getElem?
  intro j
  rw [List.getElem?_modify, List.getElem?_set]
  by_cases hj : i = j
  · subst hj
    simp [hlt]
  · simp [hj]

theorem resolves_iff_liveHandle? : r.resolves handle = true ↔ r.liveHandle? handle.index = some handle := by
  obtain ⟨index, generation⟩ := handle
  cases hs : r.slots[index.toNat]? with
  | none => simp [resolves, liveHandle?, hs]
  | some slot => simp [resolves, liveHandle?, hs]

theorem isLiveAt_eq : r.isLiveAt index = (r.liveHandle? index).isSome := by
  cases hs : r.slots[index.toNat]? with
  | none => simp [isLiveAt, liveHandle?, hs]
  | some slot => cases hl : slot.isLive <;> simp [isLiveAt, liveHandle?, hs, hl]

/-- A handle is issued for a slot that is free, under the generation that the slot has. -/
theorem exists_slot_of_register? (h : r.register? = some (handle, next)) :
    ∃ (i : Nat) (slot : Slot), r.slots[i]? = some slot ∧ slot.isLive = false ∧
      handle = ⟨UInt32.ofNat i, slot.generation⟩ ∧ next = ⟨r.slots.set i { slot with isLive := true }⟩ := by
  obtain ⟨i, hi, he⟩ := Option.map_eq_some_iff.1 h
  obtain ⟨hlt, hfree, -⟩ := List.findIdx?_eq_some_iff_getElem.1 hi
  have hs : r.slots[i]? = some r.slots[i] := List.getElem?_eq_getElem hlt
  cases he
  refine ⟨i, r.slots[i], hs, by simpa using hfree, ?_, ?_⟩
  · rw [handleAt, hs]
    rfl
  · rw [modify_eq_set hs]

/-- A release takes the slot of a live handle to its next generation. -/
theorem exists_slot_of_release? (h : r.release? handle = some next) :
    ∃ slot : Slot, r.slots[handle.index.toNat]? = some slot ∧ slot.isLive = true ∧ slot.generation = handle.generation ∧
      next = ⟨r.slots.set handle.index.toNat slot.retire⟩ := by
  unfold release? at h
  split at h
  case isTrue hresolves =>
    obtain ⟨slot, hs, hslot⟩ := (Option.any_eq_true _ _).1 hresolves
    rw [Bool.and_eq_true, decide_eq_true_eq] at hslot
    cases h
    exact ⟨slot, hs, hslot.1, hslot.2, by rw [modify_eq_set hs]⟩
  case isFalse => cases h

theorem register?_eq_none : r.register? = none ↔ r.active = r.capacity := by
  rw [register?, Option.map_eq_none_iff, free?, List.findIdx?_eq_none_iff, active, capacity, List.countP_eq_length]
  simp

theorem isSome_release? : (r.release? handle).isSome = r.resolves handle := by
  cases h : r.resolves handle <;> simp [release?, h]

/-- Changing one slot changes the number of live ones by that slot. -/
theorem active_set {i : Nat} {slot : Slot} (hs : r.slots[i]? = some slot) (new : Slot) :
    active ⟨r.slots.set i new⟩ + (if slot.isLive then 1 else 0) = r.active + if new.isLive then 1 else 0 := by
  obtain ⟨hlt, rfl⟩ := List.getElem?_eq_some_iff.1 hs
  have hpos : (if r.slots[i].isLive then 1 else 0) ≤ r.slots.countP (·.isLive) := by
    split
    · next hl => exact List.countP_pos_iff.2 ⟨_, List.getElem_mem hlt, hl⟩
    · exact Nat.zero_le _
  rw [active, active, List.countP_set hlt]
  omega

theorem liveHandle?_set {i : Nat} {new : Slot} (hlt : i < r.slots.length) :
    liveHandle? ⟨r.slots.set i new⟩ index =
      if index.toNat = i then (if new.isLive then some ⟨index, new.generation⟩ else none) else r.liveHandle? index := by
  rw [liveHandle?, List.getElem?_set]
  by_cases hi : i = index.toNat
  · rw [if_pos hi, if_pos hlt, if_pos hi.symm]
    rfl
  · rw [if_neg hi, if_neg (Ne.symm hi), liveHandle?]

/-! ### What is written down -/

theorem releases_append : releases index (later ++ earlier) = releases index later + releases index earlier :=
  List.countP_append

theorem lastIssued?_of_heldUnder? (h : heldUnder? index events = some handle) : lastIssued? index events = some handle := by
  induction events with
  | nil => cases h
  | cons event earlier ih =>
    rw [heldUnder?] at h
    rw [lastIssued?, List.findSome?_cons]
    cases hi : event.issued? index with
    | some other =>
      rw [hi, Option.some_or] at h
      exact h
    | none =>
      rw [hi, Option.none_or] at h
      split at h
      · cases h
      · exact ih h

theorem isSome_heldUnder? (h : releases x.index later = 0) :
    (heldUnder? x.index (later ++ .registered (some x) :: earlier)).isSome := by
  induction later with
  | nil => simp [heldUnder?, Event.issued?]
  | cons event later ih =>
    rw [releases, List.countP_cons] at h
    have hnot : event.releases x.index = false := by
      cases he : event.releases x.index with
      | false => rfl
      | true => simp [he] at h
    rw [List.cons_append, heldUnder?, hnot, Option.isSome_or]
    simp [ih (by rw [releases]; omega)]

/-! ### The record and the registry agree -/

/-- A registry stands to the calls on it as they were written down. -/
structure Agrees (capacity : Nat) (events : List Event) (r : Registry) : Prop where
  length : r.slots.length = capacity
  generation (index : UInt32) (slot : Slot) : r.slots[index.toNat]? = some slot →
    slot.generation = UInt32.ofNat (releases index events)
  held (index : UInt32) : heldUnder? index events = r.liveHandle? index
  active : r.active + events.countP (·.isRelease) = events.countP (·.isIssue)
  issued (later earlier : List Event) (x : Handle) : events = later ++ .registered (some x) :: earlier →
    x.index.toNat < capacity ∧ x.generation = UInt32.ofNat (releases x.index earlier)

theorem agrees_ofCapacity (capacity : Nat) : Agrees capacity [] (ofCapacity capacity) where
  length := List.length_replicate
  generation index slot hs := by
    rw [ofCapacity, List.getElem?_replicate] at hs
    split at hs
    · cases hs
      rfl
    · cases hs
  held index := by
    rw [liveHandle?, ofCapacity, List.getElem?_replicate]
    split <;> rfl
  active := by simp [Registry.active, ofCapacity, List.countP_replicate]
  issued later earlier x h := by simp at h

namespace Agrees

theorem toNat_ofNat (h : Agrees capacity events r) (hcapacity : capacity < UInt32.size) {i : Nat} {slot : Slot}
    (hs : r.slots[i]? = some slot) : (UInt32.ofNat i).toNat = i := by
  obtain ⟨hlt, -⟩ := List.getElem?_eq_some_iff.1 hs
  rw [h.length] at hlt
  exact UInt32.toNat_ofNat_of_lt' (by omega)

theorem keep (h : Agrees capacity events r) (hissued : ∀ index, event.issued? index = none) (hissue : event.isIssue = false)
    (hreleases : ∀ index, event.releases index = false) (hrelease : event.isRelease = false) :
    Agrees capacity (event :: events) r where
  length := h.length
  generation index slot hs := by
    rw [releases, List.countP_cons_of_neg (by simp [hreleases])]
    exact h.generation index slot hs
  held index := by
    rw [heldUnder?, hissued, hreleases, Option.none_or]
    exact h.held index
  active := by
    rw [List.countP_cons_of_neg (by simp [hrelease]), List.countP_cons_of_neg (by simp [hissue])]
    exact h.active
  issued later earlier x he := by
    cases later with
    | nil =>
      cases he
      simp [Event.isIssue] at hissue
    | cons _ later =>
      cases he
      exact h.issued later earlier x rfl

theorem register (h : Agrees capacity events r) (hcapacity : capacity < UInt32.size)
    (hr : r.register? = some (handle, next)) : Agrees capacity (.registered (some handle) :: events) next := by
  obtain ⟨i, slot, hs, hfree, rfl, rfl⟩ := exists_slot_of_register? hr
  obtain ⟨hlt, -⟩ := List.getElem?_eq_some_iff.1 hs
  have hi := h.toNat_ofNat hcapacity hs
  have hat : r.slots[(UInt32.ofNat i).toNat]? = some slot := by rw [hi]; exact hs
  refine ⟨by rw [List.length_set]; exact h.length, fun index new hnew => ?_, fun index => ?_, ?_, fun later earlier x he => ?_⟩
  · rw [releases, List.countP_cons_of_neg (by simp)]
    rw [List.getElem?_set, if_pos hlt] at hnew
    split at hnew
    · next hindex =>
      cases hnew
      exact h.generation index slot (by rw [← hindex]; exact hs)
    · exact h.generation index new hnew
  · rw [heldUnder?, liveHandle?_set hlt, Event.issued?_registered, Event.releases_registered, h.held]
    by_cases hindex : index.toNat = i
    · have hsame : UInt32.ofNat i = index := UInt32.toNat_inj.1 (by rw [hi, hindex])
      rw [if_pos hindex, if_pos hsame, hsame]
      rfl
    · have hother : ¬ UInt32.ofNat i = index := fun hsame => hindex (by rw [← hsame, hi])
      rw [if_neg hindex, if_neg hother]
      rfl
  · have hcount := active_set hs { slot with isLive := true }
    have hactive := h.active
    rw [List.countP_cons_of_neg (by simp [Event.isRelease]), List.countP_cons_of_pos (by simp [Event.isIssue])]
    simp only [hfree, Bool.false_eq_true, if_false, if_true] at hcount
    omega
  · cases later with
    | nil =>
      cases he
      exact ⟨by rw [hi, ← h.length]; exact hlt, h.generation _ slot hat⟩
    | cons _ later =>
      cases he
      exact h.issued later earlier x rfl

theorem release (h : Agrees capacity events r) (hr : r.release? handle = some next) :
    Agrees capacity (.released handle true :: events) next := by
  obtain ⟨slot, hs, hlive, hgeneration, rfl⟩ := exists_slot_of_release? hr
  obtain ⟨hlt, -⟩ := List.getElem?_eq_some_iff.1 hs
  refine ⟨by rw [List.length_set]; exact h.length, fun index new hnew => ?_, fun index => ?_, ?_, fun later earlier x he => ?_⟩
  · rw [List.getElem?_set, if_pos hlt] at hnew
    split at hnew
    · next hindex =>
      obtain rfl : handle.index = index := UInt32.toNat_inj.1 hindex
      cases hnew
      rw [releases, List.countP_cons_of_pos (by simp), UInt32.ofNat_add, Slot.retire, h.generation _ slot hs]
      rfl
    · next hindex =>
      have hother : ¬ handle.index = index := fun hsame => hindex (by rw [hsame])
      rw [releases, List.countP_cons_of_neg (by simp [hother])]
      exact h.generation index new hnew
  · rw [heldUnder?, liveHandle?_set hlt, Event.issued?_released, Option.none_or, Event.releases_released, h.held]
    by_cases hindex : index.toNat = handle.index.toNat
    · have hsame : handle.index = index := UInt32.toNat_inj.1 hindex.symm
      rw [if_pos hindex, decide_eq_true hsame]
      rfl
    · have hother : ¬ handle.index = index := fun hsame => hindex (by rw [hsame])
      rw [if_neg hindex, decide_eq_false hother]
      rfl
  · have hcount := active_set hs slot.retire
    have hactive := h.active
    have hretired : slot.retire.isLive = false := rfl
    rw [List.countP_cons_of_pos (by simp [Event.isRelease]), List.countP_cons_of_neg (by simp [Event.isIssue])]
    simp only [hlive, hretired, Bool.false_eq_true, if_false, if_true] at hcount
    omega
  · cases later with
    | nil => cases he
    | cons _ later =>
      cases he
      exact h.issued later earlier x rfl

theorem serve (h : Agrees capacity events r) (hcapacity : capacity < UInt32.size) (request : Request) :
    Agrees capacity ((r.serve request).1 :: events) (r.serve request).2 := by
  cases request with
  | register =>
    rw [Registry.serve]
    split
    · next hr => exact h.register hcapacity hr
    · exact h.keep (fun _ => rfl) rfl (fun _ => rfl) rfl
  | resolve handle => exact h.keep (fun _ => rfl) rfl (fun _ => rfl) rfl
  | release handle =>
    rw [Registry.serve]
    split
    · next hr => exact h.release hr
    · exact h.keep (fun _ => rfl) rfl (fun _ => rfl) rfl

theorem record (hcapacity : capacity < UInt32.size) (requests : List Request) :
    Agrees capacity (record capacity requests).events (record capacity requests).registry := by
  induction requests using List.reverseRecOn with
  | nil => exact agrees_ofCapacity capacity
  | append_singleton requests request ih =>
    rw [Registry.record, List.foldl_append]
    exact ih.serve hcapacity request

/-- A free slot was released since each of its handles was issued, and its generation counts those releases. -/
theorem ne_of_register? (h : Agrees capacity events r) (hcapacity : capacity < UInt32.size)
    (hr : r.register? = some (handle, next)) (he : events = later ++ .registered (some x) :: earlier)
    (hfew : releases x.index later < UInt32.size) : x ≠ handle := by
  obtain ⟨i, slot, hs, hfree, rfl, -⟩ := exists_slot_of_register? hr
  have hi := h.toNat_ofNat hcapacity hs
  rintro rfl
  have hat : r.slots[(UInt32.ofNat i).toNat]? = some slot := by rw [hi]; exact hs
  -- the generation has moved on by the releases in between
  have hnow : slot.generation = UInt32.ofNat (releases (UInt32.ofNat i) events) := h.generation _ slot hat
  have hthen : slot.generation = UInt32.ofNat (releases (UInt32.ofNat i) earlier) := (h.issued later earlier _ he).2
  have hsum : releases (UInt32.ofNat i) events = releases (UInt32.ofNat i) later + releases (UInt32.ofNat i) earlier := by
    rw [he, releases_append]
    simp [releases, Event.releases]
  have hzero : UInt32.ofNat (releases (UInt32.ofNat i) later) = 0 := by
    rw [hnow, hsum, UInt32.ofNat_add] at hthen
    simpa using hthen
  have hnone : releases (UInt32.ofNat i) later = 0 := by
    rw [← UInt32.toNat_inj, UInt32.toNat_ofNat_of_lt' hfew] at hzero
    exact hzero
  -- so there were none, and the slot is not free
  have hheld : (heldUnder? (UInt32.ofNat i) events).isSome := by
    rw [he]
    exact isSome_heldUnder? (x := ⟨UInt32.ofNat i, slot.generation⟩) hnone
  rw [h.held, liveHandle?, hat] at hheld
  simp [hfree] at hheld

end Agrees

/-! ### What callers see -/

/-- What calls on a registry come to for those who make them. The releases of a slot that lie between two calls are
those among the events between them. -/
structure Accounted (capacity : Nat) (events : List Event) (r : Registry) : Prop where
  refused : r.register? = none ↔ r.active = capacity
  distinct (handle : Handle) (next : Registry) : r.register? = some (handle, next) → ∀ x, r.resolves x = true → x ≠ handle
  fresh (handle : Handle) (next : Registry) : r.register? = some (handle, next) →
    ∀ later earlier x, events = later ++ .registered (some x) :: earlier → releases x.index later < UInt32.size → x ≠ handle
  live (index : UInt32) : r.isLiveAt index = (heldUnder? index events).isSome
  resolves (handle : Handle) : r.resolves handle = true ↔
    r.isLiveAt handle.index = true ∧ lastIssued? handle.index events = some handle
  release (handle : Handle) : (r.release? handle).isSome = r.resolves handle
  released (handle : Handle) (next : Registry) : r.release? handle = some next →
    next.isLiveAt handle.index = false ∧ next.capacity = capacity ∧
      ∀ i, i ≠ handle.index.toNat → next.slots[i]? = r.slots[i]?
  active : r.active + events.countP (·.isRelease) = events.countP (·.isIssue)
  token (x : Handle) : .registered (some x) ∈ events → x.token ≠ 0
  zero : r.resolves (.ofToken 0) = false

namespace Agrees

theorem resolves_iff (h : Agrees capacity events r) :
    r.resolves handle = true ↔ r.isLiveAt handle.index = true ∧ lastIssued? handle.index events = some handle := by
  rw [resolves_iff_liveHandle?, isLiveAt_eq, ← h.held]
  constructor
  · intro hheld
    exact ⟨by rw [hheld]; rfl, lastIssued?_of_heldUnder? hheld⟩
  · rintro ⟨hlive, hlast⟩
    obtain ⟨x, hx⟩ := Option.isSome_iff_exists.1 hlive
    rw [hx, ← lastIssued?_of_heldUnder? hx, hlast]

theorem resolves_zero (h : Agrees capacity events r) (hcapacity : capacity < UInt32.size) :
    r.resolves (.ofToken 0) = false := by
  have hindex : (Handle.ofToken 0).index.toNat = UInt32.size - 1 := rfl
  have hout : r.slots[(Handle.ofToken 0).index.toNat]? = none := by
    rw [List.getElem?_eq_none_iff, hindex, h.length]
    omega
  rw [Registry.resolves, hout]
  rfl

theorem accounted (h : Agrees capacity events r) (hcapacity : capacity < UInt32.size) : Accounted capacity events r where
  refused := by rw [register?_eq_none, Registry.capacity, h.length]
  distinct handle next hr x hx := by
    obtain ⟨i, slot, hs, hfree, rfl, -⟩ := exists_slot_of_register? hr
    have hi := h.toNat_ofNat hcapacity hs
    rintro rfl
    rw [Registry.resolves, hi, hs] at hx
    simp [hfree] at hx
  fresh handle next hr later earlier x he hfew := h.ne_of_register? hcapacity hr he hfew
  live index := by rw [isLiveAt_eq, h.held]
  resolves handle := h.resolves_iff
  release handle := isSome_release?
  released handle next hr := by
    obtain ⟨slot, hs, -, -, rfl⟩ := exists_slot_of_release? hr
    obtain ⟨hlt, -⟩ := List.getElem?_eq_some_iff.1 hs
    refine ⟨?_, by rw [Registry.capacity, List.length_set, h.length], fun i hi => List.getElem?_set_ne (Ne.symm hi)⟩
    rw [isLiveAt, List.getElem?_set_self hlt]
    rfl
  active := h.active
  token x hx := by
    obtain ⟨later, earlier, he⟩ := List.append_of_mem hx
    have hindex := (h.issued later earlier x he).1
    exact Handle.token_ne_zero (by omega)
  zero := h.resolves_zero hcapacity

end Agrees

/-- Whatever calls are made on a registry, with whatever handles: a handle is issued unless all slots are live; it is
none of the live ones, and none that was issued for a slot with fewer releases since than there are generations. A
handle is live if its slot is and was issued under it last; releasing it ends that and nothing else. Handles and words
stand for each other, and the word zero for no handle that is ever live. -/
theorem accounted_of_requests (hcapacity : capacity < UInt32.size) (requests : List Request) :
    Accounted capacity (record capacity requests).events (record capacity requests).registry ∧
      (∀ handle : Handle, .ofToken handle.token = handle) ∧ ∀ word : UInt64, (Handle.ofToken word).token = word :=
  ⟨(Agrees.record hcapacity requests).accounted hcapacity, fun _ => Handle.ofToken_eq_iff.2 rfl,
    fun _ => Handle.ofToken_eq_iff.1 rfl⟩

/-- A slot that is issued, refused, released and issued again, and a release of the handle that was there before. -/
def reissuing : List Request :=
  [.register, .register, .release ⟨0, 0⟩, .register, .release (.ofToken 1), .resolve (.ofToken 0x100000001)]

theorem reissuing_accounted : 1 < UInt32.size ∧
    (record 1 reissuing).events = [.resolved ⟨0, 1⟩ true, .released ⟨0, 0⟩ false, .registered (some ⟨0, 1⟩),
      .released ⟨0, 0⟩ true, .registered none, .registered (some ⟨0, 0⟩)] ∧
    Accounted 1 (record 1 reissuing).events (record 1 reissuing).registry :=
  ⟨by decide, by decide, (accounted_of_requests (by decide) reissuing).1⟩

end Registry

end CecBus
