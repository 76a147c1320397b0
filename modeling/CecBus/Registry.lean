import CecBus.Text.Hex

/-! Handles, and the registry that says which of them are live. A handle names a slot and the generation it
was issued under; releasing it starts a new generation, so it never becomes live again by itself. -/

namespace CecBus

/-- A handle. -/
structure Handle where
  index : UInt32
  generation : UInt32
  deriving DecidableEq, Repr

namespace Handle

/-- The handle as one word: the generation above, and below the index counted from one. -/
def token (h : Handle) : UInt64 := h.generation.toUInt64 <<< 32 ||| (h.index + 1).toUInt64

/-- The handle of a word. A word that is zero below names a slot that no registry has. -/
def ofToken (token : UInt64) : Handle := ⟨token.toUInt32 - 1, (token >>> 32).toUInt32⟩

def text (h : Handle) : String := "0x" ++ Hex.number h.token.toNat

end Handle

/-- One slot of a registry. -/
structure Registry.Slot where
  generation : UInt32 := 0
  isLive : Bool := false
  deriving DecidableEq, Repr

/-- A fixed number of slots. -/
structure Registry where
  slots : List Registry.Slot
  deriving DecidableEq, Repr

namespace Registry

def ofCapacity (capacity : Nat) : Registry := ⟨List.replicate capacity {}⟩

def capacity (r : Registry) : Nat := r.slots.length

def free? (r : Registry) : Option Nat := r.slots.findIdx? (!·.isLive)

def handleAt (r : Registry) (index : Nat) : Handle :=
  ⟨UInt32.ofNat index, (r.slots[index]?.map Slot.generation).getD 0⟩

/-- Issues a handle for the first free slot. -/
def register? (r : Registry) : Option (Handle × Registry) :=
  r.free?.map fun index =>
    (r.handleAt index, ⟨r.slots.modify index fun slot => { slot with isLive := true }⟩)

def resolves (r : Registry) (h : Handle) : Bool :=
  (r.slots[h.index.toNat]?).any fun slot => slot.isLive && slot.generation = h.generation

def Slot.retire (slot : Slot) : Slot := { generation := slot.generation + 1, isLive := false }

/-- Releases a handle that is live. -/
def release? (r : Registry) (h : Handle) : Option Registry :=
  if r.resolves h then some ⟨r.slots.modify h.index.toNat Slot.retire⟩ else none

def active (r : Registry) : Nat := r.slots.countP (·.isLive)

end Registry

end CecBus
