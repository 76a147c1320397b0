import CecBus.Text.Hex

/-! Physical addresses: four nibbles that name a place in the tree of ports. The root is `0.0.0.0`, and
a device below another one writes its port into the first nibble that is still zero. -/

namespace CecBus

/-- Four nibbles, from the root outwards. -/
structure PhysicalAddress where
  a : Fin 16
  b : Fin 16
  c : Fin 16
  d : Fin 16
  deriving DecidableEq, Repr

namespace PhysicalAddress

def root : PhysicalAddress := ⟨0, 0, 0, 0⟩

/-- The place of a device that has been given none. -/
def invalid : PhysicalAddress := ⟨15, 15, 15, 15⟩

def nibbles (p : PhysicalAddress) : List (Fin 16) := [p.a, p.b, p.c, p.d]

/-- An address from four bytes, of which the low nibbles count. -/
def ofBytes (a b c d : Nat) : PhysicalAddress :=
  ⟨Fin.ofNat 16 a, Fin.ofNat 16 b, Fin.ofNat 16 c, Fin.ofNat 16 d⟩

def toNat (p : PhysicalAddress) : Nat := p.a * 4096 + p.b * 256 + p.c * 16 + p.d

def ofNat (n : Nat) : PhysicalAddress := ofBytes (n / 4096) (n / 256) (n / 16) n

@[simp] theorem ofNat_toNat (p : PhysicalAddress) : ofNat p.toNat = p := by
  obtain ⟨a, b, c, d⟩ := p
  simp only [ofNat, toNat, ofBytes, Fin.ofNat, mk.injEq, Fin.ext_iff]
  omega

/-- The place behind a port: the port goes into the first zero nibble, and a full address stays. -/
def child (p : PhysicalAddress) (port : Nat) : PhysicalAddress :=
  if p.a = 0 then { p with a := Fin.ofNat 16 port }
  else if p.b = 0 then { p with b := Fin.ofNat 16 port }
  else if p.c = 0 then { p with c := Fin.ofNat 16 port }
  else if p.d = 0 then { p with d := Fin.ofNat 16 port }
  else p

/-- The two bytes of the address, the high one first. -/
def bytes (p : PhysicalAddress) : List UInt8 :=
  [UInt8.ofNat (p.a * 16 + p.b), UInt8.ofNat (p.c * 16 + p.d)]

/-- The nibbles as lower-case digits with points between them. -/
def text (p : PhysicalAddress) : String :=
  ".".intercalate (p.nibbles.map fun n : Fin 16 => Hex.number n.val)

end PhysicalAddress

end CecBus
