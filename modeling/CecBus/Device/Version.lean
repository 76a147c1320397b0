/-! Versions of the bus protocol a device can follow. -/

namespace CecBus.Device

/-- The protocol version of a device. -/
inductive Version where
  | unknown
  | v1_2
  | v1_2a
  | v1_3
  | v1_3a
  | v1_4
  | v2_0
  deriving DecidableEq, Repr

namespace Version

def all : List Version := [unknown, v1_2, v1_2a, v1_3, v1_3a, v1_4, v2_0]

/-- The code in frames and in profiles. -/
def code : Version → Nat
  | unknown => 0
  | v1_2 => 1
  | v1_2a => 2
  | v1_3 => 3
  | v1_3a => 4
  | v1_4 => 5
  | v2_0 => 6

/-- The version with a code; every other code is unknown. -/
def ofCode (n : Nat) : Version := all[n]?.getD unknown

end Version

end CecBus.Device
