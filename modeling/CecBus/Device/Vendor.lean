import CecBus.Text.Hex

/-! Vendors by name and by their 24-bit code. -/

namespace CecBus.Device

/-- The code of a vendor. Frames carry its low 24 bits. -/
structure Vendor where
  code : UInt32
  deriving DecidableEq, Repr

namespace Vendor

def unknown : Vendor := ⟨0⟩

/-- The vendors with a name. -/
def table : List (String × UInt32) := [
  ("TOSHIBA", 0x000039),
  ("SAMSUNG", 0x0000F0),
  ("DENON", 0x0005CD),
  ("MARANTZ", 0x000678),
  ("LOEWE", 0x000982),
  ("ONKYO", 0x0009B0),
  ("MEDION", 0x000CB8),
  ("TOSHIBA2", 0x000CE7),
  ("APPLE", 0x0010FA),
  ("HARMAN_KARDON2", 0x001950),
  ("GOOGLE", 0x001A11),
  ("AKAI", 0x0020C7),
  ("AOC", 0x002467),
  ("PANASONIC", 0x008045),
  ("PHILIPS", 0x00903E),
  ("DAEWOO", 0x009053),
  ("YAMAHA", 0x00A0DE),
  ("GRUNDIG", 0x00D0D5),
  ("PIONEER", 0x00E036),
  ("LG", 0x00E091),
  ("SHARP", 0x08001F),
  ("SONY", 0x080046),
  ("BROADCOM", 0x18C086),
  ("SHARP2", 0x534850),
  ("VIZIO", 0x6B746D),
  ("BENQ", 0x8065E9),
  ("HARMAN_KARDON", 0x9C645E),
  ("UNKNOWN", 0x000000)]

def ofName? (name : String) : Option Vendor := (table.lookup name).map Vendor.mk

def name? (v : Vendor) : Option String := (table.find? (·.2 = v.code)).map (·.1)

/-- The three bytes of the code, the high one first. -/
def bytes (v : Vendor) : List UInt8 :=
  [(v.code >>> 16).toUInt8, (v.code >>> 8).toUInt8, v.code.toUInt8]

def text (v : Vendor) : String := v.name?.getD ("0x" ++ Hex.padded 6 v.code.toNat)

end Vendor

end CecBus.Device
