import CecBus.Opcode
import CecBus.WireError

/-! Opcodes by byte or by spelling. A spelling is a name of the table or `0x` and a byte in hexadecimal
digits. -/

namespace CecBus.Opcode

/-- The opcode with a byte, or the refusal of the byte. -/
def ofByte (b : UInt8) : Except WireError Opcode :=
  match ofByte? b with
  | some opcode => .ok opcode
  | none => .error (.opcode b.toNat)

/-- The opcode with a spelling. A spelling that names no byte is refused like byte zero. -/
def ofText (text : String) : Except WireError Opcode :=
  match Numeral.afterHexMark? text.toList with
  | some digits =>
    match Numeral.below? 16 256 digits with
    | some value => ofByte (UInt8.ofNat value)
    | none => .error (.opcode 0)
  | none =>
    match ofName? text with
    | some opcode => .ok opcode
    | none => .error (.opcode 0)

end CecBus.Opcode
