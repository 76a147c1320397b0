import CecBus.Frame
import CecBus.Opcode.Spelling

/-! Frames as bytes: a header byte with both addresses, the opcode byte if there is one, and the
parameters. Reading takes one to 66 bytes and knows the opcodes of the table only. -/

namespace CecBus.Frame

/-- The nibble of an address; one that is not known is written like a broadcast. -/
def nibble (address : Option LogicalAddress) : Nat := (address.getD .broadcast).code

/-- The first byte: initiator in the high nibble, destination in the low one. -/
def header (f : Frame) : UInt8 := UInt8.ofNat (16 * nibble f.initiator + nibble f.destination)

def bytes (f : Frame) : List UInt8 :=
  f.header :: ((f.opcode.map Opcode.byte).toList ++ f.parameters)

def size (f : Frame) : Nat := 1 + (if f.opcode.isSome then 1 else 0) + f.parameters.length

/-- Puts bytes over those of a buffer from an offset on. -/
def overwrite (buffer : List UInt8) (offset : Nat) (bytes : List UInt8) : List UInt8 :=
  buffer.take offset ++ bytes ++ buffer.drop (offset + bytes.length)

/-- Writes a frame piece by piece over the start of a buffer. A buffer that is too short stays as it is. -/
def writeInto (f : Frame) (buffer : List UInt8) : List UInt8 :=
  if buffer.length < f.size then buffer
  else
    let buffer := overwrite buffer 0 [f.header]
    match f.opcode with
    | some opcode => overwrite (overwrite buffer 1 [opcode.byte]) 2 f.parameters
    | none => overwrite buffer 1 f.parameters

/-- The frame written behind what a buffer holds. -/
def writeAfter (f : Frame) (buffer : List UInt8) : List UInt8 :=
  let buffer := buffer ++ [f.header]
  let buffer := match f.opcode with
    | some opcode => buffer ++ [opcode.byte]
    | none => buffer
  buffer ++ f.parameters

/-- The bytes in upper case with colons between them. -/
def text (f : Frame) : String :=
  String.ofList
    (Hex.upperByte f.header
      ++ (f.opcode.map fun o => ':' :: Hex.upperByte o.byte).getD []
      ++ f.parameters.flatMap fun b => ':' :: Hex.upperByte b)

/-- The addresses of a header byte. -/
def ofHeader (head : UInt8) : Except WireError Frame := do
  let initiator ← LogicalAddress.ofCode (head.toNat / 16)
  let destination ← LogicalAddress.ofCode (head.toNat % 16)
  pure (addressed initiator destination none)

/-- Reads a frame. A header alone is a frame without opcode. -/
def ofBytes : List UInt8 → Except WireError Frame
  | [] => .error .empty
  | [head] => ofHeader head
  | head :: byte :: parameters =>
    if fits : parameters.length ≤ maxParameters then do
      let frame ← ofHeader head
      let opcode ← Opcode.ofByte byte
      pure { frame with opcode := some opcode, parameters := parameters, parameters_length := fits }
    else .error (.size (parameters.length + 2))

end CecBus.Frame
