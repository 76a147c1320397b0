import CecBus.Address.Logical

/-! Why bytes, codes or spellings of the bus protocol are refused. -/

namespace CecBus

/-- A refusal, with what was found. -/
inductive WireError where
  | empty
  | address (code : Nat)
  | opcode (byte : Nat)
  | size (length : Nat)
  deriving DecidableEq, Repr

/-- The wording of a refusal. -/
def WireError.message : WireError → String
  | .empty => "empty frame"
  | .address code => "invalid logical address: " ++ toString code
  | .opcode byte => "unknown opcode 0x" ++ Hex.padded 2 byte
  | .size length => "size limit exceeded: " ++ toString length

/-- The logical address with a code, or the refusal of the code. -/
def LogicalAddress.ofCode (code : Nat) : Except WireError LogicalAddress :=
  match LogicalAddress.ofCode? code with
  | some address => .ok address
  | none => .error (.address code)

end CecBus
