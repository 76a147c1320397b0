import CecBus.Address.Logical
import CecBus.Device.Kind
import CecBus.Log

/-! Which logical addresses are taken. One bit stands for each address; that of the shared address is never
set. -/

namespace CecBus

/-- The marks of the sixteen addresses. -/
structure AddressPool where
  marks : BitVec 16 := 0#16
  deriving DecidableEq, Repr

namespace AddressPool

def empty : AddressPool := {}

def isTaken (pool : AddressPool) (address : LogicalAddress) : Bool := pool.marks.getLsbD address.code

def mark (pool : AddressPool) (address : LogicalAddress) : AddressPool :=
  ⟨pool.marks ||| BitVec.twoPow 16 address.code⟩

def release (pool : AddressPool) (address : LogicalAddress) : AddressPool :=
  ⟨pool.marks &&& ~~~BitVec.twoPow 16 address.code⟩

/-- Claims one address; with the pool comes whether it is granted. The shared one always is. -/
def reserve (pool : AddressPool) (address : LogicalAddress) : Bool × AddressPool :=
  if address = .broadcast then (true, pool)
  else if pool.isTaken address then (false, pool)
  else (true, pool.mark address)

def firstFree? (pool : AddressPool) (kind : Device.Kind) : Option LogicalAddress :=
  kind.candidates.find? fun address => address ≠ .broadcast && !pool.isTaken address

/-- Takes the first free address for a kind. Without one the device is left unregistered. -/
def allocate (pool : AddressPool) (kind : Device.Kind) : Logged (LogicalAddress × AddressPool) :=
  match pool.firstFree? kind with
  | some address => do
    report .debug ("Allocated logical address " ++ address.text ++ " for " ++ kind.text)
    pure (address, pool.mark address)
  | none => do
    report .warn ("No free logical address for " ++ kind.text ++ ", using unregistered")
    pure (.unregistered, pool)

def taken (pool : AddressPool) : List LogicalAddress := LogicalAddress.all.filter pool.isTaken

def count (pool : AddressPool) : Nat := pool.taken.length

theorem isTaken_mark (pool : AddressPool) (a b : LogicalAddress) :
    (pool.mark a).isTaken b = (pool.isTaken b || a = b) := by
  simp only [isTaken, mark, BitVec.getLsbD_or, BitVec.getLsbD_twoPow]
  cases a <;> cases b <;> simp [LogicalAddress.code]

theorem isTaken_release (pool : AddressPool) (a b : LogicalAddress) :
    (pool.release a).isTaken b = (pool.isTaken b && a ≠ b) := by
  simp only [isTaken, release, BitVec.getLsbD_and, BitVec.getLsbD_not, BitVec.getLsbD_twoPow]
  cases a <;> cases b <;> simp [LogicalAddress.code]

theorem isTaken_empty (a : LogicalAddress) : empty.isTaken a = false := by
  cases a <;> rfl

end AddressPool

end CecBus
