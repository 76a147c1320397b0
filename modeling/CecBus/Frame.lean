import CecBus.Address.Logical
import CecBus.Opcode

/-! Frames on the bus. A frame has a header with initiator and destination, perhaps an opcode, and at
most 64 parameter bytes; what does not fit any more is left out. -/

namespace CecBus

def Frame.maxParameters : Nat := 64

/-- One frame. An address that is not known is absent, and so is the opcode of a frame that polls. -/
structure Frame where
  initiator : Option LogicalAddress := none
  destination : Option LogicalAddress := none
  opcode : Option Opcode := none
  parameters : List UInt8 := []
  parameters_length : parameters.length ≤ Frame.maxParameters := by decide
  deriving DecidableEq

namespace Frame

def maxSize : Nat := 2 + maxParameters

def empty : Frame := {}

def addressed (initiator destination : LogicalAddress) (opcode : Option Opcode) : Frame :=
  { initiator := some initiator, destination := some destination, opcode := opcode }

/-- Adds one parameter byte unless the frame is full; with it comes the number of bytes kept. -/
def push (f : Frame) (byte : UInt8) : Frame × Nat :=
  if full : maxParameters ≤ f.parameters.length then (f, 0)
  else
    ({ f with
        parameters := f.parameters ++ [byte]
        parameters_length := by simp only [List.length_append, List.length_singleton]; omega }, 1)

def room (f : Frame) : Nat := maxParameters - f.parameters.length

/-- Adds parameter bytes as far as they fit; with it comes the number of bytes kept. -/
def append (f : Frame) (bytes : List UInt8) : Frame × Nat :=
  ({ f with
      parameters := f.parameters ++ bytes.take f.room
      parameters_length := by
        have := f.parameters_length
        simp only [List.length_append, List.length_take, room]
        omega }, min bytes.length f.room)

/-- A frame with parameter bytes, as far as they fit. -/
def withParameters (f : Frame) (bytes : List UInt8) : Frame := (f.append bytes).1

end Frame

end CecBus
