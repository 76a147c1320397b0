import CecBus.Text.Hex

/-! Logical addresses: the sixteen roles a device can take on the bus. The last one is shared by
broadcasts and by every device without an address of its own. -/

namespace CecBus

/-- A four-bit logical address, by the role it stands for. -/
inductive LogicalAddress where
  | tv
  | recordingDevice1
  | recordingDevice2
  | tuner1
  | playbackDevice1
  | audioSystem
  | tuner2
  | tuner3
  | playbackDevice2
  | recordingDevice3
  | tuner4
  | playbackDevice3
  | reserved1
  | reserved2
  | freeUse
  | broadcast
  deriving DecidableEq, Repr

namespace LogicalAddress

def all : List LogicalAddress := [tv, recordingDevice1, recordingDevice2, tuner1, playbackDevice1,
  audioSystem, tuner2, tuner3, playbackDevice2, recordingDevice3, tuner4, playbackDevice3, reserved1,
  reserved2, freeUse, broadcast]

/-- The address of a device that holds none of its own. -/
abbrev unregistered : LogicalAddress := broadcast

/-- The four-bit code. -/
def code : LogicalAddress → Nat
  | tv => 0
  | recordingDevice1 => 1
  | recordingDevice2 => 2
  | tuner1 => 3
  | playbackDevice1 => 4
  | audioSystem => 5
  | tuner2 => 6
  | tuner3 => 7
  | playbackDevice2 => 8
  | recordingDevice3 => 9
  | tuner4 => 10
  | playbackDevice3 => 11
  | reserved1 => 12
  | reserved2 => 13
  | freeUse => 14
  | broadcast => 15

/-- The address with a code; codes above fifteen name none. -/
def ofCode? (n : Nat) : Option LogicalAddress := all[n]?

@[simp] theorem ofCode?_code (a : LogicalAddress) : ofCode? a.code = some a := by cases a <;> rfl

theorem code_lt (a : LogicalAddress) : a.code < 16 := by cases a <;> decide

theorem code_injective {a b : LogicalAddress} (h : a.code = b.code) : a = b := by
  have := congrArg ofCode? h
  simpa using this

@[simp] theorem mem_all (a : LogicalAddress) : a ∈ all := by cases a <;> decide

/-- The role in words. -/
def role : LogicalAddress → String
  | tv => "Tv"
  | recordingDevice1 => "RecordingDevice1"
  | recordingDevice2 => "RecordingDevice2"
  | tuner1 => "Tuner1"
  | playbackDevice1 => "PlaybackDevice1"
  | audioSystem => "AudioSystem"
  | tuner2 => "Tuner2"
  | tuner3 => "Tuner3"
  | playbackDevice2 => "PlaybackDevice2"
  | recordingDevice3 => "RecordingDevice3"
  | tuner4 => "Tuner4"
  | playbackDevice3 => "PlaybackDevice3"
  | reserved1 => "Reserved1"
  | reserved2 => "Reserved2"
  | freeUse => "FreeUse"
  | broadcast => "Broadcast"

def text (a : LogicalAddress) : String := "0x" ++ Hex.padded 1 a.code

end LogicalAddress

end CecBus
