import CecBus.Address.Logical

/-! The kinds of devices, their spelling in profiles, and the logical addresses each kind may take. -/

namespace CecBus.Device

/-- What a device is. -/
inductive Kind where
  | tv
  | recorder
  | reserved
  | tuner
  | playback
  | audioSystem
  | freeUse
  | unregistered
  | unknown
  deriving DecidableEq, Repr

namespace Kind

def all : List Kind :=
  [tv, recorder, reserved, tuner, playback, audioSystem, freeUse, unregistered, unknown]

/-- The code in frames. -/
def code : Kind → Nat
  | tv => 0
  | recorder => 1
  | reserved => 2
  | tuner => 3
  | playback => 4
  | audioSystem => 5
  | freeUse => 6
  | unregistered => 7
  | unknown => 8

def ofCode? (n : Nat) : Option Kind := all[n]?

/-- The spelling in profiles; some kinds have none. -/
def name? : Kind → Option String
  | tv => some "TV"
  | playback => some "PlaybackDevice"
  | audioSystem => some "AudioSystem"
  | recorder => some "RecordingDevice"
  | tuner => some "Tuner"
  | reserved => some "Reserved"
  | freeUse | unregistered | unknown => none

def ofName? (name : String) : Option Kind := all.find? (·.name? = some name)

def text (k : Kind) : String := k.name?.getD "Unknown"

/-- The logical addresses a device of this kind may take, the preferred one first. -/
def candidates : Kind → List LogicalAddress
  | tv => [.tv, .freeUse]
  | playback => [.playbackDevice1, .playbackDevice2, .playbackDevice3]
  | audioSystem => [.audioSystem]
  | recorder => [.recordingDevice1, .recordingDevice2, .recordingDevice3]
  | tuner => [.tuner1, .tuner2, .tuner3, .tuner4]
  | reserved | freeUse | unregistered | unknown => [.unregistered]

@[simp] theorem ofCode?_code (k : Kind) : ofCode? k.code = some k := by cases k <;> rfl

end Kind

end CecBus.Device
