import CecBus.Text.Hex

/-! Power states of a device and their spelling in profiles. -/

namespace CecBus.Device

/-- The power state of a device. -/
inductive PowerStatus where
  | on
  | standby
  | standbyToOn
  | onToStandby
  | unknown
  deriving DecidableEq, Repr

namespace PowerStatus

def all : List PowerStatus := [on, standby, standbyToOn, onToStandby, unknown]

/-- The code in frames. -/
def code : PowerStatus → Nat
  | on => 0x00
  | standby => 0x01
  | standbyToOn => 0x02
  | onToStandby => 0x03
  | unknown => 0x99

def ofCode? (n : Nat) : Option PowerStatus := all.find? (·.code = n)

/-- The spelling in profiles; states in between have none. -/
def name? : PowerStatus → Option String
  | on => some "on"
  | standby => some "standby"
  | unknown => some "unknown"
  | standbyToOn | onToStandby => none

def ofName? (name : String) : Option PowerStatus := all.find? (·.name? = some name)

/-- The spelling, or the code of a state in between. -/
def text (s : PowerStatus) : String :=
  s.name?.getD ("transition(0x" ++ Hex.padded 2 s.code ++ ")")

end PowerStatus

end CecBus.Device
