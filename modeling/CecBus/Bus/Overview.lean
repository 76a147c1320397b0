import CecBus.Bus

/-! What a bus reports about itself on request. -/

namespace CecBus.Bus

def headLine : String := ">>>>>>> >>>>> >>>> >> >> >"

def figureLine : String := "==========================="

def endLine : String := "================================="

def figure (name : String) (value : String) : String := name ++ ": " ++ value

def deviceFigure (b : Bus) : String := figure "Number of devices in Network  " (toString b.tree.count)

def portFigure (b : Bus) : String := figure "Number of Ports               " (toString b.ports.length)

/-- Reports figures and devices. -/
def printStatus (b : Bus) : Logged Unit := do
  reportInfo
    [headLine,
     figure "Emulated Device               " ((b.emulatedDevice?.map Device.name).getD "<missing>"),
     b.portFigure,
     b.deviceFigure,
     figure "Allocated logical addresses   " (toString b.pool.count),
     figureLine]
  b.tree.printMap
  reportInfo [endLine]

/-- Reports the devices. -/
def printDevices (b : Bus) : Logged Unit := do
  reportInfo [headLine, b.deviceFigure, figureLine]
  b.tree.printMap
  reportInfo [endLine]

def abilityFigure (p : Port) : String :=
  "PortCapabilities(" ++ (if p.abilities.isEmpty then "0x0" else p.abilityText) ++ ")"

/-- The lines of a port. -/
def portLines (p : Port) : List String :=
  [figure "Port Id        " (toString p.id.toNat),
   figure "Port type      " p.direction.name,
   figure "Capabilities   " (abilityFigure p)]

def printPorts (b : Bus) : Logged Unit :=
  reportInfo ([headLine, b.portFigure, endLine] ++ b.ports.flatMap portLines ++ [endLine])

end CecBus.Bus
