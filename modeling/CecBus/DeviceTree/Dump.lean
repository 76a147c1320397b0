import CecBus.DeviceTree.Overview

/-! The overview of a tree as a document of its own, one entry a line and two blanks for each step in. It reads
back as JSON. -/

namespace CecBus

namespace Dump

/-- One character inside quotes. -/
def escapeChar (c : Char) : String :=
  match c with
  | '"' => "\\\""
  | '\\' => "\\\\"
  | '\x08' => "\\b"
  | '\t' => "\\t"
  | '\n' => "\\n"
  | '\x0c' => "\\f"
  | '\r' => "\\r"
  | c =>
    if c.toNat < 32 then
      "\\u00" ++ String.ofList [(c.toNat / 16).digitChar, (c.toNat % 16).digitChar]
    else c.toString

def quote (text : String) : String := "\"" ++ String.join (text.toList.map escapeChar) ++ "\""

def deeper (margin : String) : String := margin ++ "  "

/-- What stands between brackets, one item a line. -/
def block (margin opening closing : String) (items : List String) : String :=
  if items.isEmpty then opening ++ closing
  else
    opening ++ "\n" ++ ",\n".intercalate (items.map (deeper margin ++ ·)) ++ "\n" ++ margin ++ closing

def member (name value : String) : String := quote name ++ ": " ++ value

/-- A device, with the texts of the devices below it. -/
def device (margin : String) (d : Description) (below : List String) : String :=
  block margin "\x7b" "\x7d"
    [member "name" (quote d.name),
     member "device_type" (quote d.kind),
     member "power_status" (quote d.power),
     member "vendor" (quote d.vendor),
     member "physical_address" (quote d.physical),
     member "logical_address" ((d.logical.map fun a => toString a.code).getD "null"),
     member "active_source" (if d.isActiveSource then "true" else "false"),
     member "children" (block (deeper margin) "[" "]" below)]

/-- The devices of a forest at a margin. -/
def devices (margin : String) : Forest Description → List String
  | .nil => []
  | .cons d below beside =>
    device margin d (devices (deeper (deeper margin)) below) :: devices margin beside

end Dump

def DeviceTree.dump? (t : DeviceTree) : Option String :=
  t.overview?.map fun top => Dump.device "" top.value (Dump.devices "    " top.below)

end CecBus
