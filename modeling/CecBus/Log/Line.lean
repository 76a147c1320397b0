import CecBus.Decimal.Layout
import CecBus.Log
import CecBus.Text.Quoted

/-! One entry as a line of text: time, service, level, message and fields. The columns of service and
level have fixed widths, so messages start at the same place. -/

namespace CecBus.Log

def serviceWidth : Nat := 16

def levelWidth : Nat := 9

def padEnd (width : Nat) (text : List Char) : List Char :=
  text ++ List.replicate (width - text.length) ' '

/-- The service column. A component replaces the name of the service; a name that is too long ends in an
ellipsis. -/
def serviceColumn (service : String) (component : Option String) : String :=
  let name := (match component with
    | some component => "cec-" ++ component
    | none => service).toList
  String.ofList
    (if serviceWidth < name.length then name.take (serviceWidth - 1) ++ ['…'] else padEnd serviceWidth name)

/-- The mark and the name of a level. -/
def levelLabel : Level → String
  | .error => "✗ ERROR"
  | .warn => "⚠ WARN"
  | .info => "ℹ INFO"
  | .debug => "◦ DEBUG"
  | .trace => "◦ TRACE"

def levelColumn (level : Level) : String := String.ofList (padEnd levelWidth (levelLabel level).toList)

/-- A message that is quoted as a whole is shown without its quotes. -/
def unquoted (message : String) : String :=
  match message.toList with
  | '"' :: rest => if rest.getLast? = some '"' then String.ofList rest.dropLast else message
  | _ => message

/-- Numbers in fields are positional from `0.0001` up to sixteen digits before the point, and a tie goes up. -/
def numberLayout : Decimal.Layout := ⟨-4, 16, "inf", "NaN", .up⟩

/-- The text of a field value. Quoted text loses the quotes and keeps the escapes. -/
def fieldText : FieldValue → String
  | .text value => value
  | .quoted value => Text.escape value
  | .integer value => toString value
  | .real value => numberLayout.write value
  | .flag value => if value then "true" else "false"

/-- The whole line, with its line end. -/
def line (time service : String) (entry : Entry) : String :=
  "[" ++ time ++ "] [" ++ serviceColumn service entry.component ++ "] [" ++ levelColumn entry.level ++ "] "
    ++ unquoted entry.message
    ++ String.join (entry.fields.map fun (key, value) => " " ++ key ++ "=" ++ fieldText value) ++ "\n"

end CecBus.Log
