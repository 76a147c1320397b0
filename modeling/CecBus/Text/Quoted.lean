import CecBus.Text.Hex
import CecBus.Text.Shown

/-! Text between double quotes. Quotes and backslashes inside are escaped, tabs and line ends have short
escapes, and a character that cannot be shown is spelled by its code point. -/

namespace CecBus.Text

/-- One character inside quotes. -/
def escapeChar (c : Char) : List Char :=
  match c with
  | '\x00' => ['\\', '0']
  | '\t' => ['\\', 't']
  | '\n' => ['\\', 'n']
  | '\r' => ['\\', 'r']
  | '"' => ['\\', '"']
  | '\\' => ['\\', '\\']
  | c => if isShown c then [c] else "\\u\x7b".toList ++ Nat.toDigits 16 c.toNat ++ ['\x7d']

def escape (text : String) : String := String.ofList (text.toList.flatMap escapeChar)

def quote (text : String) : String := "\"" ++ escape text ++ "\""

end CecBus.Text
