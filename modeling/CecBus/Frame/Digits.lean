import CecBus.Text.Numeral
import CecBus.Text.Quoted

/-! Frames as a user types them: pairs of hexadecimal digits, with colons, blanks and dashes anywhere. The text
is cut by its bytes, two at a time, and a cut can fall into the middle of a character. -/

namespace CecBus.FrameDigits

/-- Why a text is no frame. -/
inductive Fault where
  | count (text : String)
  | digit (text : String)
  | splitCharacter
  deriving DecidableEq, Repr

/-- The wording of a fault. -/
def Fault.message : Fault → String
  | .count text =>
    "frame " ++ Text.quote text ++ " must hold an even, non-zero number of hex digits"
  | .digit text => "invalid hex byte in frame " ++ Text.quote text
  | .splitCharacter => "a character is cut in two"

def Fault.causes : Fault → List String
  | .digit _ => ["invalid digit found in string"]
  | _ => []

def isSeparator (c : Char) : Bool := c = ':' || c = ' ' || c = '-'

def byteCount (text : List Char) : Nat := text.foldr (fun c rest => c.utf8Size + rest) 0

/-- The value of two bytes of text. -/
def pairValue? (pair : List Char) : Option UInt8 := (Numeral.below? 16 256 pair).map UInt8.ofNat

/-- Reads two bytes of text at a time. `source` is the whole text. -/
def readPairs (source : String) : List Char → Except Fault (List UInt8)
  | [] => .ok []
  | [c] => .error (if c.utf8Size = 2 then .digit source else .splitCharacter)
  | a :: b :: rest =>
    if a.utf8Size = 2 then .error (.digit source)
    else if a.utf8Size = 1 ∧ b.utf8Size = 1 then
      match pairValue? [a, b] with
      | none => .error (.digit source)
      | some byte => do
        let bytes ← readPairs source rest
        pure (byte :: bytes)
    else .error .splitCharacter

/-- The bytes of a frame that a user typed. -/
def bytesOf (text : String) : Except Fault (List UInt8) :=
  let digits := text.toList.filter (!isSeparator ·)
  if digits.isEmpty || byteCount digits % 2 = 1 then .error (.count text) else readPairs text digits

end CecBus.FrameDigits
