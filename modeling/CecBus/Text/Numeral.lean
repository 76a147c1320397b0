import CecBus.Text.Hex

/-! Numerals as configuration text spells them: an optional plus sign and digits of one base, with a
bound on the value. -/

namespace CecBus.Numeral

/-- The value of a digit in a base up to sixteen. -/
def digit? (base : Nat) (c : Char) : Option Nat := (Hex.digit? c).filter (· < base)

/-- The value of a run of digits, most significant first, on top of what was read before. -/
def digits? (base : Nat) : List Char → Nat → Option Nat
  | [], value => some value
  | c :: rest, value => do
    let d ← digit? base c
    digits? base rest (value * base + d)

/-- Reads digits after at most one plus sign; there has to be a digit and nothing else. -/
def unsigned? (base : Nat) (text : List Char) : Option Nat :=
  match text with
  | '+' :: rest => if rest.isEmpty then none else digits? base rest 0
  | [] => none
  | rest => digits? base rest 0

def below? (base bound : Nat) (text : List Char) : Option Nat :=
  (unsigned? base text).filter (· < bound)

def word? (text : String) : Option Nat := below? 10 UInt64.size text.toList

/-- Splits off a prefix. -/
def dropPrefix? : List Char → List Char → Option (List Char)
  | [], text => some text
  | c :: lead, d :: text => if c = d then dropPrefix? lead text else none
  | _ :: _, [] => none

def afterHexMark? (text : List Char) : Option (List Char) :=
  (dropPrefix? ['0', 'x'] text).orElse fun _ => dropPrefix? ['0', 'X'] text

/-- A numeral below 2^64, in hexadecimal digits after `0x` or `0X` and in decimal ones otherwise. -/
def marked? (text : List Char) : Option Nat :=
  match afterHexMark? text with
  | some digits => below? 16 UInt64.size digits
  | none => below? 10 UInt64.size text

end CecBus.Numeral
