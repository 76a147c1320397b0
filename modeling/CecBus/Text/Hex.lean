/-! Bytes as pairs of hexadecimal digits, written in either case with or without a separator, and read
back from digit pairs. -/

namespace CecBus.Hex

/-- The value of a hexadecimal digit of either case. -/
def digit? (c : Char) : Option Nat :=
  if '0' ≤ c ∧ c ≤ '9' then some (c.toNat - 48)
  else if 'a' ≤ c ∧ c ≤ 'f' then some (c.toNat - 87)
  else if 'A' ≤ c ∧ c ≤ 'F' then some (c.toNat - 55)
  else none

def upperDigit (n : Nat) : Char := n.digitChar.toUpper

def upperByte (b : UInt8) : List Char := [upperDigit (b.toNat / 16), upperDigit (b.toNat % 16)]

def lowerByte (b : UInt8) : List Char := [(b.toNat / 16).digitChar, (b.toNat % 16).digitChar]

def lower (bytes : List UInt8) : String := String.ofList (bytes.flatMap lowerByte)

/-- Bytes in upper case with a colon between them. -/
def colonChars : List UInt8 → List Char
  | [] => []
  | [b] => upperByte b
  | b :: rest => upperByte b ++ ':' :: colonChars rest

def colon (bytes : List UInt8) : String := String.ofList (colonChars bytes)

/-- Bytes from pairs of digits. -/
def read? : List Char → Option (List UInt8)
  | [] => some []
  | [_] => none
  | a :: b :: rest => do
    let high ← digit? a
    let low ← digit? b
    let bytes ← read? rest
    pure (UInt8.ofNat (16 * high + low) :: bytes)

/-- The digits of a number in base sixteen, lower case, without leading zeros. -/
def number (n : Nat) : String := String.ofList (Nat.toDigits 16 n)

/-- The digits of a number in base sixteen, upper case, with zeros in front up to a width. -/
def padded (width n : Nat) : String :=
  let digits := (Nat.toDigits 16 n).map Char.toUpper
  String.ofList (List.replicate (width - digits.length) '0' ++ digits)

end CecBus.Hex
