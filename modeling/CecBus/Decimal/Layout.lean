import CecBus.Decimal.Shortest

/-! How a binary number is written as decimal text. The digits are the shortest that read back; a layout
fixes where positional notation ends, how the values that are not finite are spelled, and what becomes of a
tie. -/

namespace CecBus.Decimal

/-- The choices of an output format. Positional notation is used when the number of digits before the
point lies above `positionalAbove` and not above `positionalUpTo`. -/
structure Layout where
  positionalAbove : Int
  positionalUpTo : Int
  infinity : String
  nan : String
  tie : Tie

/-- Digits with a point after the first `point` of them; there is a digit on both sides. -/
def positional (digits : List Char) (point : Int) : List Char :=
  if point ≤ 0 then '0' :: '.' :: (List.replicate point.natAbs '0' ++ digits)
  else
    let before := point.natAbs
    let zeros := List.replicate (before - digits.length) '0'
    let after := digits.drop before
    digits.take before ++ zeros ++ '.' :: (if after.isEmpty then ['0'] else after)

/-- Digits with the point after the first of them, and the power of ten of that digit. -/
def scientific (digits : List Char) (power : Int) : List Char :=
  let mark := 'e' :: (toString power).toList
  match digits with
  | [] => mark
  | [d] => d :: mark
  | d :: rest => d :: '.' :: rest ++ mark

/-- A positive finite number. -/
def Layout.magnitude (layout : Layout) (significand : Nat) (exponent : Int) : List Char :=
  let s := (shortest layout.tie significand exponent).strip 400
  let digits := Nat.toDigits 10 s.digits
  let point := (digits.length : Int) + s.exponent
  if layout.positionalAbove < point && point ≤ layout.positionalUpTo then positional digits point
  else scientific digits (point - 1)

/-- The text of a number. -/
def Layout.write (layout : Layout) : Binary64 → String
  | .nan => layout.nan
  | .infinite negative => (if negative then "-" else "") ++ layout.infinity
  | .finite negative significand exponent =>
    let digits :=
      if significand = 0 then ['0', '.', '0'] else layout.magnitude significand exponent
    (if negative then "-" else "") ++ String.ofList digits

end CecBus.Decimal
