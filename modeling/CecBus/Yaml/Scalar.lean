import CecBus.Decimal.Binary64
import CecBus.Text.Numeral
import CecBus.Yaml.Cursor

/-! What a plain scalar stands for by its spelling: nothing, a truth value, a whole number or a real one. Any
other text stands for itself. -/

namespace CecBus.Yaml

/-- The words for nothing; an empty scalar is another. -/
def isNullWord (text : String) : Bool := ["~", "null", "Null", "NULL"].contains text

/-- The words for truth values. -/
def truthValue? (text : String) : Option Bool :=
  if ["true", "True", "TRUE"].contains text then some true
  else if ["false", "False", "FALSE"].contains text then some false
  else none

/-- Splits a sign off; with it comes whether it is a minus sign. -/
def splitSign : List Char → Bool × List Char
  | '-' :: rest => (true, rest)
  | '+' :: rest => (false, rest)
  | text => (false, text)

/-- Whether digits have zeros in front that no number has. -/
def hasSpareZero (digits : List Char) : Bool :=
  match digits with
  | '0' :: rest => !rest.isEmpty && rest.all Char.isDigit
  | _ => false

def someDigits? (base : Nat) (digits : List Char) : Option Nat :=
  if digits.isEmpty then none else Numeral.digits? base digits 0

/-- A whole number without its sign, in the base its first characters tell. -/
def magnitude? : List Char → Option Nat
  | '0' :: 'x' :: digits => someDigits? 16 digits
  | '0' :: 'o' :: digits => someDigits? 8 digits
  | '0' :: 'b' :: digits => someDigits? 2 digits
  | digits => if hasSpareZero digits then none else someDigits? 10 digits

def wholeNumber? (text : List Char) : Option Int :=
  let (negative, rest) := splitSign text
  (magnitude? rest).map fun n => if negative then -(n : Int) else n

/-- Whether a whole number fits into a signed or an unsigned word of some bits. -/
def fitsWord (bits : Nat) (n : Int) : Bool := -(Nat.pow 2 (bits - 1) : Int) ≤ n && n < (Nat.pow 2 bits : Int)

/-- A whole number of at most 64 bits. Up to 128 bits a larger one is refused, and beyond that the text is
not read as a whole number. -/
def integer? (text : List Char) : Reading (Option Int) :=
  match wholeNumber? text with
  | none => .ok none
  | some n =>
    if fitsWord 64 n then .ok (some n) else if fitsWord 128 n then .error .badScalar else .ok none

def exponentDigits? (text : List Char) : Option Int :=
  let (negative, digits) := splitSign text
  (someDigits? 10 digits).map fun n => if negative then -(n : Int) else n

/-- The exponent at the end of a real number; without one it is zero. -/
def exponent? : List Char → Option Int
  | [] => some 0
  | 'e' :: rest | 'E' :: rest => exponentDigits? rest
  | _ => none

/-- A real number without its sign: digits with at most one point, and perhaps an exponent. -/
def decimal? (negative : Bool) (text : List Char) : Option Binary64 := do
  let whole := text.takeWhile Char.isDigit
  let rest := text.dropWhile Char.isDigit
  let (fraction, rest) := match rest with
    | '.' :: rest => (rest.takeWhile Char.isDigit, rest.dropWhile Char.isDigit)
    | _ => ([], rest)
  let digits ← someDigits? 10 (whole ++ fraction)
  let exponent ← exponent? rest
  pure (Binary64.ofDecimal negative digits (exponent - fraction.length))

/-- The words for the values that are not finite. -/
def notFinite? (text : String) : Option Binary64 :=
  if [".inf", ".Inf", ".INF", "+.inf", "+.Inf", "+.INF"].contains text then some (.infinite false)
  else if ["-.inf", "-.Inf", "-.INF"].contains text then some (.infinite true)
  else if [".nan", ".NaN", ".NAN"].contains text then some .nan
  else none

/-- A real number. One that is too large is not read as a number. -/
def real? (text : String) : Option Binary64 :=
  (notFinite? text).or <|
    let (negative, rest) := splitSign text.toList
    (decimal? negative rest).filter Binary64.isFinite

end CecBus.Yaml
