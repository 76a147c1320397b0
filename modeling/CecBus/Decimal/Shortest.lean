import CecBus.Decimal.Binary64

/-! The shortest decimal that reads back as a given binary number. Of all decimals with the least number
of digits inside the interval that rounds to the number, the nearest one is chosen; where two are equally
near, the format says which. -/

namespace CecBus.Decimal

/-- `digits * 10 ^ exponent`. -/
structure Scientific where
  digits : Nat
  exponent : Int
  deriving DecidableEq, Repr

/-- Which of two decimals is taken that are equally near. -/
inductive Tie where
  | even
  | up
  deriving DecidableEq, Repr

/-- Whether the lower of two equally near neighbours is taken. -/
def Tie.takesLower (tie : Tie) (lower : Nat) : Bool :=
  match tie with
  | .even => lower % 2 = 0
  | .up => false

/-- The decimals that round to a positive number: all `x` with `low ≤ x * scale ≤ high`, the ends
included only for an even significand. -/
structure Interval where
  low : Nat
  value : Nat
  high : Nat
  scale : Nat
  closed : Bool

/-- The interval of a finite number. Below a power of two the neighbours are half as far. -/
def interval (significand : Nat) (exponent : Int) : Interval :=
  let below := if significand = Nat.pow 2 52 ∧ Binary64.minExponent < exponent then 1 else 2
  let up := if exponent < 0 then 1 else Nat.pow 2 exponent.natAbs
  let down := if exponent < 0 then Nat.pow 2 exponent.natAbs else 1
  { low := (4 * significand - below) * up
    value := 4 * significand * up
    high := (4 * significand + 2) * up
    scale := 4 * down
    closed := significand % 2 = 0 }

def Interval.contains (i : Interval) (num den : Nat) : Bool :=
  let x := num * i.scale
  if i.closed then i.low * den ≤ x && x ≤ i.high * den else i.low * den < x && x < i.high * den

/-- The power of ten of the leading digit of `num / den`, searched downwards from a bound. -/
def leadingPower (num den : Nat) : Nat → Int → Int
  | 0, power => power
  | fuel + 1, power =>
    let grid := Nat.pow 10 power.natAbs
    let reached := if power < 0 then den ≤ num * grid else den * grid ≤ num
    if reached then power else leadingPower num den fuel (power - 1)

/-- The better of the two neighbours of the value on the grid of multiples of `10 ^ power`. -/
def Interval.onGrid? (i : Interval) (tie : Tie) (power : Int) : Option Scientific :=
  let gridNum := if power < 0 then 1 else Nat.pow 10 power.natAbs
  let gridDen := if power < 0 then Nat.pow 10 power.natAbs else 1
  let below := i.value * gridDen / (i.scale * gridNum)
  let inside := fun digits => i.contains (digits * gridNum) gridDen
  let twice := 2 * i.value * gridDen
  let middle := (2 * below + 1) * i.scale * gridNum
  let belowIsNearer := twice < middle || (twice = middle && tie.takesLower below)
  if inside below && (belowIsNearer || !inside (below + 1)) then some ⟨below, power⟩
  else if inside (below + 1) then some ⟨below + 1, power⟩
  else none

/-- Tries grids from coarse to fine; `fallback` is used when no grid has a hit. -/
def Interval.search (i : Interval) (tie : Tie) (fallback : Scientific) : Nat → Int → Scientific
  | 0, _ => fallback
  | fuel + 1, power => (i.onGrid? tie power).getD (i.search tie fallback fuel (power - 1))

/-- The shortest decimal of a positive finite number. Seventeen digits always suffice. -/
def shortest (tie : Tie) (significand : Nat) (exponent : Int) : Scientific :=
  let i := interval significand exponent
  let top := leadingPower i.value i.scale 700 310
  i.search tie ⟨i.value / i.scale, 0⟩ 18 (top + 1)

/-- A decimal whose digits do not end in zero. -/
def Scientific.strip (s : Scientific) : Nat → Scientific
  | 0 => s
  | fuel + 1 =>
    if s.digits % 10 = 0 && s.digits ≠ 0 then Scientific.strip ⟨s.digits / 10, s.exponent + 1⟩ fuel else s

end CecBus.Decimal
