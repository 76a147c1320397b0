import CecBus.Text.Blank
import CecBus.Text.Numeral

/-! Spans of time as people write them: numbers with units, like `2h 5m` or `1.5s`, one behind the other.
White space between them says nothing. -/

namespace CecBus

/-- A span of time in whole seconds and the nanoseconds on top. -/
structure TimeSpan where
  seconds : Nat := 0
  nanos : Nat := 0
  deriving DecidableEq, Repr

namespace TimeSpan

def nanosPerSecond : Nat := 1000000000

def millis (t : TimeSpan) : Nat := 1000 * t.seconds + t.nanos / 1000000

/-- Units of time. A month has 30.44 days and a year 365.25. -/
inductive Unit where
  | nanosecond | microsecond | millisecond | second | minute | hour | day | week | month | year
  deriving DecidableEq, Repr

/-- The spellings of units. -/
def Unit.spellings : List (Unit × List String) :=
  [(.nanosecond, ["nanos", "nsec", "ns"]),
   (.microsecond, ["usec", "us", "µs"]),
   (.millisecond, ["millis", "msec", "ms"]),
   (.second, ["seconds", "second", "secs", "sec", "s"]),
   (.minute, ["minutes", "minute", "min", "mins", "m"]),
   (.hour, ["hours", "hour", "hr", "hrs", "h"]),
   (.day, ["days", "day", "d"]),
   (.week, ["weeks", "week", "wk", "wks", "w"]),
   (.month, ["months", "month", "M"]),
   (.year, ["years", "year", "yr", "yrs", "y"])]

def Unit.ofText? (text : String) : Option Unit := (spellings.find? (·.2.contains text)).map (·.1)

/-- The nanoseconds of a unit that is shorter than a second. -/
def Unit.nanos? : Unit → Option Nat
  | .nanosecond => some 1
  | .microsecond => some 1000
  | .millisecond => some 1000000
  | _ => none

/-- The seconds of a unit, and none if it is shorter. -/
def Unit.seconds : Unit → Nat
  | .nanosecond | .microsecond | .millisecond => 0
  | .second => 1
  | .minute => 60
  | .hour => 3600
  | .day => 86400
  | .week => 604800
  | .month => 2630016
  | .year => 31557600

def fit? (n : Nat) : Option Nat := if n < UInt64.size then some n else none

/-- Adds seconds and nanoseconds, as long as they fit. -/
def add? (t : TimeSpan) (seconds nanos : Nat) : Option TimeSpan := do
  let nanos ← fit? (t.nanos + nanos)
  let seconds ← fit? (t.seconds + seconds + nanos / nanosPerSecond)
  pure ⟨seconds, nanos % nanosPerSecond⟩

/-- Adds a number of units. -/
def addWhole? (t : TimeSpan) (n : Nat) (unit : Unit) : Option TimeSpan := do
  match unit.nanos? with
  | some nanos => t.add? 0 (← fit? (n * nanos))
  | none => t.add? (← fit? (n * unit.seconds)) 0

/-- A decimal fraction by its digits: numerator and denominator. -/
structure Fraction where
  numerator : Nat := 0
  denominator : Nat := 1

/-- Adds a fraction of a unit. Up to a minute it counts in nanoseconds, and above that in whole seconds; a
nanosecond has no fraction. -/
def addFraction? (t : TimeSpan) (f : Fraction) (unit : Unit) : Option TimeSpan := do
  match unit with
  | .nanosecond => none
  | .microsecond | .millisecond | .second | .minute =>
    let nanos := unit.nanos?.getD (unit.seconds * nanosPerSecond)
    t.add? 0 ((← fit? (f.numerator * nanos)) / f.denominator)
  | _ => t.add? ((← fit? (f.numerator * unit.seconds)) / f.denominator) 0

def isUnitChar (c : Char) : Bool := c.isAlpha || c = 'µ'

/-- Reads the digits behind a point up to the unit; there has to be one. -/
def readFraction? : Fraction → List Char → Option (Fraction × List Char)
  | f, [] => if f.denominator = 1 then none else some (f, [])
  | f, c :: rest =>
    if isUnitChar c then if f.denominator = 1 then none else some (f, c :: rest)
    else if Text.isBlank c then readFraction? f rest
    else do
      let digit ← Numeral.digit? 10 c
      let numerator ← fit? (10 * f.numerator + digit)
      let denominator ← fit? (10 * f.denominator)
      readFraction? ⟨numerator, denominator⟩ rest

/-- Reads a number up to its unit, with the fraction if there is one. -/
def readNumber? : Nat → List Char → Option (Nat × Option Fraction × List Char)
  | n, [] => some (n, none, [])
  | n, c :: rest =>
    if isUnitChar c then some (n, none, c :: rest)
    else if Text.isBlank c then readNumber? n rest
    else if c = '.' then do
      let (f, rest) ← readFraction? {} rest
      pure (n, some f, rest)
    else do
      let digit ← Numeral.digit? 10 c
      readNumber? (← fit? (10 * n + digit)) rest

/-- Adds the number at the start of a text, and gives what follows its unit. -/
def addNext? (t : TimeSpan) (text : List Char) : Option (TimeSpan × List Char) := do
  let (n, fraction, rest) ← readNumber? 0 text
  let unit ← Unit.ofText? (String.ofList (rest.takeWhile isUnitChar))
  let t ← t.addWhole? n unit
  let t ← match fraction with
    | some f => t.addFraction? f unit
    | none => some t
  pure (t, rest.dropWhile isUnitChar)

def startsWithDigit (text : List Char) : Bool := text.head?.any Char.isDigit

/-- Adds all numbers of a text. -/
def addAll? : Nat → TimeSpan → List Char → Option TimeSpan
  | 0, _, _ => none
  | fuel + 1, t, text =>
    if startsWithDigit text then do
      let (t, rest) ← t.addNext? text
      let blankless := rest.dropWhile Text.isBlank
      if blankless.isEmpty then some t else addAll? fuel t blankless
    else none

/-- The span that a text says; it has to say something. A lone zero needs no unit. -/
def ofText? (text : String) : Option TimeSpan :=
  if text = "0" then some {}
  else
    let text := text.toList.dropWhile Text.isBlank
    addAll? text.length {} text

end TimeSpan

end CecBus
