import CecBus.Log
import CecBus.Text.Blank
import CecBus.Text.Numeral

/-! The threshold of a log as its user writes it: the name or the number of a level, or `off`. -/

namespace CecBus.Log

/-- The least severe level that is shown; without one nothing is shown. -/
abbrev Threshold := Option Level

def shows (threshold : Threshold) (entry : Entry) : Bool := threshold.any entry.level.passes

/-- Why a text is no threshold. -/
inductive ThresholdError where
  | level
  | directive
  deriving DecidableEq, Repr

namespace ThresholdError

/-- The wording of an error. -/
def message : ThresholdError → String
  | level => "error parsing level filter: expected one of \"off\", \"error\", \"warn\", \"info\", "
      ++ "\"debug\", \"trace\", or a number 0-5"
  | directive => "invalid filter directive"

def causes : ThresholdError → List String
  | level => [level.message]
  | directive => []

end ThresholdError

namespace Threshold

def numbered : List Threshold :=
  [none, some .error, some .warn, some .info, some .debug, some .trace]

def named : List (String × Threshold) :=
  [("off", none), ("error", some .error), ("warn", some .warn), ("info", some .info),
   ("debug", some .debug), ("trace", some .trace)]

/-- The threshold with a name in any case, or with a number. -/
def ofWord? (word : String) : Option Threshold :=
  match (Numeral.word? word).bind (numbered[·]?) with
  | some threshold => some threshold
  | none => named.lookup (String.ofList (word.toList.map Char.toLower))

/-- The threshold of a word. Where nothing is written everything is shown. -/
def ofWord (word : List Char) : Except ThresholdError Threshold :=
  if word.isEmpty then .ok (some .trace)
  else
    match ofWord? (String.ofList word) with
    | some threshold => .ok threshold
    | none => .error .level

/-- The threshold of a text. A comma may close it, and nothing but white space may follow. -/
def ofText (text : String) : Except ThresholdError Threshold := do
  let trimmed := Text.dropEndWhile Text.isBlank text.toList
  if trimmed.contains ',' then
    let threshold ← ofWord (trimmed.takeWhile (· ≠ ','))
    if (trimmed.dropWhile (· ≠ ',')).length = 1 then pure threshold else throw .directive
  else ofWord text.toList

end Threshold

end CecBus.Log
