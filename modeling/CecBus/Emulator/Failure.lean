import CecBus.CommandLine
import CecBus.Component.Lifecycle
import CecBus.Frame.Digits
import CecBus.Log.Threshold
import CecBus.Settings.Loading

/-! Why a run of the emulator ends early, and what it leaves behind: an exit code and a complaint, which is the
failure followed by what lies behind it. -/

namespace CecBus

/-- Why a run ends early. A crash is a failure that nothing is said about. -/
inductive Failure where
  | reported (message : String) (causes : List String)
  | crash
  deriving DecidableEq, Repr

/-- How a run ends. -/
structure Outcome where
  code : UInt32 := 0
  complaint : String := ""
  deriving DecidableEq, Repr

namespace Failure

def indent (first rest : String) (text : String) : String :=
  first ++ ("\n" ++ rest).intercalate (text.splitOn "\n")

/-- A number that takes up five places. -/
def numberText (n : Nat) : String := String.ofList (List.replicate (5 - (toString n).length) ' ') ++ toString n

/-- The lines of the causes. They are numbered where there are several. -/
def causeLines : List String → List String
  | [] => []
  | [cause] => [indent "    " "    " cause]
  | causes => causes.zipIdx.map fun (cause, n) => indent (numberText n ++ ": ") "       " cause

def complaint (message : String) (causes : List String) : String :=
  let behind := if causes.isEmpty then [] else ["", "Caused by:"] ++ causeLines causes
  "\n".intercalate (("Error: " ++ message) :: behind) ++ "\n"

/-- How a run that fails ends. -/
def outcome : Failure → Outcome
  | reported message causes => ⟨1, complaint message causes⟩
  | crash => ⟨101, "a character was cut in two\n"⟩

def ofSettings (e : SettingsError) : Failure := reported e.message e.causes

def ofThreshold (e : Log.ThresholdError) : Failure := reported e.message e.causes

def ofComponent (e : ComponentError) : Failure := reported e.message e.causes

def ofProfile (path : String) (e : ComponentError) : Failure :=
  reported ("failed to open profile " ++ FileName.quote path) (e.message :: e.causes)

def ofDriver (e : DriverError) : Failure := reported e.message []

def ofOpening (e : DriverError) : Failure := reported "failed to open HAL" [e.message]

def ofFrame : FrameDigits.Fault → Failure
  | .splitCharacter => crash
  | fault => reported fault.message fault.causes

def ofMessage (path : String) (fault : FileFault) : Failure :=
  reported ("failed to read message " ++ FileName.quote path) [fault.message]

def ofCall : CallError → Failure
  | .driver e => ofDriver e
  | .component e => ofComponent e

end Failure

end CecBus
