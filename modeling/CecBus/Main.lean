import CecBus.Emulator
import CecBus.Log.Line
import Std.Async.Signal
import Std.Time

/-! The emulator on the real files, environment and clock. Log lines and answers go to standard output, and what
is said about a failure goes to standard error. -/

namespace CecBus.Main

/-- The number of the fault that a directory was read. -/
def directoryCode : UInt32 := 21

/-- The fault behind a reading that failed. -/
def faultOf : IO.Error → FileFault
  | .noFileOrDirectory .. => .missing
  | .permissionDenied .. => .denied
  | .inappropriateType _ code _ => if code = directoryCode then .isDirectory else .notDirectory
  | e => .other (toString e)

def readFile (path : String) : IO (Except FileFault ByteArray) := do
  try return .ok (← IO.FS.readBinFile path)
  catch e => return .error (faultOf e)

/-- The date and the time of day where the clock is, to the millisecond. -/
def timeText : IO String := do return (← Std.Time.PlainDateTime.now).format "uuuu-MM-dd HH:mm:ss.SSS"

/-- Prints a text at once. -/
def printNow (text : String) : IO Unit := do
  let output ← IO.getStdout
  output.putStr text
  output.flush

/-- The longest pause that is made at a time, in milliseconds. -/
def longestPause : Nat := 1000000000

def pause (millis : UInt64) : IO Unit := do
  for _ in [0 : millis.toNat / longestPause] do IO.sleep (UInt32.ofNat longestPause)
  IO.sleep (UInt32.ofNat (millis.toNat % longestPause))

def waitForInterrupt : IO Unit := do
  let waiter ← Std.Async.Signal.Waiter.mk .sigint false
  let _ ← (← waiter.wait).block

/-- The real surroundings. -/
def surroundings : Surroundings IO :=
  { read := readFile
    environment := fun v => IO.getEnv v.name
    log := fun entry => do printNow (Log.line (← timeText) Emulator.name entry)
    print := printNow
    pause := pause
    hold := waitForInterrupt }

end CecBus.Main

/-- Runs the emulator on the arguments and ends with its exit code. -/
def main (arguments : List String) : IO UInt32 := do
  let outcome ← CecBus.Emulator.run CecBus.Main.surroundings arguments
  (← IO.getStderr).putStr outcome.complaint
  return outcome.code
