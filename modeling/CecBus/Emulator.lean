import CecBus.DeviceTree.Dump
import CecBus.Emulator.Failure
import CecBus.Emulator.Traffic

/-! The emulator as a program. It puts its settings together, opens a session on the profile, sends frames and
messages, and closes everything again, also after a failure. What it needs of its surroundings is a parameter,
so a run is the same function on real files and on made-up ones. -/

namespace CecBus

/-- What a run asks of its surroundings. -/
structure Surroundings (m : Type → Type) where
  read : String → m (Except FileFault ByteArray)
  environment : Variable → m (Option String)
  log : Entry → m Unit
  print : String → m Unit
  pause : UInt64 → m Unit
  hold : m Unit

def Emulator.name : String := "cec-emu"

def Emulator.version : String := "0.1.0"

/-- The surroundings of a run and how much of its log is shown. -/
structure Console (m : Type → Type) where
  surroundings : Surroundings m
  threshold : Log.Threshold

/-- A step of a run. The component stays known when a step fails. -/
abbrev Emulation (m : Type → Type) := ReaderT (Console m) (ExceptT Failure (StateT Emulator.Host m))

namespace Emulation

variable {m : Type → Type} [Monad m] {α ε : Type}

def ask (f : Surroundings m → m α) : Emulation m α := do liftM (f (← read).surroundings)

/-- Shows what an operation reports. -/
def say (x : Logged α) : Emulation m α := do
  let console ← read
  (x.entries.filter (Log.shows console.threshold)).forM fun entry => ask (·.log entry)
  pure x.value

/-- Shows what an operation reports, and fails where it fails. -/
def attempt (failure : ε → Failure) (x : Attempt ε α) : Emulation m α := do
  match ← say x.run with
  | .ok a => pure a
  | .error e => throw (failure e)

/-- Shows what an operation reports that may change the component, and fails where it fails. -/
def change (failure : ε → Failure) (f : Emulator.Host → Attempt ε Emulator.Host) : Emulation m Unit := do
  set (← attempt failure (f (← get)))

/-- Says what is about to be emulated. -/
def announce (settings : Settings) (notes : List SettingsNote) : Emulation m Unit := do
  say (reportAll (notes.map SettingsNote.entry))
  say (report .info ("Starting HDMI-CEC emulator v" ++ Emulator.version))
  say (report .info
    ("Profile " ++ FileName.quote settings.profile ++ ", " ++ toString settings.messages.length
      ++ " message(s), interval " ++ toString settings.interval.toNat ++ "ms"))

/-- Loads the profile. -/
def load (path : String) : Emulation m Unit := do
  change Failure.ofComponent Component.activate
  let content ← ask (·.read path)
  change (Failure.ofProfile path) fun c => c.loadFile path content

/-- Opens a session whose frames are reported. -/
def openSession : Emulation m Handle := do
  let (handle, c) ← attempt Failure.ofOpening (← get).openSession
  set c
  change Failure.ofDriver fun c => c.setReceiver handle (some ())
  change Failure.ofDriver fun c => c.setConfirmer handle true
  pure handle

/-- Claims the address of a television. A refusal is reported and changes nothing. -/
def claim (handle : Handle) : Emulation m Unit := do
  match ← say ((← get).claim handle .tv).run with
  | .ok c =>
    set c
    say (Emulator.reportClaim (.ok ()))
  | .error e => say (Emulator.reportClaim (.error e))

/-- Says which addresses the emulated device has. -/
def introduce (handle : Handle) : Emulation m Unit := do
  let c ← get
  let physical ← attempt Failure.ofDriver (c.physical handle)
  let logical ← attempt Failure.ofDriver (c.logical handle)
  say (report .info ("Emulated device at " ++ physical.text ++ " as " ++ logical.text))

/-- Sends a frame. -/
def transmit (handle : Handle) (text : String) : Emulation m Unit := do
  match FrameDigits.bytesOf text with
  | .error fault => throw (Failure.ofFrame fault)
  | .ok frame =>
    let result ← say ((← get).send handle frame).run
    say (Emulator.reportSent frame result)

/-- Hands a message in, lets it be handled and pauses. -/
def inject (interval : UInt64) (path : String) : Emulation m Unit := do
  match ← ask (·.read path) with
  | .error fault => throw (Failure.ofMessage path fault)
  | .ok payload =>
    let (result, c) ← say ((← get).deliverDocument payload)
    say (Emulator.reportDelivered path result)
    set (← say (Emulator.serve c))
    ask (·.pause interval)

/-- Prints the devices. -/
def dump : Emulation m Unit := do
  match (← get).bus?.bind (·.tree.dump?) with
  | some text => ask (·.print (text ++ "\n"))
  | none => say (reportFrom "hal" .warn "No device tree to dump")

/-- Closes the session and the component. -/
def close (handle : Handle) : Emulation m Unit := do
  change Failure.ofCall fun c => Emulator.complete c (Stage.closeSession handle)
  change Failure.ofCall fun c => Emulator.complete c Stage.deactivate
  say (report .info "HDMI-CEC emulator stopped")

/-- All steps of a run. -/
def steps (options : Options) (settings : Settings) (notes : List SettingsNote) : Emulation m Unit := do
  announce settings notes
  load settings.profile
  let handle ← openSession
  if settings.claims then claim handle
  introduce handle
  options.frames.forM (transmit handle)
  settings.messages.forM (inject settings.interval)
  say (Emulator.reportCounters (← get).counters?)
  if options.dumpsTree then dump
  if options.holds then
    say (report .info "Holding the HAL open, press Ctrl-C to exit")
    ask (·.hold)
  close handle

/-- Closes what a run that failed left open. -/
def abandon : Emulation m Unit := do
  let result ← say (Emulator.complete (← get) Stage.deactivate).run
  match result with
  | .ok c => set c
  | .error _ => pure ()

/-- Takes a step, and closes everything where it fails. -/
def orAbandon (step : Emulation m Unit) : Emulation m Unit :=
  tryCatch step fun failure => do
    abandon
    throw failure

/-- Takes a step with a fresh component. -/
def perform (console : Console m) (step : Emulation m Unit) : m (Except Failure Unit) :=
  StateT.run' (ExceptT.run (ReaderT.run step console)) .empty

end Emulation

namespace Emulator

variable {m : Type → Type} [Monad m]

/-- Reads the environment. -/
def environmentOf (s : Surroundings m) : m (Variable → Option String) := do
  let profile ← s.environment .profile
  let logLevel ← s.environment .logLevel
  let interval ← s.environment .interval
  pure fun
    | .profile => profile
    | .logLevel => logLevel
    | .interval => interval

/-- The settings of a run, with the notes on them and the threshold of its log. -/
def settle (options : Options) (content : Except FileFault ByteArray) (value : Variable → Option String) :
    Except Failure (Settings × List SettingsNote × Log.Threshold) := do
  let (settings, notes) ← (Settings.load options.settingsFile content value).mapError Failure.ofSettings
  let settings := options.apply settings
  let threshold ← (Log.Threshold.ofText settings.logLevel).mapError Failure.ofThreshold
  pure (settings, notes, threshold)

/-- Emulates as the options say. -/
def emulate (s : Surroundings m) (options : Options) : m Outcome := do
  let content ← s.read options.settingsFile
  match settle options content (← environmentOf s) with
  | .error failure => pure failure.outcome
  | .ok (settings, notes, threshold) =>
    match ← (Emulation.steps options settings notes).orAbandon.perform ⟨s, threshold⟩ with
    | .ok () => pure {}
    | .error failure => pure failure.outcome

/-- How the program is used. -/
def usage : String :=
  "Virtual HDMI-CEC component emulator\n\nUsage: " ++ name ++ " [OPTIONS]\n\nOptions:\n"
    ++ "      --profile <PROFILE>                Device profile (overrides the config file)\n"
    ++ "      --config <CONFIG>                  Configuration file path [default: cec-emu.yaml]\n"
    ++ "      --log-level <LOG_LEVEL>            Log level (overrides the config file)\n"
    ++ "      --message <MESSAGES>               Control-plane message file to inject (repeatable)\n"
    ++ "      --tx <FRAMES>                      Frame to transmit as hex, e.g. 04:36 (repeatable)\n"
    ++ "      --interval <INTERVAL>              Pause between injected messages, e.g. 200ms\n"
    ++ "      --claim-logical-address <CLAIM>    Claim logical address 0 when emulating a TV\n"
    ++ "      --dump-json                        Print the device tree as JSON once all messages are handled\n"
    ++ "      --hold                             Keep the HAL open until Ctrl-C\n"
    ++ "  -h, --help                             Print help\n"
    ++ "  -V, --version                          Print version\n"

/-- Runs the program on its arguments. -/
def run (s : Surroundings m) (arguments : List String) : m Outcome := do
  match CommandLine.parse arguments with
  | .error e => pure ⟨2, "error: " ++ e.message ++ "\n"⟩
  | .ok .help => do
    s.print usage
    pure {}
  | .ok .version => do
    s.print (name ++ " " ++ version ++ "\n")
    pure {}
  | .ok (.emulate options) => emulate s options

end Emulator

end CecBus
