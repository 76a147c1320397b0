import CecBus.FileName
import CecBus.Log
import CecBus.Text.Numeral

/-! The settings of the emulator. Several sources say something about them, one after the other, and each
replaces what the ones before it said. -/

namespace CecBus

/-- All settings. Files are given by name and the interval between messages in milliseconds. -/
structure Settings where
  profile : String := "profiles/tv.yaml"
  logLevel : String := "info"
  interval : UInt64 := 100
  claims : Bool := true
  messages : List String := []
  deriving DecidableEq, Repr

/-- What one source says. -/
structure Overrides where
  profile : Option String := none
  logLevel : Option String := none
  interval : Option UInt64 := none
  claims : Option Bool := none
  messages : Option (List String) := none
  deriving DecidableEq, Repr

/-- Replaces the settings that a source gives. -/
def Settings.override (s : Settings) (o : Overrides) : Settings :=
  { profile := o.profile.getD s.profile
    logLevel := o.logLevel.getD s.logLevel
    interval := o.interval.getD s.interval
    claims := o.claims.getD s.claims
    messages := o.messages.getD s.messages }

def Settings.addMessages (s : Settings) (messages : List String) : Settings :=
  { s with messages := s.messages ++ messages }

/-- Takes file names for names inside a directory. -/
def Overrides.inside (o : Overrides) (directory : String) : Overrides :=
  { o with
    profile := o.profile.map (FileName.inside directory)
    messages := o.messages.map (·.map (FileName.inside directory)) }

/-- The environment variables that settings can come from. -/
inductive Variable where
  | profile
  | logLevel
  | interval
  deriving DecidableEq, Repr

namespace Variable

def all : List Variable := [profile, logLevel, interval]

/-- The name in the environment. -/
def name : Variable → String
  | profile => "CEC_EMU_PROFILE"
  | logLevel => "CEC_EMU_LOG_LEVEL"
  | interval => "CEC_EMU_INTERVAL_MS"

/-- Whether a text can be the value of the setting. -/
def accepts : Variable → String → Bool
  | interval, text => (Numeral.word? text).isSome
  | _, _ => true

end Variable

/-- What the environment says. An interval that is no number says nothing. -/
def Overrides.ofEnvironment (value : Variable → Option String) : Overrides :=
  { profile := value .profile
    logLevel := value .logLevel
    interval := ((value .interval).bind Numeral.word?).map UInt64.ofNat }

/-- What happened while the settings were put together. -/
inductive SettingsNote where
  | loaded (path : String)
  | missing (path : String)
  | overridden (source : Variable) (value : String)
  | ignored (source : Variable) (value : String)
  deriving DecidableEq, Repr

namespace SettingsNote

/-- The notes on the environment, one for each variable that is set. -/
def ofEnvironment (value : Variable → Option String) : List SettingsNote :=
  Variable.all.filterMap fun v =>
    (value v).map fun text => if v.accepts text then overridden v text else ignored v text

/-- How a note is reported. -/
def entry : SettingsNote → Entry
  | loaded path => { level := .info, message := "Loaded configuration from " ++ FileName.quote path }
  | missing path =>
    { level := .warn, message := "Config file " ++ FileName.quote path ++ " not found, using defaults" }
  | overridden v value => { level := .info, message := v.name ++ " overridden by environment: " ++ value }
  | ignored v value => { level := .warn, message := "Ignoring invalid " ++ v.name ++ "=" ++ value }

end SettingsNote

end CecBus
