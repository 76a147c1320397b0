import CecBus.Settings
import CecBus.TimeSpan

/-! The command line. Options start with two dashes and take their value behind an equals sign or as the next
argument; what comes first on the line is judged first. -/

namespace CecBus

/-- What the command line asks for besides the settings it gives. -/
structure Options where
  settingsFile : String := "cec-emu.yaml"
  overrides : Overrides := {}
  messages : List String := []
  frames : List String := []
  dumpsTree : Bool := false
  holds : Bool := false
  deriving DecidableEq, Repr

/-- The settings that apply when the options are taken over others. -/
def Options.apply (o : Options) (s : Settings) : Settings := (s.override o.overrides).addMessages o.messages

/-- What a command line asks for. -/
inductive Request where
  | help
  | version
  | emulate (options : Options)
  deriving DecidableEq, Repr

/-- Why a command line cannot be read. -/
inductive UsageError where
  | unexpected (argument : String)
  | missingValue (option : String)
  | badValue (option value : String)
  | unwantedValue (option value : String)
  | repeated (option : String)
  deriving DecidableEq, Repr

/-- The wording of an error. -/
def UsageError.message : UsageError → String
  | .unexpected argument => "unexpected argument '" ++ argument ++ "' found"
  | .missingValue option => "a value is required for '--" ++ option ++ "' but none was supplied"
  | .badValue option value => "invalid value '" ++ value ++ "' for '--" ++ option ++ "'"
  | .unwantedValue option value =>
    "unexpected value '" ++ value ++ "' for '--" ++ option ++ "' found; no more were expected"
  | .repeated option => "the argument '--" ++ option ++ "' cannot be used multiple times"

namespace CommandLine

/-- The options that take a value. -/
inductive ValueOption where
  | profile | config | logLevel | message | tx | interval | claim
  deriving DecidableEq, Repr

/-- The options that take none. -/
inductive SwitchOption where
  | dumpJson | hold | help | version
  deriving DecidableEq, Repr

def valueOptions : List (String × ValueOption) :=
  [("profile", .profile), ("config", .config), ("log-level", .logLevel), ("message", .message), ("tx", .tx),
   ("interval", .interval), ("claim-logical-address", .claim)]

def switchOptions : List (String × SwitchOption) :=
  [("dump-json", .dumpJson), ("hold", .hold), ("help", .help), ("version", .version)]

def letterOptions : List (Char × SwitchOption) := [('h', .help), ('V', .version)]

/-- An argument by its form. -/
inductive Argument where
  | separator
  | long (name : String) (value : Option String)
  | short (letter : Char)
  | word (text : String)
  deriving DecidableEq, Repr

/-- The form of an argument. -/
def Argument.ofText (text : String) : Argument :=
  match text.toList with
  | ['-', '-'] => separator
  | '-' :: '-' :: rest =>
    let name := String.ofList (rest.takeWhile (· ≠ '='))
    match rest.dropWhile (· ≠ '=') with
    | [] => long name none
    | _ :: value => long name (some (String.ofList value))
  | '-' :: letter :: _ => short letter
  | _ => word text

/-- What was read so far: the options, the names of those that must not come again, and the option whose value
comes next. -/
structure State where
  options : Options := {}
  given : List String := []
  pending : Option (String × ValueOption) := none

def fileName? (value : String) : Option String := if value.isEmpty then none else some value

def truth? (value : String) : Option Bool :=
  if value = "true" then some true else if value = "false" then some false else none

/-- A number of milliseconds, of which the lowest 64 bits count. -/
def interval? (value : String) : Option UInt64 :=
  (TimeSpan.ofText? value).map fun t => UInt64.ofNat t.millis

/-- The options with a value taken in, unless it is no value for the option. -/
def ValueOption.take? (o : Options) (value : String) : ValueOption → Option Options
  | profile => (fileName? value).map fun name =>
      { o with overrides := { o.overrides with profile := some name } }
  | config => (fileName? value).map fun name => { o with settingsFile := name }
  | logLevel => some { o with overrides := { o.overrides with logLevel := some value } }
  | message => (fileName? value).map fun name => { o with messages := o.messages ++ [name] }
  | tx => some { o with frames := o.frames ++ [value] }
  | interval => (interval? value).map fun n =>
      { o with overrides := { o.overrides with interval := some n } }
  | claim => (truth? value).map fun b => { o with overrides := { o.overrides with claims := some b } }

def ValueOption.isRepeatable (o : ValueOption) : Bool := o = .message || o = .tx

def State.mark (s : State) (name : String) : Except UsageError State :=
  if s.given.contains name then .error (.repeated name)
  else .ok { s with given := name :: s.given, pending := none }

/-- Takes the value of an option. -/
def State.give (s : State) (name : String) (o : ValueOption) (value : String) : Except UsageError State := do
  let s ← if o.isRepeatable then pure { s with pending := none } else s.mark name
  match o.take? s.options value with
  | some options => pure { s with options }
  | none => throw (.badValue name value)

/-- No option may wait for a value. -/
def State.settled (s : State) : Except UsageError State :=
  match s.pending with
  | some (name, _) => .error (.missingValue name)
  | none => .ok s

/-- Takes an option that has no value. The first that asks for help or version ends the reading. -/
def State.switch (s : State) (name : String) : SwitchOption → Except UsageError (State ⊕ Request)
  | .help => do
    let _ ← s.settled
    pure (.inr .help)
  | .version => do
    let _ ← s.settled
    pure (.inr .version)
  | .dumpJson => do
    let s ← (← s.settled).mark name
    pure (.inl { s with options := { s.options with dumpsTree := true } })
  | .hold => do
    let s ← (← s.settled).mark name
    pure (.inl { s with options := { s.options with holds := true } })

/-- Takes an option with its name written out. -/
def State.long (s : State) (text name : String) (value : Option String) :
    Except UsageError (State ⊕ Request) := do
  match valueOptions.lookup name, switchOptions.lookup name, value with
  | some o, _, some value => return .inl (← (← s.settled).give name o value)
  | some o, _, none => return .inl { (← s.settled) with pending := some (name, o) }
  | none, some _, some value => throw (.unwantedValue name value)
  | none, some o, none => s.switch name o
  | none, none, _ => throw (.unexpected text)

/-- Takes an option that is one letter. -/
def State.short (s : State) (text : String) (letter : Char) : Except UsageError (State ⊕ Request) :=
  match letterOptions.lookup letter with
  | some o => s.switch text o
  | none => .error (.unexpected text)

/-- Takes a word: the value of the option in front of it. -/
def State.word (s : State) (text : String) : Except UsageError (State ⊕ Request) :=
  match s.pending with
  | some (name, o) => (s.give name o text).map .inl
  | none => .error (.unexpected text)

/-- Takes one argument. A separator on its own changes nothing. -/
def State.take (s : State) (text : String) : Except UsageError (State ⊕ Request) :=
  match Argument.ofText text with
  | .separator => .ok (.inl s)
  | .long name value => s.long text name value
  | .short letter => s.short text letter
  | .word text => s.word text

/-- Reads arguments. Behind a separator there are no options, and nothing else is expected. -/
def parseFrom (s : State) : List String → Except UsageError Request
  | [] => do return .emulate (← s.settled).options
  | text :: rest =>
    if Argument.ofText text = .separator then
      match rest with
      | [] => do return .emulate (← s.settled).options
      | other :: _ => .error (.unexpected other)
    else do
      match ← s.take text with
      | .inl s => parseFrom s rest
      | .inr request => pure request

def parse (arguments : List String) : Except UsageError Request := parseFrom {} arguments

end CommandLine

end CecBus
