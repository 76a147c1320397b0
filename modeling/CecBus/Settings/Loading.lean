import CecBus.FileFault
import CecBus.Settings.Document

/-! The settings from a file and the environment. Without the file everything starts from the usual settings;
a file that is there has to be readable. -/

namespace CecBus

/-- Why there are no settings. -/
inductive SettingsError where
  | unreadable (path : String) (fault : FileFault)
  | malformed (path : String) (fault : Yaml.Fault)
  deriving DecidableEq, Repr

namespace SettingsError

def message : SettingsError → String
  | unreadable path _ => "failed to read config file " ++ FileName.quote path
  | malformed path _ => "failed to parse config file " ++ FileName.quote path

def causes : SettingsError → List String
  | unreadable _ fault => [fault.message]
  | malformed _ fault => [fault.message]

end SettingsError

namespace Settings

/-- The text of a file. -/
def textOf (bytes : ByteArray) : Except FileFault String :=
  match String.fromUTF8? bytes with
  | some text => .ok text
  | none => .error (.other "stream did not contain valid UTF-8")

/-- What the file says, with its names taken inside its directory, and the note on it. -/
def ofFile (path : String) (content : Except FileFault ByteArray) :
    Except SettingsError (Overrides × SettingsNote) :=
  match content.bind textOf with
  | .error .missing => .ok ({}, .missing path)
  | .error fault => .error (.unreadable path fault)
  | .ok text =>
    match Overrides.ofText text with
    | .error fault => .error (.malformed path fault)
    | .ok o => .ok (o.inside ((FileName.directory? path).getD ""), .loaded path)

/-- The settings from the file and, above it, from the environment. With them come the notes, in order. -/
def load (path : String) (content : Except FileFault ByteArray) (value : Variable → Option String) :
    Except SettingsError (Settings × List SettingsNote) := do
  let (file, note) ← ofFile path content
  pure
    ((({} : Settings).override file).override (.ofEnvironment value),
     note :: SettingsNote.ofEnvironment value)

end Settings

end CecBus
