/-! Why a file cannot be read. -/

namespace CecBus

/-- What the file system answers when it gives no content. -/
inductive FileFault where
  | missing
  | denied
  | notDirectory
  | isDirectory
  | other (text : String)
  deriving DecidableEq, Repr

/-- The wording of a fault, with its number. -/
def FileFault.message : FileFault → String
  | .missing => "No such file or directory (os error 2)"
  | .denied => "Permission denied (os error 13)"
  | .notDirectory => "Not a directory (os error 20)"
  | .isDirectory => "Is a directory (os error 21)"
  | .other text => text

end CecBus
