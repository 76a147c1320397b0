import CecBus.Text.Pieces
import CecBus.Text.Quoted

/-! File names as text. A name is a row of pieces with slashes between them; a slash in front starts it at the
root. Names are put together without looking at the file system. -/

namespace CecBus.FileName

def isAbsolute (name : String) : Bool := name.toList.head? = some '/'

/-- A name between double quotes. Single quotes inside are escaped as well. -/
def quote (name : String) : String :=
  let escape := fun c => if c = '\x27' then ['\\', c] else Text.escapeChar c
  "\"" ++ String.ofList (name.toList.flatMap escape) ++ "\""

/-- One name inside the directory of another. A name that starts at the root stays what it is. -/
def inside (directory name : String) : String :=
  if isAbsolute name then name
  else if directory.isEmpty || directory.toList.getLast? = some '/' then directory ++ name
  else directory ++ "/" ++ name

/-- Whether a piece leads nowhere: it is empty or a single dot. -/
def isIdle (piece : List Char) : Bool := piece.isEmpty || piece = ['.']

/-- Splits off what a name starts with: the root, or a dot for the current directory. -/
def splitStart : List Char → List Char × List Char
  | '/' :: rest => (['/'], rest)
  | ['.'] => (['.'], [])
  | '.' :: '/' :: rest => (['.'], '/' :: rest)
  | name => ([], name)

/-- The pieces in front of the last one that leads somewhere. -/
def beforeLast? (pieces : List (List Char)) : Option (List (List Char)) :=
  match pieces.reverse.dropWhile isIdle with
  | [] => none
  | _ :: rest => some (rest.dropWhile isIdle).reverse

/-- The directory a name is in. The root and the empty name are in none. -/
def directory? (name : String) : Option String :=
  let (start, rest) := splitStart name.toList
  match beforeLast? (Text.pieces '/' rest) with
  | some pieces => some (String.ofList (start ++ Text.joinPieces '/' pieces))
  | none => if start = ['.'] then some "" else none

end CecBus.FileName
