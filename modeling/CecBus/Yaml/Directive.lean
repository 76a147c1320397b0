import CecBus.Yaml.Property
import CecBus.Yaml.Token

/-! Directives in front of a document: its version, and what the handles of tags stand for. -/

namespace CecBus.Yaml

/-- Reads a number of one to nine digits. -/
def readVersionNumber (c : Cursor) : Reading (Nat × Cursor) :=
  let (digits, next) := c.span Char.isDigit
  if digits.isEmpty || 9 < digits.length then .error .malformed
  else .ok (digits.foldl (fun n d => n * 10 + (d.toNat - 48)) 0, next)

/-- Reads the two numbers of a version. -/
def readVersion (c : Cursor) : Reading (Token × Cursor) := do
  let (major, next) ← readVersionNumber (c.skipWhile isSpace)
  if !next.isAt '.' then throw .malformed
  let (minor, next) ← readVersionNumber (next.advance 1)
  pure (.versionDirective major minor, next)

/-- Reads a handle and what it stands for. -/
def readTagDirective (c : Cursor) : Reading (Token × Cursor) := do
  let (handle, next) ← readHandle (c.skipWhile isSpace)
  if handle ≠ ['!'] && !isClosedHandle handle then throw .malformed
  if !next.at? 0 isSpace then throw .malformed
  let (target, next) ← readSomeTagBytes true (next.skipWhile isSpace)
  if next.endsWord 0 then pure (.tagDirective handle target, next) else throw .malformed

/-- Reads a directive and the rest of its line. -/
def readDirective (c : Cursor) : Reading (Token × Cursor) := do
  let (name, next) := (c.advance 1).span isWord
  if !next.endsWord 0 then throw .malformed
  let (token, next) ←
    if name = "YAML".toList then readVersion next
    else if name = "TAG".toList then readTagDirective next
    else throw .malformed
  let next := (next.skipWhile isSpace).skipComment
  if next.endsLine 0 then pure (token, next.takeBreak.2) else throw .malformed

end CecBus.Yaml
