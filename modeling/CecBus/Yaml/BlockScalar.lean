import CecBus.Text.Hex
import CecBus.Yaml.Cursor

/-! Scalars as indented blocks. A literal block keeps its line breaks, a folded one joins its lines, and
an indicator in the header says what becomes of the breaks at the end. -/

namespace CecBus.Yaml

/-- What becomes of the line breaks at the end of a block. -/
inductive Chomping where
  | strip
  | clip
  | keep
  deriving DecidableEq

/-- Reads a chomping indicator if there is one. -/
def readChomping (c : Cursor) : Chomping × Cursor :=
  if c.isAt '+' then (.keep, c.advance 1)
  else if c.isAt '-' then (.strip, c.advance 1)
  else (.clip, c)

/-- Reads an indentation indicator if there is one; it must not be zero. -/
def readIncrement (c : Cursor) : Reading (Nat × Cursor) :=
  match c.peek with
  | some x =>
    if x = '0' then .error .malformed
    else if x.isDigit then .ok (x.toNat - 48, c.advance 1)
    else .ok (0, c)
  | none => .ok (0, c)

/-- Reads the header behind `|` or `>`: both indicators in either order, and nothing else but a comment. -/
def readBlockHeader (c : Cursor) : Reading (Chomping × Nat × Cursor) := do
  let (chomping, next) := readChomping c
  let (increment, next) ← readIncrement next
  let (chomping, next) := if chomping = .clip then readChomping next else (chomping, next)
  let next := (next.skipWhile isSpace).skipComment
  if next.endsLine 0 then pure (chomping, increment, next.takeBreak.2) else throw .malformed

/-- Skips indentation and empty lines. An indentation of zero is not known yet. With the breaks and the
place behind comes the greatest column that was reached. -/
def readIndentation (indent : Nat) : Nat → Nat → List Char → Cursor → Reading (Nat × List Char × Cursor)
  | 0, widest, breaks, c => .ok (widest, breaks, c)
  | fuel + 1, widest, breaks, c =>
    let blanks := (c.rest.takeWhile (· = ' ')).length
    let c := c.advance (if indent = 0 then blanks else min blanks (indent - c.column))
    let widest := max widest c.column
    if (indent = 0 || c.column < indent) && c.isAt '\t' then .error .malformed
    else if c.at? 0 isBreak then
      let (text, next) := c.takeBreak
      readIndentation indent fuel widest (breaks ++ text) next
    else .ok (widest, breaks, c)

/-- Reads the lines of a block. `text` is what was read before, `last` the break behind it and `breaks`
those of empty lines after it; `spaced` says whether the line before starts with a blank. -/
def readBlockLines (isLiteral : Bool) (indent : Nat) : Nat → List Char → List Char → List Char → Bool → Cursor →
    Reading (List Char × List Char × List Char × Cursor)
  | 0, text, last, breaks, _, c => .ok (text, last, breaks, c)
  | fuel + 1, text, last, breaks, spaced, c =>
    if c.column = indent && !c.rest.isEmpty then do
      let startsBlank := c.at? 0 isSpace
      let joint :=
        if !isLiteral && last = ['\n'] && !spaced && !startsBlank then
          (if breaks.isEmpty then [' '] else breaks)
        else last ++ breaks
      let (content, next) := c.span (!isBreak ·)
      let (last, next) := next.takeBreak
      let (_, breaks, next) ← readIndentation indent (next.rest.length + 1) 0 [] next
      readBlockLines isLiteral indent fuel (text ++ joint ++ content) last breaks startsBlank next
    else .ok (text, last, breaks, c)

/-- Reads a block scalar behind its indicator; `parent` is the indentation around it. -/
def readBlock (isLiteral : Bool) (parent : Int) (c : Cursor) : Reading (List Char × Cursor) := do
  let (chomping, increment, c) ← readBlockHeader c
  let given := if increment = 0 then 0 else (max parent 0).toNat + increment
  let (widest, breaks, c) ← readIndentation given (c.rest.length + 1) 0 [] c
  let indent := if given = 0 then max (max widest (parent + 1).toNat) 1 else given
  let (text, last, breaks, c) ← readBlockLines isLiteral indent (c.rest.length + 1) [] [] breaks false c
  let ending := match chomping with
    | .strip => []
    | .clip => last
    | .keep => last ++ breaks
  pure (text ++ ending, c)

end CecBus.Yaml
