import CecBus.Text.Hex
import CecBus.Yaml.Cursor

/-! Scalars inside a line or folded over several: quoted ones with their escapes, and plain ones that end
at an indicator, a comment or a smaller indentation. -/

namespace CecBus.Yaml

/-- The character an escape of one letter stands for. -/
def escaped? : Char → Option Char
  | '0' => some '\x00'
  | 'a' => some '\x07'
  | 'b' => some '\x08'
  | 't' | '\t' => some '\t'
  | 'n' => some '\n'
  | 'v' => some '\x0b'
  | 'f' => some '\x0c'
  | 'r' => some '\r'
  | 'e' => some '\x1b'
  | ' ' => some ' '
  | '"' => some '"'
  | '/' => some '/'
  | '\\' => some '\\'
  | 'N' => some '\x85'
  | '_' => some '\xa0'
  | 'L' => some '\u2028'
  | 'P' => some '\u2029'
  | _ => none

/-- The number of digits of an escape by code point. -/
def escapeDigits? : Char → Option Nat
  | 'x' => some 2
  | 'u' => some 4
  | 'U' => some 8
  | _ => none

/-- The character with a code point; surrogates and numbers beyond the last code point are refused. -/
def codePoint (n : Nat) : Reading Char :=
  if (0xD800 ≤ n ∧ n ≤ 0xDFFF) ∨ 0x10FFFF < n then .error .malformed else .ok (Char.ofNat n)

/-- Reads an escape behind its backslash. -/
def readEscape (c : Cursor) : Reading (Char × Cursor) :=
  match c.peek with
  | none => .error .malformed
  | some x =>
    match escapeDigits? x with
    | some width => do
      let digits := (c.rest.drop 1).take width
      if digits.length < width then throw .malformed
      match digits.mapM Hex.digit? with
      | none => throw .malformed
      | some values =>
        let char ← codePoint (values.foldl (fun n d => n * 16 + d) 0)
        pure (char, c.advance (1 + width))
    | none =>
      match escaped? x with
      | some char => .ok (char, c.advance 1)
      | none => .error .malformed

/-- Reads the inside of a quoted scalar up to and with the closing quote. `text` is what was read before,
in reverse. -/
def readQuoted (single : Bool) : Nat → List Char → Cursor → Reading (List Char × Cursor)
  | 0, _, _ => .error .malformed
  | fuel + 1, text, c =>
    let quote := if single then '\'' else '"'
    if c.isDocumentMarker then .error .malformed
    else
      match c.peek with
      | none => .error .malformed
      | some x =>
        if isSpace x || isBreak x then do
          let (gap, next) ← Gap.read 0 (c.rest.length + 1) {} c
          readQuoted single fuel (gap.fold.reverse ++ text) next
        else if single && x = '\'' && c.at? 1 (· = '\'') then
          readQuoted single fuel ('\'' :: text) (c.advance 2)
        else if x = quote then .ok (text.reverse, c.advance 1)
        else if !single && x = '\\' then
          if c.at? 1 isBreak then do
            let behind := ((c.advance 1).takeBreak).2
            let (gap, next) ← Gap.read 0 (behind.rest.length + 1) { firstBreak := some [] } behind
            readQuoted single fuel (gap.fold.reverse ++ text) next
          else do
            let (char, next) ← readEscape (c.advance 1)
            readQuoted single fuel (char :: text) next
        else readQuoted single fuel (x :: text) (c.advance 1)

/-- Whether a plain scalar ends before this character of a word. Inside brackets the separators of flow
collections end it, and a colon before one of them is an error. -/
def endsPlain (inFlow : Bool) (c : Cursor) (x : Char) : Reading Bool :=
  if inFlow && x = ':' && c.at? 1 (fun y => y = ',' || y = '?' || y = '[' || y = ']' || y = '{' || y = '}')
  then .error .malformed
  else .ok ((x = ':' && c.endsWord 1)
    || (inFlow && (x = ',' || x = '[' || x = ']' || x = '{' || x = '}')))

/-- Reads a word of a plain scalar; `text` is what was read before, in reverse. -/
def readPlainWord (inFlow : Bool) : Nat → List Char → Cursor → Reading (List Char × Cursor)
  | 0, text, c => .ok (text, c)
  | fuel + 1, text, c =>
    match c.peek with
    | none => .ok (text, c)
    | some x =>
      if isSpace x || isBreak x then .ok (text, c)
      else do
        if ← endsPlain inFlow c x then pure (text, c)
        else readPlainWord inFlow fuel (x :: text) (c.advance 1)

/-- Reads a plain scalar word by word. `pending` is the gap behind the words read so far, which counts
only when another word follows. With the text comes whether a line was broken at its end. -/
def readPlain (inFlow : Bool) (indent : Int) :
    Nat → List Char → Gap → Cursor → Reading (List Char × Bool × Cursor)
  | 0, _, _, _ => .error .malformed
  | fuel + 1, text, pending, c => do
    if c.isDocumentMarker || c.isAt '#' then pure (text.reverse, pending.breaksLine, c)
    else
      let (word, next) ← readPlainWord inFlow (c.rest.length + 1) [] c
      let (text, pending) :=
        if word.isEmpty then (text, pending) else (word ++ pending.fold.reverse ++ text, {})
      if next.rest.isEmpty || !next.endsWord 0 then pure (text.reverse, pending.breaksLine, next)
      else
        let (gap, next) ← Gap.read indent (next.rest.length + 1) pending next
        if !inFlow && (next.column : Int) < indent then pure (text.reverse, gap.breaksLine, next)
        else readPlain inFlow indent fuel text gap next

end CecBus.Yaml
