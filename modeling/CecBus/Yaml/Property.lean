import CecBus.Text.Hex
import CecBus.Yaml.Cursor

/-! What may stand in front of a node: an anchor, which names it, and a tag, which says what it is. -/

namespace CecBus.Yaml

/-- Characters of a tag or of the target of a handle. Separators of flow collections are among them only
where a tag is written out between angle brackets. -/
def isTagChar (verbatim : Bool) (c : Char) : Bool :=
  isWord c || ";/?:@&=+$.!~*'()".contains c || (verbatim && (c = ',' || c = '[' || c = ']'))

/-- The number of bytes of a character whose first byte is given. -/
def widthOfLead? (lead : UInt8) : Option Nat :=
  if lead < 0x80 then some 1
  else if lead < 0xC0 then none
  else if lead < 0xE0 then some 2
  else if lead < 0xF0 then some 3
  else if lead < 0xF8 then some 4
  else none

/-- A byte as a percent sign and two digits. -/
def readEscapedByte (c : Cursor) : Reading (UInt8 × Cursor) :=
  match c.rest with
  | '%' :: a :: b :: _ =>
    match Hex.read? [a, b] with
    | some [byte] => .ok (byte, c.advance 3)
    | _ => .error .malformed
  | _ => .error .malformed

/-- Bytes that continue a character. -/
def readContinuation : Nat → Cursor → Reading (List UInt8 × Cursor)
  | 0, c => .ok ([], c)
  | count + 1, c => do
    let (byte, next) ← readEscapedByte c
    if byte < 0x80 || 0xC0 ≤ byte then throw .malformed
    let (bytes, next) ← readContinuation count next
    pure (byte :: bytes, next)

/-- One character whose bytes are escaped. -/
def readEscapedChar (c : Cursor) : Reading (List UInt8 × Cursor) := do
  let (lead, next) ← readEscapedByte c
  match widthOfLead? lead with
  | none => throw .malformed
  | some width =>
    let (bytes, next) ← readContinuation (width - 1) next
    pure (lead :: bytes, next)

def charBytes (c : Char) : List UInt8 := c.toString.toUTF8.toList

/-- Reads the bytes of a tag as far as its characters go. -/
def readTagBytes (verbatim : Bool) : Nat → Cursor → Reading (List UInt8 × Cursor)
  | 0, c => .ok ([], c)
  | fuel + 1, c =>
    match c.peek with
    | none => .ok ([], c)
    | some x =>
      if x = '%' then do
        let (bytes, next) ← readEscapedChar c
        let (rest, next) ← readTagBytes verbatim fuel next
        pure (bytes ++ rest, next)
      else if isTagChar verbatim x then do
        let (rest, next) ← readTagBytes verbatim fuel (c.advance 1)
        pure (charBytes x ++ rest, next)
      else .ok ([], c)

def readSomeTagBytes (verbatim : Bool) (c : Cursor) : Reading (List UInt8 × Cursor) := do
  let (bytes, next) ← readTagBytes verbatim c.rest.length c
  if bytes.isEmpty then throw .malformed else pure (bytes, next)

/-- Reads a handle: an exclamation mark, name characters and perhaps a second mark. -/
def readHandle (c : Cursor) : Reading (List Char × Cursor) :=
  if c.isAt '!' then
    let (word, next) := (c.advance 1).span isWord
    if next.isAt '!' then .ok ('!' :: (word ++ ['!']), next.advance 1) else .ok ('!' :: word, next)
  else .error .malformed

def isClosedHandle (handle : List Char) : Bool := 1 < handle.length && handle.getLast? = some '!'

/-- Reads handle and suffix of a tag. Between angle brackets the suffix is the whole tag. What looks like a
handle without second mark belongs to the suffix, and a lone mark is a tag of its own. -/
def readTagText (c : Cursor) : Reading (List Char × List UInt8 × Cursor) := do
  if c.at? 1 (· = '<') then
    let (suffix, next) ← readSomeTagBytes true (c.advance 2)
    if next.isAt '>' then pure ([], suffix, next.advance 1) else throw .malformed
  else
    let (handle, next) ← readHandle c
    if isClosedHandle handle then
      let (suffix, next) ← readSomeTagBytes false next
      pure (handle, suffix, next)
    else
      let (rest, next) ← readTagBytes false next.rest.length next
      let suffix := (handle.drop 1).flatMap charBytes ++ rest
      pure (if suffix.isEmpty then ([], charBytes '!', next) else (['!'], suffix, next))

def readTag (inFlow : Bool) (c : Cursor) : Reading (List Char × List UInt8 × Cursor) := do
  let (handle, suffix, next) ← readTagText c
  if next.endsWord 0 || (inFlow && next.isAt ',') then pure (handle, suffix, next) else throw .malformed

/-- Reads the name behind the mark of an anchor or of an alias. -/
def readName (c : Cursor) : Reading (String × Cursor) :=
  let (name, next) := (c.advance 1).span isWord
  if !name.isEmpty && (next.endsWord 0 || next.at? 0 fun x => "?:,]\x7d%@\x60".contains x) then
    .ok (String.ofList name, next)
  else .error .malformed

end CecBus.Yaml
