import CecBus.Yaml.BlockScalar
import CecBus.Yaml.Directive
import CecBus.Yaml.FlowScalar

/-! The tokens of a text. Columns decide which blocks are open. A key is recognised only by the colon behind
it, so the lexer remembers where one may have started and puts the key token there afterwards. -/

namespace CecBus.Yaml

/-- A place where a key may have started. At the margin of a block nothing but a key can stand. -/
structure KeyStart where
  tokens : Nat
  required : Bool
  index : Nat
  line : Nat
  column : Nat

/-- The greatest distance between the start of a key and its colon. -/
def maxKeyLength : Nat := 1024

/-- The state between two tokens. `key` belongs to the innermost flow collection and `outerKeys` to those
around it; `indent` is the column of the innermost open block and `outerIndents` those around it. -/
structure Lexer where
  cursor : Cursor
  tokens : Array Token := #[]
  indent : Int := -1
  outerIndents : List Int := []
  keyAllowed : Bool := true
  key : Option KeyStart := none
  outerKeys : List (Option KeyStart) := []

namespace Lexer

def inFlow (l : Lexer) : Bool := !l.outerKeys.isEmpty

def push (l : Lexer) (token : Token) : Lexer := { l with tokens := l.tokens.push token }

def insertAfter (l : Lexer) (count : Nat) (token : Token) : Lexer :=
  { l with tokens := l.tokens.take count ++ #[token] ++ l.tokens.drop count }

def skip (l : Lexer) : Lexer := { l with cursor := l.cursor.advance 1 }

/-- Skips blanks, comments and line breaks up to the next token. A tab counts as a blank only where no key
can start. -/
def skipGap : Nat → Lexer → Lexer
  | 0, l => l
  | fuel + 1, l =>
    let cursor := l.cursor
    let cursor := if cursor.column = 0 && cursor.isAt '\ufeff' then cursor.advance 1 else cursor
    let cursor := cursor.skipWhile fun c => c = ' ' || (c = '\t' && (l.inFlow || !l.keyAllowed))
    let cursor := cursor.skipComment
    if cursor.at? 0 isBreak then
      skipGap fuel { l with cursor := cursor.takeBreak.2, keyAllowed := l.keyAllowed || !l.inFlow }
    else { l with cursor }

/-- Forgets a possible key that is on an earlier line or too far behind. -/
def dropStale (c : Cursor) : Option KeyStart → Reading (Option KeyStart)
  | none => .ok none
  | some key =>
    if key.line < c.line || key.index + maxKeyLength < c.index then
      if key.required then .error .malformed else .ok none
    else .ok (some key)

/-- Forgets every possible key that is out of reach. -/
def dropStaleKeys (l : Lexer) : Reading Lexer := do
  let key ← dropStale l.cursor l.key
  let outerKeys ← l.outerKeys.mapM (dropStale l.cursor)
  pure { l with key, outerKeys }

/-- Gives up the possible key of the innermost collection. -/
def dropKey (l : Lexer) : Reading Lexer :=
  if l.key.any (·.required) then .error .malformed else .ok { l with key := none }

/-- Remembers that a key may start here. -/
def saveKey (l : Lexer) : Reading Lexer :=
  if l.keyAllowed then do
    let l ← l.dropKey
    let c := l.cursor
    let required := !l.inFlow && l.indent = c.column
    pure { l with key := some ⟨l.tokens.size, required, c.index, c.line, c.column⟩ }
  else .ok l

/-- Opens a block at a column that lies right of the open one. -/
def openBlock (l : Lexer) (column count : Nat) (token : Token) : Lexer :=
  if !l.inFlow && l.indent < column then
    { l.insertAfter count token with indent := column, outerIndents := l.indent :: l.outerIndents }
  else l

def openBlockHere (l : Lexer) (token : Token) : Lexer := l.openBlock l.cursor.column l.tokens.size token

/-- Closes every block that lies right of a column. -/
def closeBlocks (l : Lexer) (column : Int) : Lexer :=
  if l.inFlow then l else go l.outerIndents l
where
  /-- Closes open blocks from the inside. -/
  go : List Int → Lexer → Lexer
    | [], l => l
    | outer :: rest, l =>
      if column < l.indent then go rest { l.push .blockEnd with indent := outer, outerIndents := rest } else l

/-- Starts a line that belongs to no block. -/
def leaveBlocks (l : Lexer) : Reading Lexer := do
  let l ← (l.closeBlocks (-1)).dropKey
  pure { l with keyAllowed := false }

def readMarker (l : Lexer) (token : Token) : Reading Lexer := do
  let l ← l.leaveBlocks
  pure { l.push token with cursor := l.cursor.advance 3 }

def openFlow (l : Lexer) (token : Token) : Reading Lexer := do
  let l ← l.saveKey
  pure { (l.push token).skip with keyAllowed := true, key := none, outerKeys := l.key :: l.outerKeys }

/-- The end of a flow collection. -/
def closeFlow (l : Lexer) (token : Token) : Reading Lexer := do
  let l ← l.dropKey
  let l := match l.outerKeys with
    | [] => l
    | key :: rest => { l with key, outerKeys := rest }
  pure { (l.push token).skip with keyAllowed := false }

def readFlowEntry (l : Lexer) : Reading Lexer := do
  let l ← l.dropKey
  pure { (l.push .flowEntry).skip with keyAllowed := true }

/-- A block token that is allowed only where a key could start. -/
def openAtIndicator (l : Lexer) (token : Token) : Reading Lexer :=
  if l.inFlow then .ok l else if l.keyAllowed then .ok (l.openBlockHere token) else .error .malformed

def readBlockEntry (l : Lexer) : Reading Lexer := do
  let l ← (← l.openAtIndicator .blockSequenceStart).dropKey
  pure { (l.push .blockEntry).skip with keyAllowed := true }

/-- The mark of a key that is no single word. -/
def readKey (l : Lexer) : Reading Lexer := do
  let l ← (← l.openAtIndicator .blockMappingStart).dropKey
  pure { (l.push .key).skip with keyAllowed := !l.inFlow }

/-- The colon behind a key. -/
def readValue (l : Lexer) : Reading Lexer :=
  match l.key with
  | some key =>
    let l := (l.insertAfter key.tokens .key).openBlock key.column key.tokens .blockMappingStart
    .ok { (l.push .value).skip with key := none, keyAllowed := false }
  | none => do
    let l ← l.openAtIndicator .blockMappingStart
    pure { (l.push .value).skip with keyAllowed := !l.inFlow }

/-- A token that may be or start a key. -/
def readWord (l : Lexer) (read : Cursor → Reading (Token × Cursor)) : Reading Lexer := do
  let l ← l.saveKey
  let (token, cursor) ← read l.cursor
  pure { l.push token with cursor, keyAllowed := false }

def readNamed (token : String → Token) (c : Cursor) : Reading (Token × Cursor) := do
  let (name, next) ← readName c
  pure (token name, next)

def readTagToken (inFlow : Bool) (c : Cursor) : Reading (Token × Cursor) := do
  let (handle, suffix, next) ← readTag inFlow c
  pure (.tag handle suffix, next)

def readQuotedToken (single : Bool) (c : Cursor) : Reading (Token × Cursor) := do
  let (text, next) ← readQuoted single (c.rest.length + 1) [] (c.advance 1)
  pure (.scalar (if single then .singleQuoted else .doubleQuoted) (String.ofList text), next)

/-- A scalar as an indented block. -/
def readBlockToken (isLiteral : Bool) (l : Lexer) : Reading Lexer := do
  let l ← l.dropKey
  let (text, cursor) ← readBlock isLiteral l.indent (l.cursor.advance 1)
  let token := .scalar (if isLiteral then .literal else .folded) (String.ofList text)
  pure { l.push token with cursor, keyAllowed := true }

/-- A plain scalar. Behind one that ended with its line a key may start. -/
def readPlainToken (l : Lexer) : Reading Lexer := do
  let l ← l.saveKey
  let (text, brokeLine, cursor) ←
    readPlain l.inFlow (l.indent + 1) (l.cursor.rest.length + 1) [] {} l.cursor
  pure { l.push (.scalar .plain (String.ofList text)) with cursor, keyAllowed := brokeLine }

/-- Whether a plain scalar may start here. No token starts with a tab. -/
def startsPlain (l : Lexer) (x : Char) : Bool :=
  let c := l.cursor
  !(isSpace x || "-?:,[]\x7b\x7d#&*!|>'\"%@\x60".contains x)
    || (x = '-' && !c.at? 1 isSpace)
    || (!l.inFlow && (x = '?' || x = ':') && !c.endsWord 1)

/-- Reads the token that starts with the given character. -/
def readToken (l : Lexer) (x : Char) : Reading Lexer :=
  let c := l.cursor
  if c.column = 0 && x = '%' then do
    let l ← l.leaveBlocks
    let (token, cursor) ← readDirective l.cursor
    pure { l.push token with cursor }
  else if c.isMarker '-' then l.readMarker .documentStart
  else if c.isMarker '.' then l.readMarker .documentEnd
  else if x = '[' then l.openFlow .flowSequenceStart
  else if x = '\x7b' then l.openFlow .flowMappingStart
  else if x = ']' then l.closeFlow .flowSequenceEnd
  else if x = '\x7d' then l.closeFlow .flowMappingEnd
  else if x = ',' then l.readFlowEntry
  else if x = '-' && c.endsWord 1 then l.readBlockEntry
  else if x = '?' && (l.inFlow || c.endsWord 1) then l.readKey
  else if x = ':' && (l.inFlow || c.endsWord 1) then l.readValue
  else if x = '*' then l.readWord (readNamed .alias)
  else if x = '&' then l.readWord (readNamed .anchor)
  else if x = '!' then l.readWord (readTagToken l.inFlow)
  else if x = '|' && !l.inFlow then l.readBlockToken true
  else if x = '>' && !l.inFlow then l.readBlockToken false
  else if x = '\'' then l.readWord (readQuotedToken true)
  else if x = '"' then l.readWord (readQuotedToken false)
  else if l.startsPlain x then l.readPlainToken
  else .error .malformed

/-- Reads tokens up to the end of the text, where all blocks are closed. -/
def readAll : Nat → Lexer → Reading (List Token)
  | 0, _ => .error .malformed
  | fuel + 1, l => do
    let l ← (l.skipGap (l.cursor.rest.length + 1)).dropStaleKeys
    let l := l.closeBlocks l.cursor.column
    match l.cursor.peek with
    | none => pure (← l.leaveBlocks).tokens.toList
    | some x => readAll fuel (← l.readToken x)

end Lexer

def Token.ofText (text : List Char) : Reading (List Token) :=
  if text.all isAllowed then Lexer.readAll (text.length + 2) { cursor := { rest := text } }
  else .error .character

end CecBus.Yaml
