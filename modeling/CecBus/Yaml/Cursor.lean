/-! A place in a YAML text: what is still to be read and where that starts. Line and column decide about
structure, so every step of the reader keeps them. -/

namespace CecBus.Yaml

/-- Why a text is not a document. -/
inductive Fault where
  | encoding
  | character
  | malformed
  | unknownAlias
  | tooDeep
  | tooManyAliases
  | duplicateKey
  | badScalar
  | wrongKind
  | severalDocuments
  deriving DecidableEq, Repr

/-- The wording of a fault. -/
def Fault.message : Fault → String
  | .encoding => "the text is not valid UTF-8"
  | .character => "control characters are not allowed"
  | .malformed => "the text is not well-formed"
  | .unknownAlias => "unknown anchor"
  | .tooDeep => "recursion limit exceeded"
  | .tooManyAliases => "repetition limit exceeded"
  | .duplicateKey => "duplicate entry in a mapping"
  | .badScalar => "a scalar does not fit its tag or is out of range"
  | .wrongKind => "an entry is of the wrong kind"
  | .severalDocuments => "more than one document"

/-- A step of the reader. -/
abbrev Reading := Except Fault

def isBreak (c : Char) : Bool :=
  c = '\n' || c = '\r' || c = '\x85' || c = '\u2028' || c = '\u2029'

def isSpace (c : Char) : Bool := c = ' ' || c = '\t'

def isWord (c : Char) : Bool := c.isAlphanum || c = '-' || c = '_'

/-- Characters a text may hold. -/
def isAllowed (c : Char) : Bool :=
  let n := c.toNat
  n = 0x9 || n = 0xA || n = 0xD || (0x20 ≤ n && n ≤ 0x7E) || n = 0x85 || (0xA0 ≤ n && n ≤ 0xD7FF)
    || (0xE000 ≤ n && n ≤ 0xFFFD) || 0x10000 ≤ n

/-- A place in a text. -/
structure Cursor where
  rest : List Char
  index : Nat := 0
  line : Nat := 0
  column : Nat := 0
  deriving Repr

namespace Cursor

def peek (c : Cursor) : Option Char := c.rest.head?

/-- Whether the character some places ahead satisfies a test; there is none behind the end. -/
def at? (c : Cursor) (n : Nat) (test : Char → Bool) : Bool := c.rest[n]?.any test

def isAt (c : Cursor) (char : Char) : Bool := c.peek = some char

def endsLine (c : Cursor) (n : Nat) : Bool := c.rest[n]?.all isBreak

def endsWord (c : Cursor) (n : Nat) : Bool := c.rest[n]?.all fun x => isSpace x || isBreak x

/-- Goes on by some characters of the same line. -/
def advance (c : Cursor) (n : Nat) : Cursor :=
  { c with rest := c.rest.drop n, index := c.index + n, column := c.column + n }

/-- The characters that satisfy a test, and the place behind them. -/
def span (c : Cursor) (test : Char → Bool) : List Char × Cursor :=
  let taken := c.rest.takeWhile test
  (taken, c.advance taken.length)

def skipWhile (c : Cursor) (test : Char → Bool) : Cursor := (c.span test).2

def skipComment (c : Cursor) : Cursor := if c.isAt '#' then c.skipWhile (!isBreak ·) else c

/-- The break that stands here as it counts in text, and the start of the next line. Without a break
nothing is read. -/
def takeBreak (c : Cursor) : List Char × Cursor :=
  let next := fun rest used => { rest, index := c.index + used, line := c.line + 1, column := 0 }
  match c.rest with
  | '\r' :: '\n' :: rest => (['\n'], next rest 2)
  | x :: rest =>
    if x = '\u2028' || x = '\u2029' then ([x], next rest 1)
    else if isBreak x then (['\n'], next rest 1)
    else ([], c)
  | [] => ([], c)

/-- Whether a marker of three equal characters stands alone at the start of this line. -/
def isMarker (c : Cursor) (char : Char) : Bool :=
  c.column = 0 && c.rest.take 3 = [char, char, char] && c.endsWord 3

def isDocumentMarker (c : Cursor) : Bool := c.isMarker '-' || c.isMarker '.'

end Cursor

/-- Blanks and line breaks between two words of a scalar. -/
structure Gap where
  spaces : List Char := []
  firstBreak : Option (List Char) := none
  moreBreaks : List Char := []

namespace Gap

/-- What a gap is in the text of a scalar: a single line break folds into a blank, a break followed by
others is left out, and blanks around breaks do not count. -/
def fold (g : Gap) : List Char :=
  match g.firstBreak with
  | none => g.spaces
  | some first =>
    if first = ['\n'] then (if g.moreBreaks.isEmpty then [' '] else g.moreBreaks)
    else first ++ g.moreBreaks

/-- Reads a gap. Behind a break no tab may stand left of `indent`. -/
def read (indent : Int) : Nat → Gap → Cursor → Reading (Gap × Cursor)
  | 0, g, c => .ok (g, c)
  | fuel + 1, g, c =>
    match c.peek with
    | some x =>
      if isSpace x then
        if g.firstBreak.isSome then
          if x = '\t' && (c.column : Int) < indent then .error .malformed
          else read indent fuel g (c.advance 1)
        else read indent fuel { g with spaces := g.spaces ++ [x] } (c.advance 1)
      else if isBreak x then
        let (text, next) := c.takeBreak
        if g.firstBreak.isSome then
          read indent fuel { g with moreBreaks := g.moreBreaks ++ text } next
        else read indent fuel { g with firstBreak := some text } next
      else .ok (g, c)
    | none => .ok (g, c)

def breaksLine (g : Gap) : Bool := g.firstBreak.isSome

end Gap

end CecBus.Yaml
