import CecBus.Decimal.Layout
import CecBus.Yaml.Node
import CecBus.Yaml.Scalar
import CecBus.Yaml.Token.Lexer

/-! The value of a document: aliases are followed and scalars are read by tag, style and spelling. -/

namespace CecBus.Yaml

/-- A value. The entries of a mapping keep their order, and no two keys are the same. -/
inductive Value where
  | null
  | bool (value : Bool)
  | integer (value : Int)
  | real (value : Binary64)
  | string (text : String)
  | sequence (items : List Value)
  | mapping (entries : List (Value × Value))
  | tagged (tag : String) (value : Value)
  deriving Repr, Inhabited

namespace Value

mutual

/-- Whether two values are the same key. The order of entries does not matter. -/
def same : Value → Value → Bool
  | null, null => true
  | bool a, bool b => a = b
  | integer a, integer b => a = b
  | real a, real b => a.same b
  | string a, string b => a = b
  | sequence a, sequence b => sameItems a b
  | mapping a, mapping b => a.length = b.length && hasEntries a b
  | tagged s a, tagged t b => s = t && same a b
  | _, _ => false

/-- Whether two sequences have the same items. -/
def sameItems : List Value → List Value → Bool
  | [], [] => true
  | a :: rest, b :: others => same a b && sameItems rest others
  | _, _ => false

/-- Whether every entry of one mapping is in another. -/
def hasEntries : List (Value × Value) → List (Value × Value) → Bool
  | [], _ => true
  | (key, value) :: rest, entries =>
    entries.any (fun e => same key e.1 && same value e.2) && hasEntries rest entries

end

/-- What a plain scalar stands for. -/
def ofPlain (text : String) : Reading Value := do
  if text.isEmpty || isNullWord text then pure null
  else
    match truthValue? text with
    | some b => pure (bool b)
    | none =>
      match ← integer? text.toList with
      | some n => pure (integer n)
      | none =>
        if hasSpareZero (splitSign text.toList).2 then pure (string text)
        else
          match real? text with
          | some x => pure (real x)
          | none => pure (string text)

/-- What a scalar without a tag stands for; only a plain one is read by its spelling. -/
def ofUntagged (style : Style) (text : String) : Reading Value :=
  if style = .plain then ofPlain text else .ok (string text)

def standardTag (name : String) : List UInt8 := ("tag:yaml.org,2002:" ++ name).toUTF8.toList

def demand {α : Type} : Option α → Reading α
  | some a => .ok a
  | none => .error .badScalar

/-- What a scalar with a tag stands for. The tags of the standard kinds ask for that kind whatever the style,
and any other tag keeps the text. -/
def ofTagged (tag : List UInt8) (text : String) : Reading Value := do
  if tag = standardTag "bool" then return bool (← demand (truthValue? text))
  else if tag = standardTag "int" then return integer (← demand (← integer? text.toList))
  else if tag = standardTag "float" then return real (← demand (real? text))
  else if tag = standardTag "null" then
    if isNullWord text then return null else throw .badScalar
  else return string text

/-- What a scalar stands for. A local tag does not decide about the spelling. -/
def ofScalar (tag : Option (List UInt8)) (style : Style) (text : String) : Reading Value :=
  match tag with
  | none => ofUntagged style text
  | some tag => if tag.head? = some 33 then ofUntagged style text else ofTagged tag text

/-- The name of a local tag, which starts with an exclamation mark. -/
def localTag? (tag : Option (List UInt8)) : Option String :=
  match tag with
  | some [33] => some "!"
  | some (33 :: name) => String.fromUTF8? ⟨name.toArray⟩
  | _ => none

/-- A value under its local tag, if it has one. -/
def underTag (tag : Option (List UInt8)) (value : Value) : Value :=
  match localTag? tag with
  | some name => tagged name value
  | none => value

/-- The greatest depth of collections. -/
def maxDepth : Nat := 128

/-- A step that may follow aliases; the state is the number of times that is still allowed. -/
abbrev Following := StateT Nat Reading

/-- Follows an alias. -/
def follow (targets : List (Nat × Node)) : Node → Following Node
  | .reference id => do
    match ← get with
    | 0 => throw .tooManyAliases
    | left + 1 =>
      set left
      match targets.lookup id with
      | some node => pure node
      | none => throw .unknownAlias
  | node => pure node

/-- Adds an entry whose key is new. -/
def addEntry (entries : List (Value × Value)) (entry : Value × Value) : Reading (List (Value × Value)) :=
  if entries.any fun e => e.1.same entry.1 then .error .duplicateKey else .ok (entries ++ [entry])

/-- The value of a node whose collections are not nested deeper than allowed. -/
def ofNode (targets : List (Nat × Node)) : Nat → Node → Following Value
  | depth, node => do
    match ← follow targets node with
    | .reference _ => throw .unknownAlias
    | .scalar tag style text =>
      let value ← (ofScalar tag style text : Reading Value)
      pure (underTag tag value)
    | .sequence tag items =>
      match depth with
      | 0 => throw .tooDeep
      | depth + 1 =>
        let items ← items.mapM (ofNode targets depth)
        pure (underTag tag (sequence items))
    | .mapping tag entries =>
      match depth with
      | 0 => throw .tooDeep
      | depth + 1 =>
        let entries ← entries.foldlM
          (fun found (key, value) => do
            let key ← ofNode targets depth key
            let value ← ofNode targets depth value
            (addEntry found (key, value) : Reading _))
          []
        pure (underTag tag (mapping entries))

/-- The value of a document; that of an empty one is null. -/
def ofDocument (document : Document) : Reading Value :=
  match document.root with
  | none => .ok null
  | some node => do
    let (value, _) ← (ofNode document.targets maxDepth node).run document.jumps
    pure value

/-- The document in a text given as bytes. -/
def readDocument (bytes : ByteArray) : Reading Document :=
  match String.fromUTF8? bytes with
  | none => .error .encoding
  | some text => do Document.ofTokens (← Token.ofText text.toList)

def ofBytes (bytes : ByteArray) : Reading Value := do ofDocument (← readDocument bytes)

/-- Numbers are positional from `0.00001` up to sixteen digits before the point, and a tie goes to the even
digit. -/
def numberLayout : Decimal.Layout := ⟨-5, 16, ".inf", ".nan", .even⟩

end Value

end CecBus.Yaml
