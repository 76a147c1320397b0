import CecBus.Profile

/-! Control messages. A message has a kind, known by its topic, and a document whose fields stand under
`hdmicec` or at the top. -/

namespace CecBus

/-- What a control message is about. -/
inductive MessageKind where
  | command
  | state
  | event
  | config
  deriving DecidableEq, Repr

namespace MessageKind

/-- All kinds, in the order in which documents are tried. -/
def all : List MessageKind := [command, state, event, config]

/-- The field that tells a document of this kind. -/
def key : MessageKind → String
  | command => "command"
  | state => "state"
  | event => "event"
  | config => "config"

/-- The topic of a kind. -/
def topic : MessageKind → String
  | command => "hdmicec/command"
  | state => "hdmicec/state"
  | event => "hdmicec/event"
  | config => "hdmicec/config"

def ofTopic? (topic : String) : Option MessageKind := all.find? (·.topic = topic)

end MessageKind

/-- A message in the queue. The last kind stops whoever takes messages out. -/
inductive Message where
  | control (kind : MessageKind) (payload : ByteArray)
  | exit

/-- Messages are told apart by their kinds and bytes. -/
instance : DecidableEq Message
  | .exit, .exit => isTrue rfl
  | .exit, .control .. => isFalse nofun
  | .control .., .exit => isFalse nofun
  | .control k p, .control l q =>
    decidable_of_iff (k = l ∧ p.data = q.data) (by cases p; cases q; simp)

namespace Profile

/-- The path of a field under the common name. -/
def nestedPath (key : String) : String := "hdmicec/" ++ key

/-- The text of a field, from under the common name if it can be read there. -/
def field? (p : Profile) (key : String) : Option String :=
  ((p.text (nestedPath key)).toOption).or (p.text key).toOption

/-- The text of a field; one that cannot be read is empty. -/
def field (p : Profile) (key : String) : String := (p.field? key).getD ""

/-- The path of a field, under the common name if there is one. -/
def fieldPath (p : Profile) (key : String) : String :=
  if p.contains (nestedPath key) then nestedPath key else key

end Profile

/-- The kind of a document: the first one whose field is there. -/
def MessageKind.detect? (p : Profile) : Option MessageKind := all.find? fun kind => (p.field? kind.key).isSome

end CecBus
