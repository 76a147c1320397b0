import CecBus.Log
import CecBus.Profile

/-! A section of a profile: everything below one key path. -/

namespace CecBus

/-- An operation that reports on its way and may fail. What it reported before it failed stays reported. -/
abbrev Attempt (ε α : Type) := ExceptT ε Logged α

/-- The place a key path leads to, as the start of further paths. -/
structure Section where
  profile : Profile
  path : String

namespace Section

def key (s : Section) (name : String) : String := KeyPath.join s.path name

def entry (s : Section) (name : String) : Section := { s with path := s.key name }

def text (s : Section) (name : String) : Except ProfileError String := s.profile.text (s.key name)

def number (s : Section) (name : String) : Except ProfileError Nat := s.profile.number (s.key name)

def flag (s : Section) (name : String) : Except ProfileError Bool := s.profile.flag (s.key name)

def text? (s : Section) (name : String) : Except ProfileError (Option String) :=
  ProfileError.optional (s.text name)

def number? (s : Section) (name : String) : Except ProfileError (Option Nat) :=
  ProfileError.optional (s.number name)

def flag? (s : Section) (name : String) : Except ProfileError (Option Bool) :=
  ProfileError.optional (s.flag name)

def count (s : Section) (name : String) : Nat := s.profile.count (s.key name)

end Section

end CecBus
