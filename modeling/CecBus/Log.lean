import CecBus.Decimal.Binary64

/-! What operations report while they run. An operation that reports is a value together with its
entries in order; running one after the other appends what both report. -/

namespace CecBus

/-- How severe an entry is, the most severe first. -/
inductive Level where
  | error | warn | info | debug | trace
  deriving DecidableEq, Repr

/-- The rank of a level; a lower rank is more severe. -/
def Level.rank : Level → Nat
  | .error => 0
  | .warn => 1
  | .info => 2
  | .debug => 3
  | .trace => 4

def Level.passes (level threshold : Level) : Bool := level.rank ≤ threshold.rank

/-- The value of an additional field of an entry. -/
inductive FieldValue where
  | text (value : String)
  | quoted (value : String)
  | integer (value : Int)
  | real (value : Binary64)
  | flag (value : Bool)
  deriving DecidableEq, Repr

/-- One reported line. The component names the part of the program that reports. -/
structure Entry where
  level : Level
  message : String
  component : Option String := none
  fields : List (String × FieldValue) := []
  deriving DecidableEq, Repr

/-- A value and what was reported on the way to it. -/
structure Logged (α : Type) where
  value : α
  entries : List Entry
  deriving Repr

namespace Logged

variable {α β γ : Type}

instance : Monad Logged where
  pure a := ⟨a, []⟩
  bind x f := ⟨(f x.value).value, x.entries ++ (f x.value).entries⟩

@[simp] theorem value_pure (a : α) : (pure a : Logged α).value = a := rfl

@[simp] theorem entries_pure (a : α) : (pure a : Logged α).entries = [] := rfl

@[simp] theorem value_bind (x : Logged α) (f : α → Logged β) :
    (x >>= f).value = (f x.value).value := rfl

@[simp] theorem entries_bind (x : Logged α) (f : α → Logged β) :
    (x >>= f).entries = x.entries ++ (f x.value).entries := rfl

@[simp] theorem value_map (f : α → β) (x : Logged α) : (f <$> x).value = f x.value := rfl

@[simp] theorem entries_map (f : α → β) (x : Logged α) : (f <$> x).entries = x.entries := by
  simp [Functor.map]

instance : LawfulMonad Logged :=
  LawfulMonad.mk' Logged (fun x => by cases x; simp [Functor.map]) (fun _ _ => by simp [bind, pure])
    (fun _ _ _ => by simp [bind, List.append_assoc])

end Logged

def reportAll (entries : List Entry) : Logged Unit := ⟨(), entries⟩

def report (level : Level) (message : String) : Logged Unit := reportAll [⟨level, message, none, []⟩]

def reportFrom (component : String) (level : Level) (message : String) : Logged Unit :=
  reportAll [⟨level, message, some component, []⟩]

def reportInfo (messages : List String) : Logged Unit :=
  reportAll (messages.map fun m => ⟨.info, m, none, []⟩)

@[simp] theorem entries_report (level : Level) (message : String) :
    (report level message).entries = [⟨level, message, none, []⟩] := rfl

def Logged.failed {α : Type} (x : Logged α) : Bool := x.entries.any (·.level = .error)

end CecBus
