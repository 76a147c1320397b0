import CecBus.Profile.Section

/-! What an operation comes to once its reports are left out. An operation that reports and may fail is run by its
outcome: outcomes of operations one after the other are outcomes of the parts, so later modules take programs apart
with the lemmas below and never open the monad. -/

namespace CecBus

variable {ε δ α β : Type}

@[simp] theorem Logged.value_foldlM (f : β → α → Logged β) (b : β) (l : List α) :
    (l.foldlM f b).value = l.foldl (fun b a => (f b a).value) b := by
  induction l generalizing b with
  | nil => rfl
  | cons a l ih => rw [List.foldlM_cons, Logged.value_bind, ih, List.foldl_cons]

/-- The result of an operation, without what it reports. -/
def outcome (x : Attempt ε α) : Except ε α := (ExceptT.run x).value

@[simp] theorem outcome_pure (a : α) : outcome (pure a : Attempt ε α) = .ok a := rfl

@[simp] theorem outcome_throw (e : ε) : outcome (throw e : Attempt ε α) = .error e := rfl

@[simp] theorem outcome_run (x : Attempt ε α) : (ExceptT.run x).value = outcome x := rfl

@[simp] theorem outcome_liftM_logged (x : Logged α) : outcome (liftM x : Attempt ε α) = .ok x.value := rfl

@[simp] theorem outcome_liftM_except (x : Except ε α) : outcome (liftM x : Attempt ε α) = x := rfl

@[simp] theorem outcome_mk (x : Logged (Except ε α)) : outcome (ExceptT.mk x) = x.value := rfl

theorem outcome_bind (x : Attempt ε α) (f : α → Attempt ε β) :
    outcome (x >>= f) = (outcome x).bind fun a => outcome (f a) := by
  change (ExceptT.bindCont f (ExceptT.run x).value).value = _
  unfold outcome
  cases (ExceptT.run x).value <;> rfl

@[simp] theorem outcome_bind_eq_ok {x : Attempt ε α} {f : α → Attempt ε β} {b : β} :
    outcome (x >>= f) = .ok b ↔ ∃ a, outcome x = .ok a ∧ outcome (f a) = .ok b := by
  rw [outcome_bind]
  cases outcome x <;> simp [Except.bind]

@[simp] theorem outcome_map_eq_ok {g : α → β} {x : Attempt ε α} {b : β} :
    outcome (g <$> x) = .ok b ↔ ∃ a, outcome x = .ok a ∧ g a = b := by
  rw [map_eq_pure_bind, outcome_bind_eq_ok]
  simp

@[simp] theorem outcome_adapt (f : ε → δ) (x : Attempt ε α) :
    outcome (ExceptT.adapt f x : Attempt δ α) = (outcome x).mapError f := by
  change (Except.mapError f <$> ExceptT.run x).value = _
  rw [Logged.value_map, outcome_run]

@[simp] theorem mapError_eq_ok {f : ε → δ} {x : Except ε α} {a : α} : x.mapError f = .ok a ↔ x = .ok a := by
  cases x with
  | ok => exact ⟨fun h => congrArg _ (Except.ok.inj h), fun h => congrArg _ (Except.ok.inj h)⟩
  | error =>
    constructor
    · intro h
      cases h
    · intro h
      cases h

@[simp] theorem mapError_ok (f : ε → δ) (a : α) : (Except.ok a).mapError f = .ok a := rfl

@[simp] theorem mapError_error (f : ε → δ) (e : ε) : (Except.error e : Except ε α).mapError f = .error (f e) := rfl

theorem mapError_eq_error {f : ε → δ} {x : Except ε α} {e : δ} :
    x.mapError f = .error e ↔ ∃ e', x = .error e' ∧ f e' = e := by
  cases x <;> simp

theorem toOption_eq_some {x : Except ε α} {a : α} : x.toOption = some a ↔ x = .ok a := by
  cases x <;> simp [Except.toOption]

theorem exists_ok_of_map_toOption {x : Except ε α} {f : α → β} {b : β} (h : x.toOption.map f = some b) :
    ∃ a, x = .ok a ∧ f a = b := by
  obtain ⟨a, ha, hb⟩ := Option.map_eq_some_iff.1 h
  exact ⟨a, toOption_eq_some.1 ha, hb⟩

/-- Changing the errors of two operations one after the other is changing those of both. -/
theorem mapError_outcome_bind (g : ε → δ) (x : Attempt ε α) (f : α → Attempt ε β) :
    (outcome (x >>= f)).mapError g = ((outcome x).mapError g).bind fun a => (outcome (f a)).mapError g := by
  rw [outcome_bind]
  cases outcome x <;> rfl

@[simp] theorem outcome_report (level : Level) (message : String) :
    outcome (liftM (report level message) : Attempt ε Unit) = .ok () := rfl

end CecBus
