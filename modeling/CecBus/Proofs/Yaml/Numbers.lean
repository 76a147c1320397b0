import Mathlib.Data.List.Basic
import CecBus.Proofs.Text.Numeral
import CecBus.Yaml.Value

/-! The texts of numbers. A real number is always written with a point or an exponent, so its text is no numeral; the
text of a whole number is the numeral of that number. Main results: `Numeral.not_spellsMarked_write` and
`Numeral.spellsMarked_toString`. -/

namespace CecBus

variable {c : Char} {text digits : List Char}

/-! ### Decimal notation -/

namespace Decimal

variable {layout : Layout} {point power exponent : Int} {significand : Nat}

theorem isDigit_of_mem_toDigits {n : Nat} (h : c ∈ Nat.toDigits 10 n) : c.isDigit :=
  Nat.isDigit_of_mem_toDigits (by decide) (by decide) h

theorem isDigit_of_mem_toString {n : Nat} (h : c ∈ (toString n).toList) : c.isDigit := by
  rw [Nat.toString_eq_ofList_toDigits, String.toList_ofList] at h
  exact isDigit_of_mem_toDigits h

theorem mem_toString_int {n : Int} (h : c ∈ (toString n).toList) : c.isDigit ∨ c = '-' := by
  cases n with
  | ofNat n => exact .inl (isDigit_of_mem_toString h)
  | negSucc n =>
    change c ∈ ("-" ++ toString (n + 1)).toList at h
    rw [String.toList_append, List.mem_append] at h
    rcases h with h | h
    · exact .inr (by simpa using h)
    · exact .inl (isDigit_of_mem_toString h)

theorem dot_mem_positional (digits : List Char) (point : Int) : '.' ∈ positional digits point := by
  unfold positional
  split <;> simp

theorem mem_positional (h : c ∈ positional digits point) : c ∈ digits ∨ c = '.' ∨ c = '0' := by
  unfold positional at h
  split at h
  · simp only [List.mem_cons, List.mem_append] at h
    rcases h with h | h | h | h
    · exact .inr (.inr h)
    · exact .inr (.inl h)
    · exact .inr (.inr (List.eq_of_mem_replicate h))
    · exact .inl h
  · simp only [List.mem_cons, List.mem_append] at h
    rcases h with (h | h) | h | h
    · exact .inl (List.mem_of_mem_take h)
    · exact .inr (.inr (List.eq_of_mem_replicate h))
    · exact .inr (.inl h)
    · split at h
      · exact .inr (.inr (List.mem_singleton.1 h))
      · exact .inl (List.mem_of_mem_drop h)

theorem e_mem_scientific (digits : List Char) (power : Int) : 'e' ∈ scientific digits power := by
  unfold scientific
  split <;> simp

theorem mem_scientific (h : c ∈ scientific digits power) :
    c ∈ digits ∨ c = '.' ∨ c = 'e' ∨ c ∈ (toString power).toList := by
  unfold scientific at h
  split at h <;> simp only [List.mem_cons, List.mem_append, List.cons_append] at h ⊢ <;> tauto

theorem mem_magnitude (h : c ∈ layout.magnitude significand exponent) :
    c.isDigit ∨ c = '-' ∨ c = '.' ∨ c = 'e' := by
  unfold Layout.magnitude at h
  dsimp only at h
  split at h
  · rcases mem_positional h with h | h | rfl
    · exact .inl (isDigit_of_mem_toDigits h)
    · exact .inr (.inr (.inl h))
    · exact .inl rfl
  · rcases mem_scientific h with h | h | h | h
    · exact .inl (isDigit_of_mem_toDigits h)
    · exact .inr (.inr (.inl h))
    · exact .inr (.inr (.inr h))
    · rcases mem_toString_int h with h | h
      · exact .inl h
      · exact .inr (.inl h)

/-- There is always a point or an exponent. -/
theorem mark_mem_magnitude (layout : Layout) (significand : Nat) (exponent : Int) :
    '.' ∈ layout.magnitude significand exponent ∨ 'e' ∈ layout.magnitude significand exponent := by
  unfold Layout.magnitude
  dsimp only
  split
  · exact .inl (dot_mem_positional _ _)
  · exact .inr (e_mem_scientific _ _)

end Decimal

/-! ### Numbers in documents -/

namespace Yaml.Value

def numberCharacters : List Char := "0123456789-.einfa".toList

theorem mem_numberCharacters_of_isDigit (h : c.isDigit) : c ∈ numberCharacters := by
  obtain ⟨d, hd, rfl⟩ : ∃ d < 10, c = Nat.digitChar d := by
    simp only [Char.isDigit, Bool.and_eq_true, decide_eq_true_eq, ge_iff_le, UInt32.le_iff_toNat_le] at h
    have hlow : 48 ≤ c.toNat := h.1
    have hhigh : c.toNat ≤ 57 := h.2
    refine ⟨c.toNat - 48, by omega, Char.toNat_inj.1 ?_⟩
    rw [Nat.toNat_digitChar_of_lt_ten (by omega)]
    omega
  revert d
  decide

theorem mem_numberCharacters_of_sign {negative : Bool} (h : c ∈ (if negative then "-" else "").toList) :
    c ∈ numberCharacters := by
  cases negative
  · exact absurd h List.not_mem_nil
  · rw [List.mem_singleton.1 h]
    decide

theorem mem_numberCharacters_of_magnitude {layout : Decimal.Layout} {significand : Nat} {exponent : Int}
    (h : c ∈ layout.magnitude significand exponent) : c ∈ numberCharacters := by
  rcases Decimal.mem_magnitude h with h | rfl | rfl | rfl
  · exact mem_numberCharacters_of_isDigit h
  all_goals decide

theorem mem_write {x : Binary64} (h : c ∈ (numberLayout.write x).toList) : c ∈ numberCharacters := by
  cases x with
  | nan => exact List.forall_iff_forall_mem.1 (by decide) c h
  | infinite negative => cases negative <;> exact List.forall_iff_forall_mem.1 (by decide) c h
  | finite negative significand exponent =>
    rw [Decimal.Layout.write, String.toList_append, List.mem_append, String.toList_ofList] at h
    rcases h with h | h
    · exact mem_numberCharacters_of_sign h
    · split at h
      · exact List.forall_iff_forall_mem.1 (by decide) c h
      · exact mem_numberCharacters_of_magnitude h

/-- Real numbers are always written with a point or an exponent. -/
theorem mark_mem_write (x : Binary64) : '.' ∈ (numberLayout.write x).toList ∨ 'e' ∈ (numberLayout.write x).toList := by
  cases x with
  | nan => exact .inl (by decide)
  | infinite negative => cases negative <;> exact .inl (by decide)
  | finite negative significand exponent =>
    simp only [Decimal.Layout.write, String.toList_append, String.toList_ofList, List.mem_append]
    by_cases hzero : significand = 0
    · rw [if_pos hzero]
      exact .inl (.inr (by decide))
    · rw [if_neg hzero]
      exact (Decimal.mark_mem_magnitude _ _ _).imp .inr .inr

theorem mem_toString {n : Int} (h : c ∈ (toString n).toList) : c ∈ numberCharacters := by
  rcases Decimal.mem_toString_int h with h | rfl
  · exact mem_numberCharacters_of_isDigit h
  · decide

end Yaml.Value

/-! ### Texts of numbers as numerals -/

namespace Numeral

variable {v : Nat}

open Yaml.Value (numberCharacters)

/-- No mark of a base stands in the text of a number. -/
theorem ne_mark_of_mem : ∀ c ∈ numberCharacters, ¬ (c = 'x' ∨ c = 'X') := List.forall_iff_forall_mem.1 (by decide)

/-- A numeral with the characters of numbers is decimal. -/
theorem SpellsMarked.decimal_of_forall (h : SpellsMarked text v) (htext : ∀ c ∈ text, c ∈ numberCharacters) :
    Spells 10 text v := by
  cases h with
  | decimal h => exact h
  | hexadecimal hmark h => exact absurd hmark (ne_mark_of_mem _ (htext _ (List.mem_cons_of_mem _ List.mem_cons_self)))

/-- The text of a real number is no numeral. -/
theorem not_spellsMarked_write (x : Binary64) (v : Nat) :
    ¬ SpellsMarked (Yaml.Value.numberLayout.write x).toList v := by
  intro h
  have hdecimal := h.decimal_of_forall fun c => Yaml.Value.mem_write
  rcases Yaml.Value.mark_mem_write x with hmem | hmem
  · exact absurd (hdecimal.isSome_digit? hmem) (by decide)
  · exact absurd (hdecimal.isSome_digit? hmem) (by decide)

/-- The text of a whole number is the numeral of that number, if it is not negative. -/
theorem spellsMarked_toString {n : Int} : SpellsMarked (toString n).toList v ↔ n = v := by
  constructor
  · intro h
    have hdecimal := h.decimal_of_forall fun c => Yaml.Value.mem_toString
    cases n with
    | ofNat n =>
      change Spells 10 (toString n).toList v at hdecimal
      rw [Nat.toString_eq_ofList_toDigits, String.toList_ofList] at hdecimal
      exact congrArg Int.ofNat ((Spells.plain (denotes_toDigits n)).eq hdecimal)
    | negSucc n =>
      have hminus := hdecimal.isSome_digit? (c := '-') (by
        change '-' ∈ ("-" ++ toString (n + 1)).toList
        simp)
      exact absurd hminus (by decide)
  · rintro rfl
    change SpellsMarked (toString v).toList v
    rw [Nat.toString_eq_ofList_toDigits, String.toList_ofList]
    exact .decimal (.plain (denotes_toDigits v))

end Numeral

end CecBus
