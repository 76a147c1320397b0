import Mathlib.Data.List.Induction
import CecBus.Text.Numeral

/-! What numerals stand for. `Denotes` is positional notation said by itself: the last digit counts once and what is in
front of it counts as often as the base says. The readers of numerals accept exactly what is spelled so, and the decimal
text of a number reads back (`marked?_eq_some`, `below?_toDigits`). -/

namespace CecBus.Numeral

variable {base bound d v w : Nat} {text rest : List Char} {c : Char}

/-- Digits of a base, and the number they stand for. -/
inductive Denotes (base : Nat) : List Char → Nat → Prop
  | single {c : Char} {d : Nat} (hd : digit? base c = some d) : Denotes base [c] d
  | snoc {text : List Char} {v : Nat} {c : Char} {d : Nat} (h : Denotes base text v) (hd : digit? base c = some d) :
    Denotes base (text ++ [c]) (v * base + d)

/-- A numeral of a base: digits, perhaps behind a plus sign. -/
inductive Spells (base : Nat) : List Char → Nat → Prop
  | plain {text : List Char} {v : Nat} (h : Denotes base text v) : Spells base text v
  | signed {text : List Char} {v : Nat} (h : Denotes base text v) : Spells base ('+' :: text) v

/-- A numeral that tells its base: behind `0x` or `0X` it is hexadecimal, and decimal otherwise. -/
inductive SpellsMarked : List Char → Nat → Prop
  | decimal {text : List Char} {v : Nat} (h : Spells 10 text v) : SpellsMarked text v
  | hexadecimal {text : List Char} {v : Nat} {mark : Char} (hmark : mark = 'x' ∨ mark = 'X') (h : Spells 16 text v) :
    SpellsMarked ('0' :: mark :: text) v

/-! ### Digits -/

theorem Denotes.ne_nil (h : Denotes base text v) : text ≠ [] := by
  cases h <;> simp

theorem Denotes.isSome_digit? (h : Denotes base text v) (hc : c ∈ text) : (digit? base c).isSome := by
  induction h with
  | single hd =>
    rw [List.mem_singleton.1 hc, hd]
    rfl
  | snoc _ hd ih =>
    rcases List.mem_append.1 hc with hc | hc
    · exact ih hc
    · rw [List.mem_singleton.1 hc, hd]
      rfl

theorem digits?_append (base : Nat) (text rest : List Char) (w : Nat) :
    digits? base (text ++ rest) w = (digits? base text w).bind (digits? base rest) := by
  induction text generalizing w with
  | nil => rfl
  | cons c text ih =>
    rw [List.cons_append, digits?, digits?]
    cases digit? base c with
    | none => rfl
    | some d => exact ih _

theorem digits?_append_singleton : digits? base (text ++ [c]) w = some v ↔
    ∃ u d, digits? base text w = some u ∧ digit? base c = some d ∧ u * base + d = v := by
  simp [digits?_append, digits?, Option.bind_eq_some_iff]

theorem digits?_eq_some (hne : text ≠ []) : digits? base text 0 = some v ↔ Denotes base text v := by
  constructor
  · intro h
    induction text using List.reverseRecOn generalizing v with
    | nil => exact absurd rfl hne
    | append_singleton text c ih =>
      obtain ⟨u, d, hu, hd, rfl⟩ := digits?_append_singleton.1 h
      by_cases htext : text = []
      · subst htext
        obtain rfl : 0 = u := Option.some.inj hu
        rw [Nat.zero_mul, Nat.zero_add]
        exact .single hd
      · exact .snoc (ih htext hu) hd
  · intro h
    induction h with
    | single hd => simp [digits?, hd]
    | snoc h hd ih => exact digits?_append_singleton.2 ⟨_, _, ih h.ne_nil, hd, rfl⟩

/-! ### Numerals -/

theorem digit?_plus : digit? base '+' = none := rfl

theorem unsigned?_of_digits (hne : text ≠ []) (hplus : '+' ∉ text) : unsigned? base text = digits? base text 0 := by
  unfold unsigned?
  split
  · exact absurd List.mem_cons_self hplus
  · exact absurd rfl hne
  · rfl

theorem unsigned?_eq_some : unsigned? base text = some v ↔ Spells base text v := by
  constructor
  · intro h
    unfold unsigned? at h
    split at h
    · split at h
      · cases h
      · next hne => exact .signed ((digits?_eq_some (by simpa using hne)).1 h)
    · cases h
    · next _ hne => exact .plain ((digits?_eq_some hne).1 h)
  · intro h
    cases h with
    | plain h =>
      have hplus : '+' ∉ text := fun hmem => by
        have hdigit := h.isSome_digit? hmem
        rw [digit?_plus] at hdigit
        cases hdigit
      rw [unsigned?_of_digits h.ne_nil hplus, digits?_eq_some h.ne_nil]
      exact h
    | signed h =>
      rw [unsigned?, if_neg (by simpa using h.ne_nil), digits?_eq_some h.ne_nil]
      exact h

/-- A text is the numeral of one number only. -/
theorem Spells.eq (h : Spells base text v) (hother : Spells base text w) : v = w :=
  Option.some.inj ((unsigned?_eq_some.2 h).symm.trans (unsigned?_eq_some.2 hother))

theorem below?_eq_some : below? base bound text = some v ↔ Spells base text v ∧ v < bound := by
  simp [below?, unsigned?_eq_some]

theorem Spells.isSome_digit? (h : Spells base text v) (hc : c ∈ text) : c = '+' ∨ (digit? base c).isSome := by
  cases h with
  | plain h => exact .inr (h.isSome_digit? hc)
  | signed h =>
    rcases List.mem_cons.1 hc with rfl | hc
    · exact .inl rfl
    · exact .inr (h.isSome_digit? hc)

/-! ### Numerals that tell their base -/

theorem dropPrefix?_eq_some {lead : List Char} : dropPrefix? lead text = some rest ↔ text = lead ++ rest := by
  fun_induction dropPrefix? lead text with
  | case1 text => simp
  | case2 lead c text ih => simp [ih]
  | case3 lead c d text hne => simp [Ne.symm hne]
  | case4 => simp

theorem afterHexMark?_eq_some : afterHexMark? text = some rest ↔
    ∃ mark, (mark = 'x' ∨ mark = 'X') ∧ text = '0' :: mark :: rest := by
  have hor : afterHexMark? text = (dropPrefix? ['0', 'x'] text).or (dropPrefix? ['0', 'X'] text) := by
    rw [afterHexMark?, Option.orElse_eq_or]
  rw [hor, Option.or_eq_some_iff, Option.eq_none_iff_forall_ne_some, dropPrefix?_eq_some, dropPrefix?_eq_some]
  constructor
  · rintro (h | ⟨-, h⟩)
    · exact ⟨'x', .inl rfl, h⟩
    · exact ⟨'X', .inr rfl, h⟩
  · rintro ⟨mark, rfl | rfl, rfl⟩
    · exact .inl rfl
    · exact .inr ⟨fun other => by simp [dropPrefix?_eq_some], rfl⟩

/-- A decimal numeral has no mark. -/
theorem Spells.afterHexMark?_eq_none (h : Spells 10 text v) : afterHexMark? text = none := by
  rw [Option.eq_none_iff_forall_ne_some]
  intro rest hrest
  obtain ⟨mark, hmark, rfl⟩ := afterHexMark?_eq_some.1 hrest
  have hdigit := h.isSome_digit? (c := mark) (by simp)
  rcases hmark with rfl | rfl <;> exact absurd hdigit (by decide)

theorem marked?_eq_some : marked? text = some v ↔ SpellsMarked text v ∧ v < UInt64.size := by
  constructor
  · intro h
    unfold marked? at h
    split at h
    · next rest hrest =>
      obtain ⟨mark, hmark, rfl⟩ := afterHexMark?_eq_some.1 hrest
      obtain ⟨hspells, hv⟩ := below?_eq_some.1 h
      exact ⟨.hexadecimal hmark hspells, hv⟩
    · obtain ⟨hspells, hv⟩ := below?_eq_some.1 h
      exact ⟨.decimal hspells, hv⟩
  · rintro ⟨h, hv⟩
    cases h with
    | decimal h =>
      rw [marked?, h.afterHexMark?_eq_none]
      exact below?_eq_some.2 ⟨h, hv⟩
    | hexadecimal hmark h =>
      rw [marked?, afterHexMark?_eq_some.2 ⟨_, hmark, rfl⟩]
      exact below?_eq_some.2 ⟨h, hv⟩

/-! ### Decimal text -/

theorem digit?_digitChar (h : d < 10) : digit? 10 d.digitChar = some d := by
  revert d
  decide

theorem denotes_toDigits (n : Nat) : Denotes 10 (Nat.toDigits 10 n) n := by
  induction n using Nat.strongRecOn with
  | _ n ih =>
    by_cases h : n < 10
    · rw [Nat.toDigits_of_lt_base h]
      exact .single (digit?_digitChar h)
    · have hsplit := Nat.div_add_mod' n 10
      rw [Nat.toDigits_of_base_le (by decide) (Nat.not_lt.1 h)]
      have hdigits := Denotes.snoc (ih (n / 10) (by omega)) (digit?_digitChar (Nat.mod_lt n (by decide)))
      rwa [hsplit] at hdigits

theorem below?_toDigits (bound n : Nat) : below? 10 bound (Nat.toDigits 10 n) = if n < bound then some n else none := by
  rw [below?, unsigned?_eq_some.2 (.plain (denotes_toDigits n)), Option.filter_some]
  simp

/-- The decimal text of a number is read back if the number fits. -/
theorem word?_toString (n : Nat) : word? (toString n) = if n < UInt64.size then some n else none := by
  rw [word?, Nat.toString_eq_ofList_toDigits, String.toList_ofList, below?_toDigits]

end CecBus.Numeral
