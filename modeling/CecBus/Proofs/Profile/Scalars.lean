import CecBus.Profile
import CecBus.Proofs.Yaml.Numbers

/-! Scalars as texts. An entry is read as a text, as a number or as a truth value in three separate ways. They agree: the
number and the truth value are those that the text spells, whatever the kind of the scalar is. Main result:
`Profile.readsText`. -/

namespace CecBus

namespace Text

variable {text : List Char}

theorem dropWhile_isBlank (h : ∀ c ∈ text, isBlank c = false) : text.dropWhile isBlank = text := by
  cases text with
  | nil => rfl
  | cons c rest => exact List.dropWhile_cons_of_neg (by simp [h c])

theorem trim_of_forall (h : ∀ c ∈ text, isBlank c = false) : trim text = text := by
  have hreversed : ∀ c ∈ text.reverse, isBlank c = false := fun c hc => h c (List.mem_reverse.1 hc)
  rw [trim, dropWhile_isBlank h, dropEndWhile, dropWhile_isBlank hreversed, List.reverse_reverse]

end Text

namespace Profile

variable {α : Type} {p : Profile} {kind : EntryKind} {of : Yaml.Value → Option α} {key : String} {v : Nat}
  {value : Yaml.Value}

theorem read_eq_ok {a : α} : p.read kind of key = .ok a ↔ ∃ value, p.lookup key = some value ∧ of value = some a := by
  unfold read
  cases p.lookup key with
  | none => simp
  | some value => cases hof : of value <;> simp [hof]

/-- Only an entry that is not there is missing. -/
theorem read_eq_missing {name : String} : p.read kind of key = .error (.missing name) ↔
    p.contains key = false ∧ name = key := by
  unfold read contains
  cases p.lookup key with
  | none => simp [eq_comm]
  | some value => cases hof : of value <;> simp [hof]

/-- A text of characters of numbers is no truth value. -/
theorem toLower_ne {s : String} (hs : ∀ c ∈ s.toList, c ∈ Yaml.Value.numberCharacters) (b : Bool) :
    s.toLower ≠ if b then "true" else "false" := by
  have hcharacters : ∀ c ∈ Yaml.Value.numberCharacters, c.toLower ≠ 't' ∧ c.toLower ≠ 's' :=
    List.forall_iff_forall_mem.1 (by decide)
  intro heq
  have hlist : s.toList.map Char.toLower = (if b then "true" else "false").toList := by
    rw [← heq]
    exact String.toList_map.symm
  cases b with
  | true =>
    obtain ⟨c, hc, ht⟩ := List.mem_map.1 (hlist ▸ (by decide) : 't' ∈ s.toList.map Char.toLower)
    exact (hcharacters c (hs c hc)).1 ht
  | false =>
    obtain ⟨c, hc, ht⟩ := List.mem_map.1 (hlist ▸ (by decide) : 's' ∈ s.toList.map Char.toLower)
    exact (hcharacters c (hs c hc)).2 ht

/-- A text of characters of numbers has no white space around it. -/
theorem trim_of_numberCharacters {text : List Char} (h : ∀ c ∈ text, c ∈ Yaml.Value.numberCharacters) :
    Text.trim text = text := by
  have hplain : ∀ c ∈ Yaml.Value.numberCharacters, Text.isBlank c = false := List.forall_iff_forall_mem.1 (by decide)
  exact Text.trim_of_forall fun c hc => hplain c (h c hc)

/-- The number of a value is the one that its text spells. -/
theorem numberOf_eq_some : numberOf value = some v ↔ ∃ s, textOf value = some s ∧
    Numeral.marked? (Text.trim s.toList) = some v ∧ v < UInt32.size := by
  cases value with
  | string s => simp [numberOf, textOf]
  | integer n =>
    have htrim := trim_of_numberCharacters fun c => Yaml.Value.mem_toString (c := c) (n := n)
    simp only [numberOf, textOf, Option.some.injEq, exists_eq_left', htrim, Numeral.marked?_eq_some,
      Numeral.spellsMarked_toString, Option.filter_eq_some_iff, decide_eq_true_eq]
    have hsize : UInt32.size ≤ UInt64.size := by decide
    split
    · simp only [reduceCtorEq, false_and, false_iff]
      omega
    · simp only [Option.some.injEq]
      omega
  | real x =>
    have htrim := trim_of_numberCharacters fun c => Yaml.Value.mem_write (c := c) (x := x)
    simp [numberOf, textOf, htrim, Numeral.marked?_eq_some, Numeral.not_spellsMarked_write]
  | bool b =>
    have hnone : Numeral.marked? (Text.trim (if b then "true" else "false").toList) = none := by
      cases b <;> decide +kernel
    simp [numberOf, textOf, hnone]
  | _ => simp [numberOf, textOf]

theorem flagOf_eq_some {b : Bool} : flagOf value = some b ↔ ∃ s, textOf value = some s ∧
    s.toLower = if b then "true" else "false" := by
  cases value with
  | string s =>
    simp only [flagOf, textOf, Option.some.injEq, exists_eq_left']
    cases b <;> grind
  | integer n =>
    have hne := toLower_ne (s := toString n) (fun c => Yaml.Value.mem_toString) b
    simpa only [flagOf, textOf, Option.some.injEq, exists_eq_left', reduceCtorEq, false_iff] using hne
  | real x => simp [flagOf, textOf, toLower_ne fun c => Yaml.Value.mem_write]
  | bool a => cases a <;> cases b <;> simp [flagOf, textOf] <;> decide +kernel
  | _ => simp [flagOf, textOf]

theorem read_eq_ok_iff_text {a : α} {spells : String → Prop}
    (hof : ∀ value, of value = some a ↔ ∃ s, textOf value = some s ∧ spells s) :
    p.read kind of key = .ok a ↔ ∃ s, p.text key = .ok s ∧ spells s := by
  simp only [text, read_eq_ok, hof]
  constructor
  · rintro ⟨value, hvalue, s, hs, hspells⟩
    exact ⟨s, ⟨value, hvalue, hs⟩, hspells⟩
  · rintro ⟨s, ⟨value, hvalue, hs⟩, hspells⟩
    exact ⟨value, hvalue, s, hs, hspells⟩

theorem number_eq_ok : p.number key = .ok v ↔ ∃ s, p.text key = .ok s ∧
    Numeral.marked? (Text.trim s.toList) = some v ∧ v < UInt32.size :=
  read_eq_ok_iff_text fun _ => numberOf_eq_some

/-- How the entry behind a path is read as a number and as a truth value: from its text, whatever the kind of the scalar
is. Without white space around it the text has to be a numeral below 2^32, or in any case a word for a truth value. An
entry is missing in all three readings if there is none. -/
structure ReadsText (p : Profile) (key : String) : Prop where
  number_iff (v : Nat) : p.number key = .ok v ↔ ∃ s, p.text key = .ok s ∧
    Numeral.marked? (Text.trim s.toList) = some v ∧ v < UInt32.size
  number_spelled (v : Nat) : p.number key = .ok v ↔ ∃ s, p.text key = .ok s ∧
    Numeral.SpellsMarked (Text.trim s.toList) v ∧ v < UInt32.size
  flag_iff (b : Bool) : p.flag key = .ok b ↔ ∃ s, p.text key = .ok s ∧ s.toLower = if b then "true" else "false"
  text_missing (name : String) : p.text key = .error (.missing name) ↔ p.contains key = false ∧ name = key
  number_missing (name : String) : p.number key = .error (.missing name) ↔ p.contains key = false ∧ name = key
  flag_missing (name : String) : p.flag key = .error (.missing name) ↔ p.contains key = false ∧ name = key

theorem readsText (p : Profile) (key : String) : p.ReadsText key where
  number_iff v := number_eq_ok
  number_spelled v := by
    rw [number_eq_ok]
    have hsize : UInt32.size ≤ UInt64.size := by decide
    refine exists_congr fun s => and_congr_right fun _ => ?_
    rw [Numeral.marked?_eq_some, and_assoc, and_congr_right_iff]
    exact fun _ => ⟨And.right, fun hv => ⟨Nat.lt_of_lt_of_le hv hsize, hv⟩⟩
  flag_iff b := read_eq_ok_iff_text fun _ => flagOf_eq_some
  text_missing name := read_eq_missing
  number_missing name := read_eq_missing
  flag_missing name := read_eq_missing

/-- A quoted numeral is a number, also with white space around it, and a real number is none. -/
example :
    let p : Profile := ⟨.mapping [(.string "version", .string " 0x05 "), (.string "port", .real (.zero false))]⟩
    p.number "version" = .ok 5 ∧ p.text "port" = .ok "0.0" ∧ p.number "port" = .error (.kind "port" .number) := by
  decide +kernel

end Profile

end CecBus
