import Mathlib.Tactic.Common
import CecBus.Emulator.Failure

/-! Frames as a user types them. Every text of pairs of hexadecimal digits is read as the bytes that the pairs stand for,
with colons, blanks and dashes anywhere. Other texts are read as well: a pair may be a plus sign and a digit. What is not
read is refused, unless everything in front of some two bytes can be read and those bytes end within a character, where the
reading stops the program. Main result: `bytesOf_outcome`. -/

namespace CecBus

namespace Hex

/-! ### Digits -/

theorem digit?_bounds {c : Char} {n : Nat} (h : digit? c = some n) : c.toNat < 128 ∧ n < 16 := by
  unfold digit? at h
  simp only [Char.le_def, UInt32.le_iff_toNat_le] at h
  change (if 48 ≤ c.toNat ∧ c.toNat ≤ 57 then _ else if 97 ≤ c.toNat ∧ c.toNat ≤ 102 then _
    else if 65 ≤ c.toNat ∧ c.toNat ≤ 70 then _ else _) = _ at h
  split at h
  · cases h
    omega
  · split at h
    · cases h
      omega
    · split at h
      · cases h
        omega
      · cases h

def isDigit (c : Char) : Bool := (digit? c).isSome

theorem read?_cons_cons {a b : Char} {rest : List Char} {bytes : List UInt8} :
    read? (a :: b :: rest) = some bytes ↔ ∃ high low tail, digit? a = some high ∧ digit? b = some low ∧
      read? rest = some tail ∧ bytes = UInt8.ofNat (16 * high + low) :: tail := by
  simp only [read?, Option.bind_eq_bind, Option.bind_eq_some_iff, Option.pure_def, Option.some.injEq]
  constructor
  · rintro ⟨high, hhigh, low, hlow, tail, htail, rfl⟩
    exact ⟨high, low, tail, hhigh, hlow, htail, rfl⟩
  · rintro ⟨high, low, tail, hhigh, hlow, htail, rfl⟩
    exact ⟨high, hhigh, low, hlow, tail, htail, rfl⟩

/-- A text is read exactly if it has an even number of characters, all of them digits. -/
theorem exists_read?_iff (text : List Char) :
    (∃ bytes, read? text = some bytes) ↔ text.length % 2 = 0 ∧ ∀ c ∈ text, isDigit c := by
  match text with
  | [] => simp [read?]
  | [c] => simp [read?]
  | a :: b :: rest =>
    have ih := exists_read?_iff rest
    simp only [read?_cons_cons, List.length_cons, List.forall_mem_cons, isDigit, Option.isSome_iff_exists]
    rw [show (rest.length + 1 + 1) % 2 = rest.length % 2 by omega]
    constructor
    · rintro ⟨bytes, high, low, tail, hhigh, hlow, htail, -⟩
      obtain ⟨heven, hall⟩ := ih.1 ⟨tail, htail⟩
      exact ⟨heven, ⟨high, hhigh⟩, ⟨low, hlow⟩, fun c hc => Option.isSome_iff_exists.1 (hall c hc)⟩
    · rintro ⟨heven, ⟨high, hhigh⟩, ⟨low, hlow⟩, hall⟩
      obtain ⟨tail, htail⟩ := ih.2 ⟨heven, fun c hc => Option.isSome_iff_exists.2 (hall c hc)⟩
      exact ⟨_, high, low, tail, hhigh, hlow, htail, rfl⟩

end Hex

namespace FrameDigits

def typed (text : String) : List Char := text.toList.filter (!isSeparator ·)

/-- The digit that a character stands for in front of another. A plus sign says nothing. -/
def plain (c : Char) : Char := if c = '+' then '0' else c

/-- A text whose pairs begin with no plus sign. -/
def withoutSigns : List Char → List Char
  | a :: b :: rest => plain a :: b :: withoutSigns rest
  | rest => rest

/-- Whether the first two bytes of a text end within a character. -/
def IsCut (text : List Char) : Prop := text ≠ [] ∧ ∀ front back, text = front ++ back → byteCount front ≠ 2

/-! ### Bytes of a text -/

@[simp] theorem byteCount_nil : byteCount [] = 0 := rfl

@[simp] theorem byteCount_cons (c : Char) (text : List Char) :
    byteCount (c :: text) = c.utf8Size + byteCount text := rfl

theorem utf8Size_of_isDigit {c : Char} (h : Hex.isDigit c) : c.utf8Size = 1 := by
  obtain ⟨n, hn⟩ := Option.isSome_iff_exists.1 h
  have hlt := (Hex.digit?_bounds hn).1
  apply Char.utf8Size_eq_one_iff.2
  apply UInt32.le_iff_toNat_le.2
  change c.toNat ≤ 127
  omega

theorem utf8Size_of_isDigit_plain {c : Char} (h : Hex.isDigit (plain c)) : c.utf8Size = 1 := by
  unfold plain at h
  split at h
  · next hplus =>
    rw [hplus]
    decide
  · exact utf8Size_of_isDigit h

/-! ### Pairs -/

theorem digit?_eq (c : Char) : Numeral.digit? 16 c = Hex.digit? c := by
  unfold Numeral.digit?
  cases h : Hex.digit? c with
  | none => rfl
  | some n => simp [(Hex.digit?_bounds h).2]

theorem unsigned?_pair (a b : Char) : Numeral.unsigned? 16 [a, b] =
    (Hex.digit? (plain a)).bind fun high => (Hex.digit? b).map fun low => 16 * high + low := by
  by_cases hplus : a = '+'
  · subst hplus
    have hzero : Hex.digit? (plain '+') = some 0 := by decide
    simp only [Numeral.unsigned?, List.isEmpty_cons, Bool.false_eq_true, if_false, Numeral.digits?, digit?_eq, hzero,
      Option.bind_eq_bind, Option.bind_some]
    cases Hex.digit? b <;> simp
  · have hsame : Numeral.unsigned? 16 [a, b] = Numeral.digits? 16 [a, b] 0 := by
      unfold Numeral.unsigned?
      split
      · next heq =>
        cases heq
        exact absurd rfl hplus
      · next heq => cases heq
      · rfl
    simp only [hsame, Numeral.digits?, digit?_eq, plain, hplus, if_false, Option.bind_eq_bind]
    cases Hex.digit? a with
    | none => rfl
    | some high => cases Hex.digit? b <;> simp [Nat.mul_comm]

/-- Two characters stand for a byte as they would without a plus sign. -/
theorem pairValue?_eq (a b : Char) : pairValue? [a, b] =
    (Hex.digit? (plain a)).bind fun high => (Hex.digit? b).map fun low => UInt8.ofNat (16 * high + low) := by
  rw [pairValue?, Numeral.below?, unsigned?_pair]
  cases ha : Hex.digit? (plain a) with
  | none => rfl
  | some high =>
    cases hb : Hex.digit? b with
    | none => rfl
    | some low =>
      have hhigh := (Hex.digit?_bounds ha).2
      have hlow := (Hex.digit?_bounds hb).2
      have hbyte : 16 * high + low < 256 := by omega
      simp [hbyte]

theorem pairValue?_eq_some {a b : Char} {byte : UInt8} : pairValue? [a, b] = some byte ↔
    ∃ high low, Hex.digit? (plain a) = some high ∧ Hex.digit? b = some low ∧ byte = UInt8.ofNat (16 * high + low) := by
  rw [pairValue?_eq]
  cases Hex.digit? (plain a) with
  | none => simp
  | some high => cases Hex.digit? b <;> simp [eq_comm]

/-- Pairs in front of a text are read first. -/
theorem read?_withoutSigns_cons {a b : Char} {rest : List Char} {bytes : List UInt8} :
    Hex.read? (withoutSigns (a :: b :: rest)) = some bytes ↔ ∃ byte tail, pairValue? [a, b] = some byte ∧
      Hex.read? (withoutSigns rest) = some tail ∧ bytes = byte :: tail := by
  rw [withoutSigns, Hex.read?_cons_cons]
  simp only [pairValue?_eq_some]
  constructor
  · rintro ⟨high, low, tail, hhigh, hlow, htail, rfl⟩
    exact ⟨_, tail, ⟨high, low, hhigh, hlow, rfl⟩, htail, rfl⟩
  · rintro ⟨_, tail, ⟨high, low, hhigh, hlow, rfl⟩, htail, rfl⟩
    exact ⟨high, low, tail, hhigh, hlow, htail, rfl⟩

/-- The characters of a pair that stands for a byte take a byte each. -/
theorem utf8Size_of_pairValue? {a b : Char} {byte : UInt8} (h : pairValue? [a, b] = some byte) :
    a.utf8Size = 1 ∧ b.utf8Size = 1 := by
  obtain ⟨high, low, ha, hb, -⟩ := pairValue?_eq_some.1 h
  exact ⟨utf8Size_of_isDigit_plain (Option.isSome_iff_exists.2 ⟨high, ha⟩),
    utf8Size_of_isDigit (Option.isSome_iff_exists.2 ⟨low, hb⟩)⟩

theorem byteCount_of_read? {text : List Char} {bytes : List UInt8}
    (h : Hex.read? (withoutSigns text) = some bytes) : byteCount text = 2 * bytes.length := by
  match text with
  | [] =>
    cases h
    rfl
  | [c] => cases h
  | a :: b :: rest =>
    obtain ⟨byte, tail, hpair, htail, rfl⟩ := read?_withoutSigns_cons.1 h
    obtain ⟨ha, hb⟩ := utf8Size_of_pairValue? hpair
    rw [byteCount_cons, byteCount_cons, byteCount_of_read? htail, ha, hb, List.length_cons]
    omega

/-! ### What is read -/

theorem exists_front_iff {c : Char} {rest : List Char} :
    (∃ front back, c :: rest = front ++ back ∧ byteCount front = 2) ↔
    c.utf8Size = 2 ∨ c.utf8Size = 1 ∧ ∃ d tail, rest = d :: tail ∧ d.utf8Size = 1 := by
  constructor
  · rintro ⟨front, back, hsame, htwo⟩
    match front, hsame with
    | [], _ => simp at htwo
    | [_], hsame =>
      obtain ⟨rfl, -⟩ := List.cons.inj hsame
      exact .inl (by simpa using htwo)
    | _ :: d :: tail, hsame =>
      obtain ⟨rfl, rfl⟩ := List.cons.inj hsame
      have hc := c.utf8Size_pos
      have hd := d.utf8Size_pos
      rw [byteCount_cons, byteCount_cons] at htwo
      exact .inr ⟨by omega, d, tail ++ back, rfl, by omega⟩
  · rintro (htwo | ⟨hc, d, tail, rfl, hd⟩)
    · exact ⟨[c], rest, rfl, by simpa using htwo⟩
    · exact ⟨[c, d], tail, rfl, by simp [hc, hd]⟩

theorem isCut_cons {c : Char} {rest : List Char} : IsCut (c :: rest) ↔
    ¬ (c.utf8Size = 2 ∨ c.utf8Size = 1 ∧ ∃ d tail, rest = d :: tail ∧ d.utf8Size = 1) := by
  rw [← exists_front_iff]
  simp [IsCut]

/-- Whether everything in front of some two bytes can be read, and those bytes end within a character. -/
def StopsAtCut (text : List Char) : Prop := ∃ before rest, text = before ++ rest ∧
  (∃ bytes, Hex.read? (withoutSigns before) = some bytes) ∧ IsCut rest

theorem not_stopsAtCut_nil : ¬ StopsAtCut [] := by
  rintro ⟨before, rest, hsame, -, hcut⟩
  exact hcut.1 (List.append_eq_nil_iff.1 hsame.symm).2

theorem stopsAtCut_singleton {c : Char} : StopsAtCut [c] ↔ c.utf8Size ≠ 2 := by
  have hcut : IsCut [c] ↔ c.utf8Size ≠ 2 := by simp [isCut_cons]
  rw [← hcut]
  constructor
  · rintro ⟨before, rest, hsame, -, hrest⟩
    match before, hsame with
    | [], hsame => rwa [hsame]
    | [_], hsame =>
      obtain ⟨-, rfl⟩ := List.cons.inj hsame
      exact absurd rfl hrest.1
  · exact fun h => ⟨[], [c], rfl, ⟨[], rfl⟩, h⟩

theorem stopsAtCut_of_pair {a b : Char} {rest : List Char} {byte : UInt8} (h : pairValue? [a, b] = some byte) :
    StopsAtCut (a :: b :: rest) ↔ StopsAtCut rest := by
  constructor
  · rintro ⟨before, behind, hsame, ⟨bytes, hread⟩, hcut⟩
    match before, hsame with
    | [], hsame =>
      rw [List.nil_append] at hsame
      rw [← hsame, isCut_cons] at hcut
      obtain ⟨ha, hb⟩ := utf8Size_of_pairValue? h
      exact absurd (.inr ⟨ha, b, rest, rfl, hb⟩) hcut
    | [_], _ => cases hread
    | _ :: _ :: before, hsame =>
      simp only [List.cons_append, List.cons.injEq] at hsame
      obtain ⟨-, -, hsame⟩ := hsame
      obtain ⟨-, tail, -, htail, -⟩ := read?_withoutSigns_cons.1 hread
      exact ⟨before, behind, hsame, ⟨tail, htail⟩, hcut⟩
  · rintro ⟨before, behind, rfl, ⟨bytes, hread⟩, hcut⟩
    exact ⟨a :: b :: before, behind, rfl, ⟨_, read?_withoutSigns_cons.2 ⟨byte, bytes, h, hread, rfl⟩⟩, hcut⟩

theorem stopsAtCut_of_not_pair {a b : Char} {rest : List Char} (h : pairValue? [a, b] = none) :
    StopsAtCut (a :: b :: rest) ↔ IsCut (a :: b :: rest) := by
  constructor
  · rintro ⟨before, behind, hsame, ⟨bytes, hread⟩, hcut⟩
    match before, hsame with
    | [], hsame => rwa [hsame]
    | [_], _ => cases hread
    | _ :: _ :: before, hsame =>
      simp only [List.cons_append, List.cons.injEq] at hsame
      obtain ⟨rfl, rfl, -⟩ := hsame
      obtain ⟨byte, -, hpair, -, -⟩ := read?_withoutSigns_cons.1 hread
      rw [h] at hpair
      cases hpair
  · exact fun hcut => ⟨[], a :: b :: rest, rfl, ⟨[], rfl⟩, hcut⟩

variable {source : String}

theorem readPairs_of_pair {a b : Char} {byte : UInt8} (h : pairValue? [a, b] = some byte) (rest : List Char) :
    readPairs source (a :: b :: rest) = (readPairs source rest).map (byte :: ·) := by
  obtain ⟨ha, hb⟩ := utf8Size_of_pairValue? h
  rw [readPairs, if_neg (by omega), if_pos ⟨ha, hb⟩, h]
  cases readPairs source rest <;> rfl

theorem readPairs_of_not_pair {a b : Char} (h : pairValue? [a, b] = none) (rest : List Char) :
    IsCut (a :: b :: rest) ∧ readPairs source (a :: b :: rest) = .error .splitCharacter ∨
      ¬ IsCut (a :: b :: rest) ∧ readPairs source (a :: b :: rest) = .error (.digit source) := by
  have hcut : IsCut (a :: b :: rest) ↔ ¬ (a.utf8Size = 2 ∨ a.utf8Size = 1 ∧ b.utf8Size = 1) := by simp [isCut_cons]
  rw [readPairs, hcut]
  by_cases htwo : a.utf8Size = 2
  · exact .inr ⟨not_not.2 (.inl htwo), by rw [if_pos htwo]⟩
  · by_cases hone : a.utf8Size = 1 ∧ b.utf8Size = 1
    · exact .inr ⟨not_not.2 (.inr hone), by rw [if_neg htwo, if_pos hone, h]⟩
    · exact .inl ⟨not_or.2 ⟨htwo, hone⟩, by rw [if_neg htwo, if_neg hone]⟩

/-- Pairs are read, unless the program stops or some pair is refused. -/
theorem readPairs_cases (source : String) (text : List Char) :
    (∃ bytes, Hex.read? (withoutSigns text) = some bytes ∧ ¬ StopsAtCut text ∧ readPairs source text = .ok bytes) ∨
      Hex.read? (withoutSigns text) = none ∧
        (StopsAtCut text ∧ readPairs source text = .error .splitCharacter ∨
          ¬ StopsAtCut text ∧ readPairs source text = .error (.digit source)) := by
  match text with
  | [] =>
    exact .inl ⟨[], rfl, not_stopsAtCut_nil, rfl⟩
  | [c] =>
    refine .inr ⟨rfl, ?_⟩
    rw [stopsAtCut_singleton, readPairs]
    by_cases htwo : c.utf8Size = 2
    · exact .inr ⟨not_not.2 htwo, by rw [if_pos htwo]⟩
    · exact .inl ⟨htwo, by rw [if_neg htwo]⟩
  | a :: b :: rest =>
    cases hpair : pairValue? [a, b] with
    | none =>
      refine .inr ⟨?_, ?_⟩
      · rw [Option.eq_none_iff_forall_ne_some]
        intro bytes hread
        obtain ⟨byte, -, hbyte, -⟩ := read?_withoutSigns_cons.1 hread
        rw [hpair] at hbyte
        cases hbyte
      · rw [stopsAtCut_of_not_pair hpair]
        exact readPairs_of_not_pair hpair rest
    | some byte =>
      rw [stopsAtCut_of_pair hpair, readPairs_of_pair hpair]
      rcases readPairs_cases source rest with ⟨bytes, hread, hgoes, hok⟩ | ⟨hread, hfault⟩
      · exact .inl ⟨byte :: bytes, read?_withoutSigns_cons.2 ⟨byte, bytes, hpair, hread, rfl⟩, hgoes, by rw [hok]; rfl⟩
      · refine .inr ⟨?_, hfault.imp (fun ⟨hstops, he⟩ => ⟨hstops, by rw [he]; rfl⟩)
          fun ⟨hgoes, he⟩ => ⟨hgoes, by rw [he]; rfl⟩⟩
        rw [Option.eq_none_iff_forall_ne_some]
        intro bytes hbytes
        obtain ⟨-, tail, -, htail, -⟩ := read?_withoutSigns_cons.1 hbytes
        rw [hread] at htail
        cases htail

theorem readPairs_eq_ok {text : List Char} {bytes : List UInt8} :
    readPairs source text = .ok bytes ↔ Hex.read? (withoutSigns text) = some bytes := by
  rcases readPairs_cases source text with ⟨_, hread, -, hpairs⟩ | ⟨hread, ⟨-, hpairs⟩ | ⟨-, hpairs⟩⟩ <;>
    simp [hpairs, hread]

theorem readPairs_eq_splitCharacter {text : List Char} :
    readPairs source text = .error .splitCharacter ↔ StopsAtCut text := by
  rcases readPairs_cases source text with ⟨_, -, hgoes, hpairs⟩ | ⟨-, ⟨hstops, hpairs⟩ | ⟨hgoes, hpairs⟩⟩
  · simp [hpairs, hgoes]
  · simp [hpairs, hstops]
  · simp [hpairs, hgoes]

/-! ### The outcome -/

theorem withoutSigns_of_read? {text : List Char} {bytes : List UInt8} (h : Hex.read? text = some bytes) :
    withoutSigns text = text := by
  match text with
  | [] | [_] => rfl
  | a :: b :: rest =>
    obtain ⟨high, low, tail, hhigh, -, htail, -⟩ := Hex.read?_cons_cons.1 h
    have hplain : plain a = a := by
      refine if_neg fun hplus => ?_
      rw [hplus] at hhigh
      cases hhigh
    rw [withoutSigns, hplain, withoutSigns_of_read? htail]

theorem withoutSigns_of_not_mem {text : List Char} (h : '+' ∉ text) : withoutSigns text = text := by
  match text with
  | [] | [_] => rfl
  | a :: b :: rest =>
    simp only [List.mem_cons, not_or] at h
    obtain ⟨ha, -, hrest⟩ := h
    rw [withoutSigns, plain, if_neg (Ne.symm ha), withoutSigns_of_not_mem hrest]

theorem bytesOf_eq (text : String) : bytesOf text =
    if typed text = [] ∨ byteCount (typed text) % 2 = 1 then .error (.count text) else readPairs text (typed text) := by
  change (if (typed text).isEmpty || byteCount (typed text) % 2 = 1 then _ else _) = _
  exact if_congr (by simp) rfl rfl

theorem bytesOf_eq_ok {text : String} {bytes : List UInt8} :
    bytesOf text = .ok bytes ↔ typed text ≠ [] ∧ Hex.read? (withoutSigns (typed text)) = some bytes := by
  rw [bytesOf_eq]
  constructor
  · intro hok
    split at hok
    · cases hok
    · next hcount => exact ⟨(not_or.1 hcount).1, readPairs_eq_ok.1 hok⟩
  · rintro ⟨hsome, hread⟩
    have heven := byteCount_of_read? hread
    rw [if_neg (not_or.2 ⟨hsome, by omega⟩)]
    exact readPairs_eq_ok.2 hread

theorem bytesOf_eq_splitCharacter {text : String} : bytesOf text = .error .splitCharacter ↔
    byteCount (typed text) % 2 = 0 ∧ StopsAtCut (typed text) := by
  rw [bytesOf_eq]
  constructor
  · intro hstop
    split at hstop
    · cases hstop
    · next hcount =>
      have hcount := (not_or.1 hcount).2
      exact ⟨by omega, readPairs_eq_splitCharacter.1 hstop⟩
  · rintro ⟨heven, hstops⟩
    have hsome : typed text ≠ [] := fun hnil => not_stopsAtCut_nil (hnil ▸ hstops)
    rw [if_neg (not_or.2 ⟨hsome, by omega⟩)]
    exact readPairs_eq_splitCharacter.2 hstops

/-- Pairs of digits are read as the bytes that they stand for. -/
theorem bytesOf_of_read? {text : String} {bytes : List UInt8} (hsome : typed text ≠ [])
    (hread : Hex.read? (typed text) = some bytes) : bytesOf text = .ok bytes :=
  bytesOf_eq_ok.2 ⟨hsome, by rwa [withoutSigns_of_read? hread]⟩

/-- A text is read as pairs of digits are, and does not stop the program. -/
def ReadAsDigits (text : String) : Prop :=
  (∀ bytes, bytesOf text = .ok bytes ↔ typed text ≠ [] ∧ Hex.read? (typed text) = some bytes) ∧
    bytesOf text ≠ .error .splitCharacter

/-- Whether a text can be read though it has a plus sign, which is no digit. -/
def IsReadWithSigns (text : List Char) : Prop := '+' ∈ text ∧ ∃ bytes, Hex.read? (withoutSigns text) = some bytes

theorem readAsDigits_iff {text : String} : ReadAsDigits text ↔
    ¬ IsReadWithSigns (typed text) ∧ ¬ (byteCount (typed text) % 2 = 0 ∧ StopsAtCut (typed text)) := by
  rw [ReadAsDigits, ← bytesOf_eq_splitCharacter]
  refine and_congr_left fun _ => ⟨?_, fun hsigns bytes => ?_⟩
  · rintro hall ⟨hplus, bytes, hread⟩
    obtain ⟨-, hdigits⟩ := (hall bytes).1 (bytesOf_eq_ok.2 ⟨List.ne_nil_of_mem hplus, hread⟩)
    have hdigit := ((Hex.exists_read?_iff _).1 ⟨bytes, hdigits⟩).2 '+' hplus
    cases hdigit
  · refine ⟨fun hok => ?_, fun ⟨hsome, hread⟩ => bytesOf_of_read? hsome hread⟩
    obtain ⟨hsome, hread⟩ := bytesOf_eq_ok.1 hok
    rw [withoutSigns_of_not_mem fun hplus => hsigns ⟨hplus, bytes, hread⟩] at hread
    exact ⟨hsome, hread⟩

/-- What becomes of a text that a user typed, once the separators are left out. It is read if something is left and its
pairs can be read without their plus signs; it stops the program if the number of its bytes is even and everything in
front of some two bytes can be read and those end within a character; everything else is refused. Pairs of digits are
always read as the bytes that they stand for. So every text is read as digits are, but for those that are read though they
have a plus sign and those at which the program stops. -/
theorem bytesOf_outcome (text : String) :
    (∀ bytes, bytesOf text = .ok bytes ↔ typed text ≠ [] ∧ Hex.read? (withoutSigns (typed text)) = some bytes) ∧
      (bytesOf text = .error .splitCharacter ↔ byteCount (typed text) % 2 = 0 ∧ StopsAtCut (typed text)) ∧
      (∀ bytes, typed text ≠ [] → Hex.read? (typed text) = some bytes → bytesOf text = .ok bytes) ∧
      (ReadAsDigits text ↔ ¬ IsReadWithSigns (typed text) ∧
        ¬ (byteCount (typed text) % 2 = 0 ∧ StopsAtCut (typed text))) ∧
      ((∃ bytes, Hex.read? (typed text) = some bytes) ↔
        (typed text).length % 2 = 0 ∧ ∀ c ∈ typed text, Hex.isDigit c) :=
  ⟨fun _ => bytesOf_eq_ok, bytesOf_eq_splitCharacter, fun _ => bytesOf_of_read?, readAsDigits_iff,
    Hex.exists_read?_iff _⟩

/-- A plus sign and a digit are read as a byte, and a character of two bytes behind a digit stops the program. -/
theorem exists_not_readAsDigits : bytesOf "+4" = .ok [4] ∧ Hex.read? (typed "+4") = none ∧
    bytesOf "3é0" = .error .splitCharacter ∧ (Failure.ofFrame .splitCharacter).outcome.code = 101 ∧
      ¬ ∀ text, ReadAsDigits text := by
  have hplus : bytesOf "+4" = .ok [4] := by decide +kernel
  refine ⟨hplus, by decide +kernel, by decide +kernel, rfl, fun hall => ?_⟩
  have hread := ((hall "+4").1 [4]).1 hplus
  exact absurd hread.2 (by decide +kernel)

end FrameDigits

end CecBus
