import Mathlib.Tactic.Common
import CecBus.Frame.Bytes

/-! Writing frames and reading them. Reading accepts exactly what writing makes of a frame whose addresses are known and
that has an opcode or nothing behind its header; so a frame comes back as it was but for its unknown addresses, and
the bytes that are read are written again. A frame without opcode is read as if its first parameter were one. Main
result: `reading_inverts_writing`. -/

namespace CecBus

namespace LogicalAddress

theorem ofCode_code (a : LogicalAddress) : ofCode a.code = .ok a := by
  rw [ofCode, ofCode?_code]

theorem exists_code_eq {n : Nat} (h : n < 16) : ∃ a : LogicalAddress, a.code = n := by
  have hall : ∀ k : Fin 16, ∃ a ∈ all, a.code = k := by decide
  obtain ⟨a, -, ha⟩ := hall ⟨n, h⟩
  exact ⟨a, ha⟩

end LogicalAddress

namespace Opcode

theorem ofByte_byte (o : Opcode) : ofByte o.byte = .ok o := by
  simp [ofByte]

theorem byte_of_ofByte? {b : UInt8} {o : Opcode} (h : ofByte? b = some o) : o.byte = b := by
  simpa using List.find?_some h

theorem ofByte_of_unknown {b : UInt8} (h : ∀ o : Opcode, o.byte ≠ b) : ofByte b = .error (.opcode b.toNat) := by
  cases hb : ofByte? b with
  | none => simp [ofByte, hb]
  | some o => exact absurd (byte_of_ofByte? hb) (h o)

end Opcode

namespace Frame

variable {f : Frame} {bytes : List UInt8}

/-- A frame whose addresses are all known: those that were not have become the shared one. -/
def settled (f : Frame) : Frame :=
  { f with
    initiator := some (f.initiator.getD .broadcast)
    destination := some (f.destination.getD .broadcast) }

/-- A frame whose first parameter has become its opcode. -/
def promoted (f : Frame) (opcode : Opcode) : Frame :=
  { f.settled with
    opcode := some opcode
    parameters := f.parameters.tail
    parameters_length := by
      have := f.parameters_length
      rw [List.length_tail]
      omega }

/-- Bytes that are a frame: there are 1 to 66 of them, and the second, if there is one, is an opcode of the table. -/
def IsWritten (bytes : List UInt8) : Prop :=
  1 ≤ bytes.length ∧ bytes.length ≤ 66 ∧ ∀ b, bytes[1]? = some b → ∃ o : Opcode, o.byte = b

/-- Why bytes are no frame: there are none, or too many, or the second is no opcode of the table. -/
inductive Refused (bytes : List UInt8) : WireError → Prop
  | empty (h : bytes = []) : Refused bytes .empty
  | size (h : 66 < bytes.length) : Refused bytes (.size bytes.length)
  | opcode {b : UInt8} (hshort : bytes.length ≤ 66) (hsecond : bytes[1]? = some b) (hb : ∀ o : Opcode, o.byte ≠ b) :
    Refused bytes (.opcode b.toNat)

theorem bytes_promoted {p : UInt8} {ps : List UInt8} {o : Opcode} (hf : f.opcode = none)
    (hp : f.parameters = p :: ps) (ho : o.byte = p) : (f.promoted o).bytes = f.bytes := by
  simp [bytes, promoted, settled, header, nibble, hf, hp, ho]

/-! ### The header -/

theorem toNat_header (f : Frame) : f.header.toNat = 16 * nibble f.initiator + nibble f.destination := by
  have hi := (f.initiator.getD .broadcast).code_lt
  have hd := (f.destination.getD .broadcast).code_lt
  rw [header, UInt8.toNat_ofNat']
  simp only [nibble]
  omega

theorem ofHeader_of_eq {head : UInt8} {i d : LogicalAddress} (h : head.toNat = 16 * i.code + d.code) :
    ofHeader head = .ok (addressed i d none) := by
  have hi := i.code_lt
  have hd := d.code_lt
  have hhigh : head.toNat / 16 = i.code := by omega
  have hlow : head.toNat % 16 = d.code := by omega
  rw [ofHeader, hhigh, hlow, LogicalAddress.ofCode_code, LogicalAddress.ofCode_code]
  rfl

theorem exists_ofHeader (head : UInt8) :
    ∃ i d : LogicalAddress, head.toNat = 16 * i.code + d.code ∧ ofHeader head = .ok (addressed i d none) := by
  have hlt := head.toNat_lt
  obtain ⟨i, hi⟩ := LogicalAddress.exists_code_eq (n := head.toNat / 16) (by omega)
  obtain ⟨d, hd⟩ := LogicalAddress.exists_code_eq (n := head.toNat % 16) (by omega)
  have hhead : head.toNat = 16 * i.code + d.code := by omega
  exact ⟨i, d, hhead, ofHeader_of_eq hhead⟩

theorem header_of_toNat {head : UInt8} {i d : LogicalAddress} (h : head.toNat = 16 * i.code + d.code)
    (hi : f.initiator = some i) (hd : f.destination = some d) : f.header = head := by
  apply UInt8.toNat_inj.1
  rw [toNat_header, hi, hd, h]
  rfl

/-! ### What is read -/

theorem fits_iff {head b : UInt8} {parameters : List UInt8} :
    parameters.length ≤ maxParameters ↔ (head :: b :: parameters).length ≤ 66 := by
  simp only [List.length_cons, maxParameters]
  omega

theorem ofBytes_of_long (h : 66 < bytes.length) : ofBytes bytes = .error (.size bytes.length) := by
  match bytes, h with
  | head :: b :: parameters, h =>
    have hlong : ¬ parameters.length ≤ maxParameters := fun hfits => absurd (fits_iff.1 hfits) (Nat.not_le.2 h)
    simp [ofBytes, hlong]

theorem ofBytes_of_unknown {head b : UInt8} {parameters : List UInt8} (hfits : parameters.length ≤ maxParameters)
    (hb : ∀ o : Opcode, o.byte ≠ b) : ofBytes (head :: b :: parameters) = .error (.opcode b.toNat) := by
  obtain ⟨i, d, -, hhead⟩ := exists_ofHeader head
  rw [ofBytes, dif_pos hfits, hhead, Opcode.ofByte_of_unknown hb]
  rfl

theorem ofBytes_bytes (h : f.opcode.isSome ∨ f.parameters = []) : ofBytes f.bytes = .ok f.settled := by
  have hread := ofHeader_of_eq f.toNat_header
  obtain ⟨initiator, destination, opcode, parameters, hlength⟩ := f
  cases opcode with
  | none =>
    obtain rfl : parameters = [] := by simpa using h
    exact hread
  | some o =>
    rw [bytes, Option.map_some, Option.toList_some, List.singleton_append, ofBytes, dif_pos hlength, hread,
      Opcode.ofByte_byte]
    rfl

/-- Reading accepts what writing makes of a frame with known addresses that has an opcode or nothing behind its
header, and nothing else. -/
theorem ofBytes_eq_ok : ofBytes bytes = .ok f ↔
    f.bytes = bytes ∧ f.settled = f ∧ (f.opcode = none → f.parameters = []) := by
  constructor
  · intro h
    match bytes with
    | [] => cases h
    | [head] =>
      obtain ⟨i, d, hhead, hread⟩ := exists_ofHeader head
      rw [ofBytes, hread] at h
      cases h
      refine ⟨?_, rfl, fun _ => rfl⟩
      rw [Frame.bytes, header_of_toNat hhead rfl rfl]
      rfl
    | head :: b :: parameters =>
      obtain ⟨i, d, hhead, hread⟩ := exists_ofHeader head
      by_cases hfits : parameters.length ≤ maxParameters
      · rw [ofBytes, dif_pos hfits, hread] at h
        cases hb : Opcode.ofByte? b with
        | none =>
          rw [Opcode.ofByte, hb] at h
          cases h
        | some o =>
          rw [Opcode.ofByte, hb] at h
          cases h
          refine ⟨?_, rfl, nofun⟩
          rw [Frame.bytes, header_of_toNat hhead rfl rfl]
          simp [Opcode.byte_of_ofByte? hb]
      · rw [ofBytes, dif_neg hfits] at h
        cases h
  · rintro ⟨rfl, hsettled, hpoll⟩
    have hopcode : f.opcode.isSome ∨ f.parameters = [] := by
      cases ho : f.opcode with
      | none => exact .inr (hpoll ho)
      | some o => exact .inl rfl
    rw [ofBytes_bytes hopcode, hsettled]

theorem exists_ofBytes_of_isWritten (h : IsWritten bytes) : ∃ f, ofBytes bytes = .ok f := by
  obtain ⟨hpos, hshort, hopcode⟩ := h
  match bytes with
  | [] => simp at hpos
  | [head] =>
    obtain ⟨i, d, -, hread⟩ := exists_ofHeader head
    exact ⟨_, hread⟩
  | head :: b :: parameters =>
    obtain ⟨i, d, -, hread⟩ := exists_ofHeader head
    obtain ⟨o, rfl⟩ := hopcode b rfl
    rw [ofBytes, dif_pos (fits_iff.2 hshort), hread, Opcode.ofByte_byte]
    exact ⟨_, rfl⟩

theorem ofBytes_of_refused {e : WireError} (h : Refused bytes e) : ofBytes bytes = .error e := by
  cases h with
  | empty h => rw [h, ofBytes]
  | size hlong => exact ofBytes_of_long hlong
  | @opcode b hshort hsecond hb =>
    match bytes with
    | [] => simp at hsecond
    | [head] => simp at hsecond
    | head :: second :: parameters =>
      obtain rfl : second = b := by simpa using hsecond
      exact ofBytes_of_unknown (fits_iff.2 hshort) hb

/-- Bytes are a frame, or there is a reason to refuse them. -/
theorem isWritten_or_refused (bytes : List UInt8) : IsWritten bytes ∨ ∃ e, Refused bytes e := by
  by_cases hempty : bytes = []
  · subst hempty
    exact .inr ⟨_, .empty rfl⟩
  have hpos : 1 ≤ bytes.length := List.length_pos_iff.2 hempty
  by_cases hlong : 66 < bytes.length
  · exact .inr ⟨_, .size hlong⟩
  have hshort : bytes.length ≤ 66 := by omega
  by_cases hopcode : ∀ b, bytes[1]? = some b → ∃ o : Opcode, o.byte = b
  · exact .inl ⟨hpos, hshort, hopcode⟩
  · push Not at hopcode
    obtain ⟨b, hsecond, hb⟩ := hopcode
    exact .inr ⟨_, .opcode hshort hsecond hb⟩

theorem exists_ofBytes_iff : (∃ f, ofBytes bytes = .ok f) ↔ IsWritten bytes := by
  refine ⟨fun ⟨f, hf⟩ => ?_, exists_ofBytes_of_isWritten⟩
  rcases isWritten_or_refused bytes with hwritten | ⟨e, hrefused⟩
  · exact hwritten
  · rw [ofBytes_of_refused hrefused] at hf
    cases hf

theorem ofBytes_eq_error {e : WireError} : ofBytes bytes = .error e ↔ Refused bytes e := by
  refine ⟨fun he => ?_, ofBytes_of_refused⟩
  rcases isWritten_or_refused bytes with hwritten | ⟨e', hrefused⟩
  · obtain ⟨f, hf⟩ := exists_ofBytes_of_isWritten hwritten
    rw [hf] at he
    cases he
  · rw [ofBytes_of_refused hrefused] at he
    cases he
    exact hrefused

/-! ### What is written and read again -/

/-- Without an opcode, the first parameter stands where an opcode would. -/
theorem ofBytes_bytes_of_accumulated {p : UInt8} {ps : List UInt8} (hf : f.opcode = none)
    (hp : f.parameters = p :: ps) :
    ((∀ o : Opcode, o.byte ≠ p) → ofBytes f.bytes = .error (.opcode p.toNat)) ∧
      ∀ o : Opcode, o.byte = p → ofBytes f.bytes = .ok (f.promoted o) := by
  have hlength : ps.length + 1 ≤ maxParameters := by simpa [hp] using f.parameters_length
  constructor
  · intro hunknown
    rw [bytes, hf, hp]
    exact ofBytes_of_unknown (by omega) hunknown
  · intro o ho
    exact ofBytes_eq_ok.2 ⟨bytes_promoted hf hp ho, rfl, nofun⟩

/-- Reading takes back what writing does, for every frame and for all bytes. What a frame with an opcode or without
parameters is written as is read as that frame, with unknown addresses settled; the first parameter of another frame is
read as its opcode, if it is one. The bytes that are read are those of frames, and writing gives them back; all others
are refused for lack of bytes, then for their number, then for the opcode. -/
theorem reading_inverts_writing :
    (∀ f : Frame, f.opcode.isSome ∨ f.parameters = [] → ofBytes f.bytes = .ok f.settled) ∧
      (∀ (f : Frame) (p : UInt8) (ps : List UInt8), f.opcode = none → f.parameters = p :: ps →
        ((∀ o : Opcode, o.byte ≠ p) → ofBytes f.bytes = .error (.opcode p.toNat)) ∧
          ∀ o : Opcode, o.byte = p → ofBytes f.bytes = .ok (f.promoted o)) ∧
      (∀ bytes, (∃ f, ofBytes bytes = .ok f) ↔ IsWritten bytes) ∧
      (∀ bytes f, ofBytes bytes = .ok f → f.bytes = bytes) ∧
      ∀ bytes e, ofBytes bytes = .error e ↔ Refused bytes e :=
  ⟨fun _ => ofBytes_bytes, fun _ _ _ => ofBytes_bytes_of_accumulated, fun _ => exists_ofBytes_iff,
    fun _ _ h => (ofBytes_eq_ok.1 h).1, fun _ _ => ofBytes_eq_error⟩

/-- A full frame without addresses and opcode whose first parameter is the byte of an opcode. -/
def accumulated : Frame := empty.withParameters (Opcode.activeSource.byte :: List.replicate 63 0)

/-- It takes 65 bytes, and they are read as a broadcast with that opcode and 63 parameters. -/
theorem accumulated_read_as_broadcast : accumulated.bytes.length = 65 ∧
    ofBytes accumulated.bytes = .ok (accumulated.promoted .activeSource) ∧
      (accumulated.promoted .activeSource).parameters = List.replicate 63 0 ∧
      ofBytes (accumulated.promoted .activeSource).bytes = .ok (accumulated.promoted .activeSource) := by
  have hread := reading_inverts_writing.2.1 accumulated Opcode.activeSource.byte (List.replicate 63 0) rfl (by decide)
  exact ⟨by decide, hread.2 .activeSource rfl, by decide, reading_inverts_writing.1 _ (.inl rfl)⟩

end Frame

end CecBus
