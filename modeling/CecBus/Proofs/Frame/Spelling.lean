import Mathlib.Logic.Relation
import CecBus.Emulator.Traffic
import CecBus.Proofs.Frame.Codec
import CecBus.Proofs.Frame.Typed

/-! Frames as text. Joining the digits of the bytes with colons, writing byte after byte with a colon in front of all but
the first, and writing a frame field by field all give the same text. That text is read back as the bytes, also when
digits are written in the other case and separators are put in or left out anywhere. Main result: `spelled_alike`. -/

namespace CecBus

namespace Hex

/-! ### Writing -/

def joined (bytes : List UInt8) : String := ":".intercalate (bytes.map fun b => padded 2 b.toNat)

/-- One byte after the other, with a colon in front of all but the first. -/
def accumulated (bytes : List UInt8) : String :=
  bytes.zipIdx.foldl (fun text (b, i) => (if 0 < i then text ++ ":" else text) ++ padded 2 b.toNat) ""

theorem toList_padded (b : UInt8) : (padded 2 b.toNat).toList = upperByte b := by
  have hall : ∀ n : Fin 256, (padded 2 n.val).toList = upperByte (UInt8.ofNat n.val) := by decide +kernel
  have hb := hall ⟨b.toNat, b.toNat_lt⟩
  rwa [UInt8.ofNat_toNat] at hb

theorem colonChars_cons (b : UInt8) (rest : List UInt8) :
    colonChars (b :: rest) = upperByte b ++ rest.flatMap fun b => ':' :: upperByte b := by
  induction rest generalizing b with
  | nil => simp [colonChars]
  | cons c rest ih => rw [colonChars, ih, List.flatMap_cons, List.cons_append]; simp

theorem intercalate_map_upperByte (bytes : List UInt8) :
    [':'].intercalate (bytes.map upperByte) = colonChars bytes := by
  match bytes with
  | [] | [_] => simp [colonChars]
  | b :: c :: rest =>
    rw [colonChars, ← intercalate_map_upperByte (c :: rest)]
    · simp [List.intercalate]
    · exact List.cons_ne_nil c rest

theorem joined_eq (bytes : List UInt8) : joined bytes = colon bytes := by
  have hwritten : bytes.map (String.toList ∘ fun b => padded 2 b.toNat) = bytes.map upperByte :=
    List.map_congr_left fun b _ => toList_padded b
  have hseparator : ":".toList = [':'] := rfl
  apply String.toList_inj.1
  rw [joined, String.toList_intercalate, List.map_map, hwritten, hseparator, intercalate_map_upperByte, colon,
    String.toList_ofList]

theorem toList_foldl_accumulated (rest : List UInt8) (text : String) (n : Nat) :
    ((rest.zipIdx (n + 1)).foldl (fun text (b, i) => (if 0 < i then text ++ ":" else text) ++ padded 2 b.toNat)
      text).toList = text.toList ++ rest.flatMap fun b => ':' :: upperByte b := by
  induction rest generalizing text n with
  | nil => simp
  | cons b rest ih =>
    rw [List.zipIdx_cons, List.foldl_cons, ih, List.flatMap_cons]
    simp [toList_padded]

theorem accumulated_eq (bytes : List UInt8) : accumulated bytes = colon bytes := by
  apply String.toList_inj.1
  cases bytes with
  | nil => rfl
  | cons b rest =>
    rw [accumulated, List.zipIdx_cons, List.foldl_cons, toList_foldl_accumulated, colon, String.toList_ofList,
      colonChars_cons]
    simp [toList_padded]

/-! ### Digits -/

theorem digit?_recased {c : Char} (h : isDigit c) : digit? c.toUpper = digit? c ∧ digit? c.toLower = digit? c := by
  have hall : ∀ n : Fin 128, isDigit (Char.ofNat n) → digit? (Char.ofNat n).toUpper = digit? (Char.ofNat n) ∧
      digit? (Char.ofNat n).toLower = digit? (Char.ofNat n) := by
    decide +kernel
  obtain ⟨n, hn⟩ := Option.isSome_iff_exists.1 h
  have hc := hall ⟨c.toNat, (digit?_bounds hn).1⟩
  rw [Char.ofNat_toNat] at hc
  exact hc h

theorem digit?_upperDigit {n : Nat} (h : n < 16) : digit? (upperDigit n) = some n := by
  have hall : ∀ k : Fin 16, digit? (upperDigit k) = some k.val := by decide +kernel
  exact hall ⟨n, h⟩

theorem read?_flatMap_upperByte (bytes : List UInt8) : read? (bytes.flatMap upperByte) = some bytes := by
  induction bytes with
  | nil => rfl
  | cons b rest ih =>
    have hb := b.toNat_lt
    refine read?_cons_cons.2 ⟨b.toNat / 16, b.toNat % 16, rest, digit?_upperDigit (by omega),
      digit?_upperDigit (by omega), ih, ?_⟩
    rw [Nat.div_add_mod, UInt8.ofNat_toNat]

/-- What is read depends on the values of the digits only. -/
theorem read?_congr {first second : List Char} (h : first.map digit? = second.map digit?) :
    read? first = read? second := by
  match first, second with
  | [], [] | [_], [_] => rfl
  | a :: b :: rest, c :: d :: rest' =>
    simp only [List.map_cons, List.cons.injEq] at h
    obtain ⟨ha, hb, hrest⟩ := h
    rw [read?, read?, ha, hb, read?_congr hrest]
  | [], _ :: _ | _ :: _, [] | [_], _ :: _ :: _ | _ :: _ :: _, [_] => simp at h

end Hex

theorem Frame.text_eq (f : Frame) : f.text = Hex.colon f.bytes := by
  rw [text, Hex.colon, bytes, Hex.colonChars_cons]
  cases f.opcode <;> simp

namespace FrameDigits

/-! ### Respelling -/

/-- A digit is written in upper or lower case, or a separator is put in or left out. -/
inductive Respelling : List Char → List Char → Prop
  | recase (front back : List Char) {c d : Char} (hdigit : Hex.isDigit c) (hcase : d = c.toUpper ∨ d = c.toLower) :
    Respelling (front ++ c :: back) (front ++ d :: back)
  | insert (front back : List Char) {c : Char} (h : isSeparator c) : Respelling (front ++ back) (front ++ c :: back)
  | delete (front back : List Char) {c : Char} (h : isSeparator c) : Respelling (front ++ c :: back) (front ++ back)

/-- One text comes from another by any number of such changes. -/
def Respelled (first second : String) : Prop := Relation.ReflTransGen Respelling first.toList second.toList

def values (text : List Char) : List (Option Nat) := (text.filter (!isSeparator ·)).map Hex.digit?

theorem isSeparator_of_isDigit {c : Char} (h : Hex.isDigit c) : isSeparator c = false := by
  rw [Bool.eq_false_iff]
  intro hseparator
  simp only [isSeparator, Bool.or_eq_true, decide_eq_true_eq] at hseparator
  rcases hseparator with (rfl | rfl) | rfl <;> cases h

theorem isSeparator_upperDigit {n : Nat} (h : n < 16) : isSeparator (Hex.upperDigit n) = false :=
  isSeparator_of_isDigit (Option.isSome_iff_exists.2 ⟨n, Hex.digit?_upperDigit h⟩)

theorem values_append (first second : List Char) : values (first ++ second) = values first ++ values second := by
  simp [values]

theorem values_cons_of_isSeparator {c : Char} (h : isSeparator c) (text : List Char) :
    values (c :: text) = values text := by
  simp [values, h]

theorem values_cons_of_isDigit {c : Char} (h : Hex.isDigit c) (text : List Char) :
    values (c :: text) = Hex.digit? c :: values text := by
  simp [values, isSeparator_of_isDigit h]

theorem Respelling.values_eq {first second : List Char} (h : Respelling first second) :
    values second = values first := by
  cases h with
  | @recase front back c d hdigit hcase =>
    have hvalue : Hex.digit? d = Hex.digit? c := by
      obtain ⟨hupper, hlower⟩ := Hex.digit?_recased hdigit
      rcases hcase with rfl | rfl
      · exact hupper
      · exact hlower
    have hrecased : Hex.isDigit d := by rwa [Hex.isDigit, hvalue]
    rw [values_append, values_append, values_cons_of_isDigit hrecased, values_cons_of_isDigit hdigit, hvalue]
  | insert front back h => rw [values_append, values_append, values_cons_of_isSeparator h]
  | delete front back h => rw [values_append, values_append, values_cons_of_isSeparator h]

theorem values_eq_of_reflTransGen {first second : List Char} (h : Relation.ReflTransGen Respelling first second) :
    values second = values first := by
  induction h with
  | refl => rfl
  | tail _ hstep ih => rw [hstep.values_eq, ih]

theorem filter_upperByte (b : UInt8) : (Hex.upperByte b).filter (!isSeparator ·) = Hex.upperByte b := by
  have hb := b.toNat_lt
  have hhigh := isSeparator_upperDigit (n := b.toNat / 16) (by omega)
  have hlow := isSeparator_upperDigit (n := b.toNat % 16) (by omega)
  simp [Hex.upperByte, hhigh, hlow]

theorem typed_colon (bytes : List UInt8) : typed (Hex.colon bytes) = bytes.flatMap Hex.upperByte := by
  have hcolon : isSeparator ':' = true := rfl
  rw [typed, Hex.colon, String.toList_ofList]
  cases bytes with
  | nil => rfl
  | cons b rest =>
    rw [Hex.colonChars_cons, List.filter_append, filter_upperByte, List.filter_flatMap, List.flatMap_cons]
    simp [hcolon, filter_upperByte]

/-- A frame is read from its text, however that is respelled. -/
theorem bytesOf_of_respelled {bytes : List UInt8} (hbytes : bytes ≠ []) {text : String}
    (h : Respelled (Hex.colon bytes) text) : bytesOf text = .ok bytes := by
  have hvalues : (typed text).map Hex.digit? = (typed (Hex.colon bytes)).map Hex.digit? := values_eq_of_reflTransGen h
  have hread : Hex.read? (typed text) = some bytes := by
    rw [Hex.read?_congr hvalues, typed_colon, Hex.read?_flatMap_upperByte]
  refine bytesOf_of_read? (fun hnil => ?_) hread
  rw [hnil] at hread
  exact hbytes (Option.some.inj hread).symm

end FrameDigits

/-- The text of a frame. Joining the digits of its bytes, writing byte after byte as the session does for its report, and
writing the frame that the bytes are read as all give the same text. It is read back as the bytes, and so is every text
that comes from it by writing digits in the other case and by putting in or leaving out separators anywhere. -/
theorem spelled_alike {bytes : List UInt8} (hbytes : bytes ≠ []) :
    Hex.joined bytes = Hex.colon bytes ∧ Hex.accumulated bytes = Hex.colon bytes ∧
      (Session.reportFrame bytes).entries.head?.map Entry.message =
        some ("Tx frame [" ++ Hex.accumulated bytes ++ "]") ∧
      (∀ delivery, (Emulator.reportSent bytes (.ok delivery)).entries.map Entry.message =
        ["Tx " ++ Hex.joined bytes ++ ": " ++ delivery.word]) ∧
      (∀ f, Frame.ofBytes bytes = .ok f → f.text = Hex.colon bytes) ∧
      ∀ text, FrameDigits.Respelled (Hex.colon bytes) text → FrameDigits.bytesOf text = .ok bytes := by
  refine ⟨Hex.joined_eq bytes, Hex.accumulated_eq bytes, ?_, fun delivery => ?_, fun f hf => ?_,
    fun text h => FrameDigits.bytesOf_of_respelled hbytes h⟩
  · rw [Hex.accumulated_eq]
    cases hread : Frame.ofBytes bytes <;> simp [Session.reportFrame, hread]
  · rw [Hex.joined_eq]
    rfl
  · rw [Frame.text_eq, (Frame.ofBytes_eq_ok.1 hf).1]

def announcement : List UInt8 := [0x4F, 0x82, 0x10, 0x00]

/-- The text of a frame without its colons, with a dash and a blank, and with a digit in lower case. -/
theorem respelled_announcement : FrameDigits.Respelled (Hex.colon announcement) "4f-82 1000" := by
  change Relation.ReflTransGen FrameDigits.Respelling (Hex.colon announcement).toList "4f-82 1000".toList
  have hwritten : (Hex.colon announcement).toList = "4F:82:10:00".toList := by decide
  rw [hwritten]
  refine .head (.recase ['4'] ":82:10:00".toList (c := 'F') (d := 'f') rfl (.inr rfl)) ?_
  refine .head (.delete ['4', 'f'] "82:10:00".toList (c := ':') rfl) ?_
  refine .head (.insert ['4', 'f'] "82:10:00".toList (c := '-') rfl) ?_
  refine .head (.delete "4f-82".toList "10:00".toList (c := ':') rfl) ?_
  refine .head (.insert "4f-82".toList "10:00".toList (c := ' ') rfl) ?_
  exact .single (.delete "4f-82 10".toList "00".toList (c := ':') rfl)

theorem announcement_spelled_alike : announcement ≠ [] ∧ Hex.joined announcement = "4F:82:10:00" ∧
    Hex.accumulated announcement = "4F:82:10:00" ∧
      (∃ f, Frame.ofBytes announcement = .ok f ∧ f.text = "4F:82:10:00") ∧
      FrameDigits.bytesOf "4f-82 1000" = .ok announcement := by
  have hbytes : announcement ≠ [] := by decide
  have htext : Hex.colon announcement = "4F:82:10:00" := by decide
  obtain ⟨hjoined, haccumulated, -, -, hframe, hread⟩ := spelled_alike hbytes
  rw [htext] at hjoined haccumulated hframe
  exact ⟨hbytes, hjoined, haccumulated, ⟨_, rfl, hframe _ rfl⟩, hread _ respelled_announcement⟩

end CecBus
