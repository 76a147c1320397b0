import Mathlib.Algebra.GroupWithZero.Nat
import Mathlib.Tactic.Common
import CecBus.Proofs.Frame.Codec

/-! Frames that are filled push by push, with single bytes and with slices. However the bytes are cut into pushes, the
frame ends up as one push of all of them would leave it (`fst_fill`), and the pushes answer how much of each was kept.
Main result: `Begins.filled`. -/

namespace CecBus.Frame

/-- Parameter bytes that are pushed in one call. -/
inductive Push where
  | byte (byte : UInt8)
  | slice (bytes : List UInt8)
  deriving DecidableEq

def Push.bytes : Push → List UInt8
  | byte b => [b]
  | slice bytes => bytes

def keep (f : Frame) : Push → Frame × Nat
  | .byte b => f.push b
  | .slice bytes => f.append bytes

/-- The frame after some pushes; with it come the numbers of bytes kept, one for each push. -/
def fill (f : Frame) : List Push → Frame × List Nat
  | [] => (f, [])
  | p :: rest =>
    let (f, kept) := f.keep p
    let (f, others) := f.fill rest
    (f, kept :: others)

/-- A frame that nothing was pushed to, with its parameters: it is new, has just got its header, or has just been
read. -/
inductive Begins : Frame → List UInt8 → Prop
  | new : Begins empty []
  | addressed (initiator destination : LogicalAddress) (opcode : Option Opcode) :
    Begins (addressed initiator destination opcode) []
  | read {bytes : List UInt8} {f : Frame} (h : ofBytes bytes = .ok f) : Begins f (bytes.drop 2)

variable {f : Frame} {initial : List UInt8}

/-! ### One push -/

theorem parameters_withParameters (f : Frame) (bytes : List UInt8) :
    (f.withParameters bytes).parameters = (f.parameters ++ bytes).take maxParameters := by
  rw [List.take_append, List.take_of_length_le f.parameters_length]
  rfl

@[simp] theorem withParameters_nil (f : Frame) : f.withParameters [] = f := by
  simp [withParameters, append]

theorem withParameters_append (f : Frame) (bytes more : List UInt8) :
    (f.withParameters bytes).withParameters more = f.withParameters (bytes ++ more) := by
  have hroom : (f.withParameters bytes).room = f.room - (bytes.take f.room).length := by
    rw [room, withParameters, append, List.length_append, ← Nat.sub_sub]
    rfl
  have hparameters : ((f.withParameters bytes).withParameters more).parameters =
      (f.withParameters (bytes ++ more)).parameters := by
    show (f.parameters ++ bytes.take f.room) ++ more.take (f.withParameters bytes).room =
      f.parameters ++ (bytes ++ more).take f.room
    rw [hroom, List.append_assoc, List.take_append, List.length_take]
    congr 3
    omega
  simpa [withParameters, append] using hparameters

/-- The two limits are one: a frame without room has as many parameters as it can hold. -/
theorem push_eq_append (f : Frame) (b : UInt8) : f.push b = f.append [b] := by
  have hlength := f.parameters_length
  by_cases hfull : maxParameters ≤ f.parameters.length
  · have hroom : f.room = 0 := Nat.sub_eq_zero_of_le hfull
    simp [push, append, hfull, hroom]
  · have hroom : 1 ≤ f.room := by
      rw [room]
      omega
    have htake : [b].take f.room = [b] := List.take_of_length_le hroom
    simp [push, append, hfull, htake, Nat.min_eq_left hroom]

theorem keep_eq_append (f : Frame) (p : Push) : f.keep p = f.append p.bytes := by
  cases p with
  | byte b => exact f.push_eq_append b
  | slice bytes => rfl

theorem fst_keep (f : Frame) (p : Push) : (f.keep p).1 = f.withParameters p.bytes := by
  rw [keep_eq_append, withParameters]

/-- What a push answers is how many of its bytes were added. -/
theorem parameters_keep (f : Frame) (p : Push) : (f.keep p).2 ≤ p.bytes.length ∧
    (f.keep p).1.parameters = f.parameters ++ p.bytes.take (f.keep p).2 := by
  rw [keep_eq_append]
  refine ⟨Nat.min_le_left _ _, ?_⟩
  have hslice : p.bytes.take f.room = p.bytes.take (min p.bytes.length f.room) := by
    rw [List.take_eq_take_iff]
    omega
  exact congrArg (f.parameters ++ ·) hslice

/-! ### Many pushes -/

theorem fill_append (f : Frame) (pushes more : List Push) : f.fill (pushes ++ more) =
    (((f.fill pushes).1.fill more).1, (f.fill pushes).2 ++ ((f.fill pushes).1.fill more).2) := by
  induction pushes generalizing f with
  | nil => rfl
  | cons p rest ih => simp only [List.cons_append, fill, ih]

theorem length_snd_fill (f : Frame) (pushes : List Push) : (f.fill pushes).2.length = pushes.length := by
  induction pushes generalizing f with
  | nil => rfl
  | cons p rest ih => simp only [fill, List.length_cons, ih]

/-- For the frame it only counts which bytes are pushed, and not how they are cut. -/
theorem fst_fill (f : Frame) (pushes : List Push) :
    (f.fill pushes).1 = f.withParameters (pushes.flatMap Push.bytes) := by
  induction pushes generalizing f with
  | nil => exact (withParameters_nil f).symm
  | cons p rest ih =>
    simp only [fill]
    rw [ih, fst_keep, withParameters_append, List.flatMap_cons]

theorem sum_snd_fill (f : Frame) (pushes : List Push) :
    f.parameters.length + (f.fill pushes).2.sum = (f.fill pushes).1.parameters.length := by
  induction pushes generalizing f with
  | nil => rfl
  | cons p rest ih =>
    obtain ⟨hkept, hparameters⟩ := f.parameters_keep p
    simp only [fill, List.sum_cons]
    rw [← ih, hparameters, List.length_append, List.length_take]
    omega

/-- A push answers how many of its bytes come to what was there before it. -/
theorem parameters_fill_concat (f : Frame) (before : List Push) (p : Push) (after : List Push) :
    ∃ kept, (f.fill (before ++ p :: after)).2[before.length]? = some kept ∧ kept ≤ p.bytes.length ∧
      (f.fill (before ++ [p])).1.parameters = (f.fill before).1.parameters ++ p.bytes.take kept := by
  obtain ⟨hkept, hparameters⟩ := (f.fill before).1.parameters_keep p
  refine ⟨((f.fill before).1.keep p).2, ?_, hkept, ?_⟩
  · rw [fill_append, List.getElem?_append_right (Nat.le_of_eq (f.length_snd_fill before)), length_snd_fill,
      Nat.sub_self]
    rfl
  · rw [fill_append]
    exact hparameters

/-- A slice may be cut: the pieces answer together what the slice answers, and all else is as it was. -/
theorem fill_cut (f : Frame) (before pieces after : List Push) : ∃ first kept parts last,
    (f.fill (before ++ .slice (pieces.flatMap Push.bytes) :: after)).2 = first ++ kept :: last ∧
      (f.fill (before ++ pieces ++ after)).2 = first ++ parts ++ last ∧ parts.length = pieces.length ∧
      parts.sum = kept := by
  generalize hslice : Push.slice (pieces.flatMap Push.bytes) = slice
  -- Both ways lead to the same frame, so that the rest is filled alike.
  have hframe : ((f.fill before).1.fill pieces).1 = ((f.fill before).1.keep slice).1 := by
    rw [fst_fill _ pieces, fst_keep, ← hslice]
    rfl
  have hkept := (f.fill before).1.sum_snd_fill [slice]
  have hparts := (f.fill before).1.sum_snd_fill pieces
  refine ⟨(f.fill before).2, ((f.fill before).1.keep slice).2, ((f.fill before).1.fill pieces).2,
    (((f.fill before).1.keep slice).1.fill after).2, ?_, ?_, length_snd_fill _ pieces, ?_⟩
  · rw [fill_append]
    rfl
  · rw [fill_append, fill_append, hframe]
  · rw [hframe] at hparts
    simp only [fill, List.sum_cons, List.sum_nil] at hkept
    omega

/-! ### Frames that begin -/

theorem Begins.parameters_eq (h : Begins f initial) : f.parameters = initial := by
  cases h with
  | new | addressed => rfl
  | @read bytes f h =>
    obtain ⟨rfl, -, hpoll⟩ := ofBytes_eq_ok.1 h
    cases ho : f.opcode with
    | none => simp [Frame.bytes, ho, hpoll ho]
    | some o => simp [Frame.bytes, ho]

/-- A frame that begins is filled: it has the first 64 bytes of its first parameters and everything that is pushed.
Every push answers how many of its own bytes came to the parameters; these numbers and that of the first parameters add
up to the number of parameters. A slice may be cut into pushes anywhere: this changes neither the frame nor what is
answered in total, nor what the other pushes answer. -/
theorem Begins.filled (h : Begins f initial) (pushes : List Push) :
    (f.fill pushes).1.parameters = (initial ++ pushes.flatMap Push.bytes).take 64 ∧
      (f.fill pushes).2.length = pushes.length ∧
      initial.length + (f.fill pushes).2.sum = (f.fill pushes).1.parameters.length ∧
      (∀ before p after, pushes = before ++ p :: after →
        ∃ kept, (f.fill pushes).2[before.length]? = some kept ∧ kept ≤ p.bytes.length ∧
          (f.fill (before ++ [p])).1.parameters = (f.fill before).1.parameters ++ p.bytes.take kept) ∧
      ∀ before pieces after, pushes = before ++ .slice (pieces.flatMap Push.bytes) :: after →
        (f.fill (before ++ pieces ++ after)).1 = (f.fill pushes).1 ∧
          ∃ first kept parts last, (f.fill pushes).2 = first ++ kept :: last ∧
            (f.fill (before ++ pieces ++ after)).2 = first ++ parts ++ last ∧ parts.length = pieces.length ∧
            parts.sum = kept := by
  refine ⟨?_, f.length_snd_fill pushes, ?_, ?_, ?_⟩
  · rw [fst_fill, parameters_withParameters, h.parameters_eq]
    rfl
  · rw [← h.parameters_eq]
    exact f.sum_snd_fill pushes
  · rintro before p after rfl
    exact f.parameters_fill_concat before p after
  · rintro before pieces after rfl
    refine ⟨?_, f.fill_cut before pieces after⟩
    rw [fst_fill, fst_fill]
    simp [Push.bytes]

def longReport : List UInt8 := 0x40 :: Opcode.reportPowerStatus.byte :: List.replicate 60 7

/-- Of a slice of three, two single bytes and another slice it keeps the slice and one byte. Cut after its first byte,
the slice is kept as well. -/
theorem longReport_filled : ∃ f, ofBytes longReport = .ok f ∧
    (f.fill [.slice [1, 2, 3], .byte 4, .byte 5, .slice [6, 7]]).1.parameters = List.replicate 60 7 ++ [1, 2, 3, 4] ∧
      60 + (f.fill [.slice [1, 2, 3], .byte 4, .byte 5, .slice [6, 7]]).2.sum = 64 ∧
      (f.fill [.byte 1, .slice [2, 3], .byte 4, .byte 5, .slice [6, 7]]).1 =
        (f.fill [.slice [1, 2, 3], .byte 4, .byte 5, .slice [6, 7]]).1 := by
  obtain ⟨f, hread⟩ : ∃ f, ofBytes longReport = .ok f :=
    exists_ofBytes_of_isWritten ⟨by decide, by decide, fun b hb => ⟨.reportPowerStatus, Option.some.inj hb⟩⟩
  obtain ⟨hparameters, -, hsum, -, hcut⟩ :=
    (Begins.read hread).filled [.slice [1, 2, 3], .byte 4, .byte 5, .slice [6, 7]]
  have hfull : (f.fill [.slice [1, 2, 3], .byte 4, .byte 5, .slice [6, 7]]).1.parameters =
      List.replicate 60 7 ++ [1, 2, 3, 4] := hparameters.trans (by decide)
  rw [hfull] at hsum
  exact ⟨f, hread, hfull, hsum, (hcut [] [.byte 1, .slice [2, 3]] [.byte 4, .byte 5, .slice [6, 7]] rfl).1⟩

end CecBus.Frame
