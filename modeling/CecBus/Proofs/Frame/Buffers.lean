import Mathlib.Tactic.Common
import CecBus.Frame.Bytes

/-! Frames in buffers of a fixed length. A draft is a frame of which nothing says how long it is: it is changed and
written by programs that index buffers, cut slices and subtract lengths, and that stop where an index or a slice is out
of range or a difference falls below zero. They never stop on the drafts that the operations on frames lead to, and come
to the same as those operations. Writing over the start of a buffer and writing behind what a buffer holds both write the
bytes of the frame. Main result: `writing_within_bounds`. -/

namespace CecBus

/-! ### Buffers -/

namespace Buffer

def difference? (a b : Nat) : Option Nat := if b ≤ a then some (a - b) else none

/-- The bytes in front of an index, unless it is out of range. -/
def upTo? (bytes : List UInt8) (stop : Nat) : Option (List UInt8) :=
  if stop ≤ bytes.length then some (bytes.take stop) else none

def put? (buffer : List UInt8) (index : Nat) (byte : UInt8) : Option (List UInt8) :=
  if index < buffer.length then some (buffer.set index byte) else none

/-- Copies bytes over a range of a buffer, unless the range is out of range or is not as long as the bytes. -/
def copy? (buffer : List UInt8) (start stop : Nat) (bytes : List UInt8) : Option (List UInt8) :=
  if start ≤ stop ∧ stop ≤ buffer.length ∧ bytes.length = stop - start then
    some (buffer.take start ++ bytes ++ buffer.drop stop)
  else none

theorem put?_eq {buffer : List UInt8} {index : Nat} (byte : UInt8) (h : index < buffer.length) :
    put? buffer index byte = some (Frame.overwrite buffer index [byte]) := by
  rw [put?, if_pos h, Frame.overwrite, List.set_eq_take_append_cons_drop, if_pos h]
  simp

theorem copy?_eq {buffer bytes : List UInt8} {start stop : Nat} (hstop : start + bytes.length = stop)
    (h : stop ≤ buffer.length) : copy? buffer start stop bytes = some (Frame.overwrite buffer start bytes) := by
  subst hstop
  rw [copy?, if_pos ⟨Nat.le_add_right _ _, h, by omega⟩, Frame.overwrite]

end Buffer

/-! ### Drafts -/

/-- A frame that may have any number of parameters. -/
structure Draft where
  initiator : Option LogicalAddress := none
  destination : Option LogicalAddress := none
  opcode : Option Opcode := none
  parameters : List UInt8 := []

/-- What can be done to a frame. -/
inductive Change where
  | clear
  | format (initiator destination : LogicalAddress) (opcode : Option Opcode)
  | assign (initiator destination : Option LogicalAddress) (opcode : Option Opcode)
  | push (byte : UInt8)
  | append (bytes : List UInt8)
  | read (bytes : List UInt8)

namespace Draft

def header (d : Draft) : UInt8 := UInt8.ofNat (16 * Frame.nibble d.initiator + Frame.nibble d.destination)

def size (d : Draft) : Nat := 1 + (if d.opcode.isSome then 1 else 0) + d.parameters.length

/-- Adds one parameter byte, unless there are as many as a frame can hold; with it comes the number of bytes kept. -/
def push (d : Draft) (byte : UInt8) : Draft × Nat :=
  if Frame.maxParameters ≤ d.parameters.length then (d, 0)
  else ({ d with parameters := d.parameters ++ [byte] }, 1)

/-- Adds a slice of the parameter bytes; with it comes the number of bytes kept. -/
def append? (d : Draft) (bytes : List UInt8) : Option (Draft × Nat) := do
  let room ← Buffer.difference? Frame.maxParameters d.parameters.length
  let kept := min bytes.length room
  let slice ← Buffer.upTo? bytes kept
  pure ({ d with parameters := d.parameters ++ slice }, kept)

/-- Reads a draft. All bytes behind the opcode become its parameters. -/
def ofBytes : List UInt8 → Except WireError Draft
  | [] => .error .empty
  | head :: rest =>
    if Frame.maxSize < rest.length + 1 then .error (.size (rest.length + 1))
    else do
      let initiator ← LogicalAddress.ofCode (head.toNat / 16)
      let destination ← LogicalAddress.ofCode (head.toNat % 16)
      match rest with
      | [] => pure { initiator := some initiator, destination := some destination }
      | byte :: parameters =>
        let opcode ← Opcode.ofByte byte
        pure { initiator := some initiator, destination := some destination, opcode := some opcode, parameters }

/-- Writes the opcode, if there is one, behind the header; with it comes where the parameters begin. -/
def putOpcode? (d : Draft) (buffer : List UInt8) : Option (List UInt8 × Nat) :=
  match d.opcode with
  | some opcode => (Buffer.put? buffer 1 opcode.byte).map fun buffer => (buffer, 2)
  | none => some (buffer, 1)

/-- Writes a draft over the start of a buffer: first the header, then the opcode if there is one, then a slice of the
parameters. With it comes the number of bytes that are needed; where there are fewer, nothing is written. -/
def writeInto? (d : Draft) (buffer : List UInt8) : Option (List UInt8 × Nat) :=
  if buffer.length < d.size then some (buffer, d.size)
  else do
    let buffer ← Buffer.put? buffer 0 d.header
    let (buffer, offset) ← d.putOpcode? buffer
    let buffer ← Buffer.copy? buffer offset d.size d.parameters
    pure (buffer, d.size)

/-- The draft after a change. -/
def after? (d : Draft) : Change → Option Draft
  | .clear => some {}
  | .format initiator destination opcode =>
    some { initiator := some initiator, destination := some destination, opcode }
  | .assign initiator destination opcode => some { d with initiator, destination, opcode }
  | .push byte => some (d.push byte).1
  | .append bytes => (d.append? bytes).map Prod.fst
  | .read bytes =>
    match ofBytes bytes with
    | .ok d => some d
    | .error _ => some d

def built? (changes : List Change) : Option Draft := changes.foldlM after? {}

end Draft

namespace Frame

/-- A frame without the bound on its parameters. -/
def draft (f : Frame) : Draft := ⟨f.initiator, f.destination, f.opcode, f.parameters⟩

/-- The frame after a change. -/
def after (f : Frame) : Change → Frame
  | .clear => empty
  | .format initiator destination opcode => addressed initiator destination opcode
  | .assign initiator destination opcode => { f with initiator, destination, opcode }
  | .push byte => (f.push byte).1
  | .append bytes => (f.append bytes).1
  | .read bytes =>
    match ofBytes bytes with
    | .ok f => f
    | .error _ => f

def built (changes : List Change) : Frame := changes.foldl after empty

@[simp] theorem opcode_draft (f : Frame) : f.draft.opcode = f.opcode := rfl

@[simp] theorem parameters_draft (f : Frame) : f.draft.parameters = f.parameters := rfl

@[simp] theorem size_draft (f : Frame) : f.draft.size = f.size := rfl

@[simp] theorem header_draft (f : Frame) : f.draft.header = f.header := rfl

theorem push_draft (f : Frame) (byte : UInt8) : f.draft.push byte = ((f.push byte).1.draft, (f.push byte).2) := by
  by_cases hfull : maxParameters ≤ f.parameters.length <;> simp [Draft.push, push, draft, hfull]

/-- There is no more in a frame than it can hold, so that the room in it is a difference and what is kept a slice. -/
theorem append?_draft (f : Frame) (bytes : List UInt8) :
    f.draft.append? bytes = some ((f.append bytes).1.draft, (f.append bytes).2) := by
  have hroom : Buffer.difference? maxParameters f.draft.parameters.length = some f.room := if_pos f.parameters_length
  have hslice : Buffer.upTo? bytes (min bytes.length f.room) = some (bytes.take f.room) := by
    rw [Buffer.upTo?, if_pos (Nat.min_le_left _ _), Option.some.injEq, List.take_eq_take_iff]
    omega
  simp only [Draft.append?, hroom, hslice, Option.bind_eq_bind, Option.bind_some]
  rfl

theorem ofBytes_draft (bytes : List UInt8) : Draft.ofBytes bytes = (ofBytes bytes).map draft := by
  match bytes with
  | [] => rfl
  | [head] =>
    rw [Draft.ofBytes, if_neg (by decide), ofBytes, ofHeader]
    cases LogicalAddress.ofCode (head.toNat / 16) with
    | error e => rfl
    | ok initiator => cases LogicalAddress.ofCode (head.toNat % 16) <;> rfl
  | head :: byte :: parameters =>
    have hlimit : maxSize < (byte :: parameters).length + 1 ↔ ¬ parameters.length ≤ maxParameters := by
      simp only [maxSize, List.length_cons]
      omega
    rw [Draft.ofBytes, ofBytes, ofHeader]
    by_cases hfits : parameters.length ≤ maxParameters
    · rw [if_neg (hlimit.not_left.2 hfits), dif_pos hfits]
      cases LogicalAddress.ofCode (head.toNat / 16) with
      | error e => rfl
      | ok initiator =>
        cases LogicalAddress.ofCode (head.toNat % 16) with
        | error e => rfl
        | ok destination =>
          cases hb : Opcode.ofByte byte <;> simp [hb, bind, Except.bind, pure, Except.pure, Except.map, draft, addressed]
    · rw [if_pos (hlimit.2 hfits), dif_neg hfits]
      rfl

theorem after?_draft (f : Frame) (change : Change) : f.draft.after? change = some (f.after change).draft := by
  cases change with
  | clear | format | assign => rfl
  | push byte => rw [Draft.after?, push_draft, after]
  | append bytes => rw [Draft.after?, append?_draft, after, Option.map_some]
  | read bytes =>
    rw [Draft.after?, ofBytes_draft, after]
    cases ofBytes bytes <;> rfl

/-- No change of a frame that was built stops. -/
theorem built?_eq (changes : List Change) : Draft.built? changes = some (built changes).draft := by
  have hall : ∀ (f : Frame), changes.foldlM Draft.after? f.draft = some (changes.foldl after f).draft := by
    induction changes with
    | nil => exact fun _ => rfl
    | cons change rest ih =>
      intro f
      rw [List.foldlM_cons, after?_draft, Option.bind_eq_bind, Option.bind_some, ih, List.foldl_cons]
  exact hall empty

/-! ### Writing -/

@[simp] theorem overwrite_zero (buffer bytes : List UInt8) :
    overwrite buffer 0 bytes = bytes ++ buffer.drop bytes.length := by
  simp [overwrite]

theorem length_overwrite {buffer bytes : List UInt8} {offset : Nat} (h : offset + bytes.length ≤ buffer.length) :
    (overwrite buffer offset bytes).length = buffer.length := by
  simp only [overwrite, List.length_append, List.length_take, List.length_drop]
  omega

/-- What is put right behind what was put over the start continues it. -/
theorem overwrite_overwrite (buffer first second : List UInt8) :
    overwrite (overwrite buffer 0 first) first.length second = overwrite buffer 0 (first ++ second) := by
  rw [overwrite_zero, overwrite_zero, overwrite, List.take_left, List.drop_append]
  simp [List.drop_drop]

theorem length_bytes (f : Frame) : f.bytes.length = f.size := by
  cases ho : f.opcode <;> simp [bytes, size, ho] <;> omega

/-- A frame is written over the start of a buffer that is long enough, and the rest stays. -/
theorem writeInto_eq (f : Frame) {buffer : List UInt8} (h : f.size ≤ buffer.length) :
    f.writeInto buffer = f.bytes ++ buffer.drop f.size := by
  rw [writeInto, if_neg (Nat.not_lt.2 h), ← length_bytes, ← overwrite_zero]
  cases ho : f.opcode with
  | none =>
    have hbytes : f.bytes = [f.header] ++ f.parameters := by rw [bytes, ho]; rfl
    rw [hbytes, ← overwrite_overwrite]
    rfl
  | some o =>
    have hbytes : f.bytes = [f.header] ++ [o.byte] ++ f.parameters := by rw [bytes, ho]; rfl
    rw [hbytes, ← overwrite_overwrite, ← overwrite_overwrite]
    rfl

theorem writeAfter_eq (f : Frame) (buffer : List UInt8) : f.writeAfter buffer = buffer ++ f.bytes := by
  cases ho : f.opcode <;> simp [writeAfter, bytes, ho]

/-- Everything that is written is within a buffer that is long enough. -/
theorem writeInto?_draft (f : Frame) (buffer : List UInt8) :
    f.draft.writeInto? buffer = some (f.writeInto buffer, f.size) := by
  by_cases hshort : buffer.length < f.size
  · rw [Draft.writeInto?, size_draft, if_pos hshort, writeInto, if_pos hshort]
  have hlong : f.size ≤ buffer.length := Nat.not_lt.1 hshort
  have hheader : Buffer.put? buffer 0 f.header = some (overwrite buffer 0 [f.header]) :=
    Buffer.put?_eq f.header (by rw [size] at hlong; omega)
  have hlength : (overwrite buffer 0 [f.header]).length = buffer.length :=
    length_overwrite (by rw [size] at hlong; simp only [List.length_singleton]; omega)
  rw [Draft.writeInto?, size_draft, if_neg hshort, writeInto, if_neg hshort]
  simp only [header_draft, parameters_draft, hheader, Draft.putOpcode?, opcode_draft, Option.bind_eq_bind,
    Option.bind_some]
  cases ho : f.opcode with
  | none =>
    have hstop : 1 + f.parameters.length = f.size := by simp [size, ho]
    simp only [Option.bind_some, Buffer.copy?_eq hstop (hlength ▸ hlong), Option.pure_def]
  | some o =>
    have hstop : 2 + f.parameters.length = f.size := by simp [size, ho]
    have hsecond : Buffer.put? (overwrite buffer 0 [f.header]) 1 o.byte =
        some (overwrite (overwrite buffer 0 [f.header]) 1 [o.byte]) :=
      Buffer.put?_eq o.byte (by omega)
    have hboth : (overwrite (overwrite buffer 0 [f.header]) 1 [o.byte]).length = buffer.length := by
      rw [length_overwrite (by simp only [List.length_singleton]; omega), hlength]
    simp only [hsecond, Option.map_some, Option.bind_some, Buffer.copy?_eq hstop (hboth ▸ hlong), Option.pure_def]

/-- Every operation on frames that writes to a buffer, cuts a slice or subtracts a length stays within bounds, on every
frame that operations lead to. The number of bytes that writing into a buffer needs is the number of bytes of the frame;
a buffer that is too short stays as it is, and otherwise the bytes of the frame replace its first ones and the rest stays.
Writing behind what a buffer holds appends the same bytes. -/
theorem writing_within_bounds (changes : List Change) : ∃ f : Frame, built changes = f ∧
    Draft.built? changes = some f.draft ∧
      (∀ bytes, f.draft.append? bytes = some ((f.append bytes).1.draft, (f.append bytes).2)) ∧
      f.size = f.bytes.length ∧
      ∀ buffer, f.draft.writeInto? buffer = some (f.writeInto buffer, f.size) ∧
        (buffer.length < f.size → f.writeInto buffer = buffer) ∧
        (f.size ≤ buffer.length → f.writeInto buffer = f.bytes ++ buffer.drop f.size) ∧
        f.writeAfter buffer = buffer ++ f.bytes :=
  ⟨_, rfl, built?_eq changes, append?_draft _, (length_bytes _).symm, fun buffer =>
    ⟨writeInto?_draft _ buffer, fun hshort => if_pos hshort, writeInto_eq _, writeAfter_eq _ buffer⟩⟩

/-- A frame with an opcode is given more parameters than it can hold. -/
def overfull : List Change :=
  [.format .tv .broadcast (some .activeSource), .append (List.replicate 40 1), .append (List.replicate 40 2)]

/-- It takes 66 bytes: one byte less is not written to, and a byte more stays. -/
theorem overfull_within_bounds : ∃ f : Frame, built overfull = f ∧ Draft.built? overfull = some f.draft ∧
    f.parameters = List.replicate 40 1 ++ List.replicate 24 2 ∧ f.size = 66 ∧
      f.writeInto (List.replicate 65 0xAA) = List.replicate 65 0xAA ∧
      f.writeInto (List.replicate 67 0xAA) = f.bytes ++ [0xAA] := by
  obtain ⟨f, hbuilt, hdraft, -, -, hwritten⟩ := writing_within_bounds overfull
  have hsize : f.size = 66 := by
    rw [← hbuilt]
    decide +kernel
  have hshort := (hwritten (List.replicate 65 0xAA)).2.1
  have hlong := (hwritten (List.replicate 67 0xAA)).2.2.1
  rw [hsize] at hshort hlong
  refine ⟨f, hbuilt, hdraft, ?_, hsize, hshort (by decide), hlong (by decide)⟩
  rw [← hbuilt]
  decide +kernel

end Frame

end CecBus
