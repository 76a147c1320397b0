import CecBus.FileName
import CecBus.Proofs.Text.Pieces

/-! Where file names lead. A name is walked in steps, which are its pieces without those that lead nowhere; it starts at
the root or where one is. The directory of a name takes all steps but the last (`steps_directory`), and a name inside a
directory takes the steps of the directory and then its own (`steps_inside`). -/

namespace CecBus.FileName

def stepsOf (text : List Char) : List (List Char) := (Text.pieces '/' text).filter (!isIdle ·)

def steps (name : String) : List (List Char) := stepsOf name.toList

/-- A name in a file leads where it says from the directory of the file, unless it starts at the root. -/
def Resolves (path name resolved : String) : Prop :=
  if isAbsolute name then resolved = name
  else steps resolved = (steps path).dropLast ++ steps name ∧ (steps path ≠ [] → isAbsolute resolved = isAbsolute path)

variable {path directory name : String} {text : List Char} {pieces : List (List Char)}

/-! ### Steps -/

theorem stepsOf_append (a b : List Char) : stepsOf (a ++ '/' :: b) = stepsOf a ++ stepsOf b := by
  rw [stepsOf, Text.pieces_append, List.filter_append]
  rfl

theorem stepsOf_slash (text : List Char) : stepsOf ('/' :: text) = stepsOf text := stepsOf_append [] text

theorem stepsOf_dot_slash (text : List Char) : stepsOf ('.' :: '/' :: text) = stepsOf text := stepsOf_append ['.'] text

/-- Pieces that are put together again are walked one after the other. -/
theorem stepsOf_joinPieces (h : ∀ piece ∈ pieces, '/' ∉ piece) :
    stepsOf (Text.joinPieces '/' pieces) = pieces.filter (!isIdle ·) := by
  induction pieces with
  | nil => rfl
  | cons piece rest ih =>
    rw [List.forall_mem_cons] at h
    have hpiece : stepsOf piece = [piece].filter (!isIdle ·) := by
      rw [stepsOf, Text.pieces_of_not_mem fun c hc (heq : c = '/') => h.1 (heq ▸ hc)]
    cases rest with
    | nil => exact hpiece
    | cons next rest =>
      show stepsOf (piece ++ '/' :: Text.joinPieces '/' (next :: rest)) = _
      rw [stepsOf_append, ih h.2, hpiece, ← List.filter_append]
      rfl

/-! ### The directory of a name -/

theorem filter_dropWhile_isIdle (pieces : List (List Char)) :
    (pieces.dropWhile isIdle).filter (!isIdle ·) = pieces.filter (!isIdle ·) := by
  induction pieces with
  | nil => rfl
  | cons piece rest ih =>
    by_cases hidle : isIdle piece
    · rw [List.dropWhile_cons_of_pos hidle, ih, List.filter_cons_of_neg (by simpa using hidle)]
    · rw [List.dropWhile_cons_of_neg hidle]

theorem beforeLast?_eq_none (h : beforeLast? pieces = none) : pieces.filter (!isIdle ·) = [] := by
  unfold beforeLast? at h
  split at h
  · next hdrop =>
    have hreverse := filter_dropWhile_isIdle pieces.reverse
    rw [hdrop, List.filter_nil, List.filter_reverse, eq_comm, List.reverse_eq_nil_iff] at hreverse
    exact hreverse
  · cases h

/-- What stands in front of the last step are the first pieces, and all steps but the last. -/
theorem beforeLast?_eq_some {before : List (List Char)} (h : beforeLast? pieces = some before) :
    before <+: pieces ∧ before.filter (!isIdle ·) = (pieces.filter (!isIdle ·)).dropLast := by
  unfold beforeLast? at h
  split at h
  · cases h
  · next last rest hdrop =>
    cases h
    have hlast : isIdle last = false := by
      have hhead := List.head?_dropWhile_not isIdle pieces.reverse
      rw [hdrop] at hhead
      simpa using hhead
    constructor
    · have hsuffix : rest.dropWhile isIdle <:+ pieces.reverse :=
        ((List.dropWhile_suffix isIdle).trans (List.suffix_cons last rest)).trans
          (hdrop ▸ List.dropWhile_suffix isIdle)
      rw [← List.reverse_reverse pieces]
      exact List.reverse_prefix.2 hsuffix
    · have hreverse := filter_dropWhile_isIdle pieces.reverse
      rw [hdrop, List.filter_cons_of_pos (by simp [hlast]), List.filter_reverse] at hreverse
      rw [List.filter_reverse, filter_dropWhile_isIdle, ← List.reverse_reverse (pieces.filter _), ← hreverse,
        List.reverse_cons, List.dropLast_concat]

/-- A name starts at the root, at the current directory written out, or at its first piece. -/
theorem splitStart_cases (text : List Char) :
    (∃ rest, text = '/' :: rest ∧ splitStart text = (['/'], rest)) ∨ (text = ['.'] ∧ splitStart text = (['.'], [])) ∨
      (∃ rest, text = '.' :: '/' :: rest ∧ splitStart text = (['.'], '/' :: rest)) ∨
      text.head? ≠ some '/' ∧ splitStart text = ([], text) := by
  unfold splitStart
  split
  · next rest => exact .inl ⟨rest, rfl, rfl⟩
  · exact .inr (.inl ⟨rfl, rfl⟩)
  · next rest => exact .inr (.inr (.inl ⟨rest, rfl, rfl⟩))
  · next hroot _ _ =>
    refine .inr (.inr (.inr ⟨fun hhead => ?_, rfl⟩))
    obtain ⟨rest, rfl⟩ := List.head?_eq_some_iff.1 hhead
    exact hroot rest rfl

/-- The first pieces of a name are walked as they are, also behind a dot that the name starts with. -/
theorem stepsOf_dot_joinPieces {others : List (List Char)} (h : pieces <+: [] :: others)
    (hmarks : ∀ piece ∈ pieces, '/' ∉ piece) :
    stepsOf ('.' :: Text.joinPieces '/' pieces) = pieces.filter (!isIdle ·) := by
  cases pieces with
  | nil => rfl
  | cons piece rest =>
    obtain ⟨rfl, -⟩ := List.cons_prefix_cons.1 h
    cases rest with
    | nil => rfl
    | cons next rest =>
      rw [List.forall_mem_cons] at hmarks
      show stepsOf ('.' :: '/' :: Text.joinPieces '/' (next :: rest)) = _
      rw [stepsOf_dot_slash, stepsOf_joinPieces hmarks.2]
      rfl

theorem head?_joinPieces_ne (h : pieces <+: Text.pieces '/' text) (hroot : text.head? ≠ some '/') :
    (Text.joinPieces '/' pieces).head? ≠ some '/' := by
  cases pieces with
  | nil => simp [Text.joinPieces]
  | cons piece rest =>
    have hfirst := Text.head?_pieces '/' text
    obtain ⟨others, hothers⟩ := h
    rw [← hothers, List.cons_append, List.head?_cons, Option.some.injEq] at hfirst
    cases text with
    | nil =>
      rw [Text.pieces, List.cons_append, List.cons_eq_cons, List.append_eq_nil_iff] at hothers
      obtain ⟨rfl, rfl, -⟩ := hothers
      simp [Text.joinPieces]
    | cons c text =>
      have hc : c ≠ '/' := fun heq => hroot (congrArg some heq)
      rw [List.takeWhile_cons_of_pos (by simpa using hc)] at hfirst
      subst hfirst
      cases rest <;> simpa [Text.joinPieces] using hc

theorem stepsOf_splitStart (text : List Char) : stepsOf (splitStart text).2 = stepsOf text := by
  rcases splitStart_cases text with ⟨rest, rfl, hsplit⟩ | ⟨rfl, hsplit⟩ | ⟨rest, rfl, hsplit⟩ | ⟨-, hsplit⟩
  · rw [hsplit, stepsOf_slash]
  · rw [hsplit]
    rfl
  · rw [hsplit, stepsOf_slash, stepsOf_dot_slash]
  · rw [hsplit]

theorem stepsOf_splitStart_append (h : pieces <+: Text.pieces '/' (splitStart text).2) :
    stepsOf ((splitStart text).1 ++ Text.joinPieces '/' pieces) = pieces.filter (!isIdle ·) := by
  have hmarks : ∀ piece ∈ pieces, '/' ∉ piece := fun piece hpiece =>
    Text.mark_not_mem_of_mem_pieces (h.subset hpiece)
  rcases splitStart_cases text with ⟨rest, rfl, hsplit⟩ | ⟨rfl, hsplit⟩ | ⟨rest, rfl, hsplit⟩ | ⟨-, hsplit⟩ <;>
    rw [hsplit] at h ⊢
  · exact (stepsOf_slash _).trans (stepsOf_joinPieces hmarks)
  · exact stepsOf_dot_joinPieces h hmarks
  · exact stepsOf_dot_joinPieces h hmarks
  · exact stepsOf_joinPieces hmarks

/-- With the start of a name in front, its first pieces start where the name starts. -/
theorem head?_splitStart_append (h : pieces <+: Text.pieces '/' (splitStart text).2) :
    ((splitStart text).1 ++ Text.joinPieces '/' pieces).head? = some '/' ↔ text.head? = some '/' := by
  rcases splitStart_cases text with ⟨rest, rfl, hsplit⟩ | ⟨rfl, hsplit⟩ | ⟨rest, rfl, hsplit⟩ | ⟨hroot, hsplit⟩ <;>
    rw [hsplit] at h ⊢
  · exact iff_of_true rfl rfl
  · exact iff_of_false nofun nofun
  · exact iff_of_false nofun nofun
  · exact iff_of_false (head?_joinPieces_ne h hroot) hroot

/-- The directory of a name takes all its steps but the last, from where the name starts. -/
theorem steps_directory (h : directory? path = some directory) :
    steps directory = (steps path).dropLast ∧ isAbsolute directory = isAbsolute path := by
  unfold directory? at h
  simp only [steps, isAbsolute, ← stepsOf_splitStart path.toList]
  cases hlast : beforeLast? (Text.pieces '/' (splitStart path.toList).2) with
  | none =>
    simp only [hlast] at h
    split at h
    · next hstart =>
      obtain rfl := Option.some.inj h
      have hsteps : stepsOf (splitStart path.toList).2 = [] := beforeLast?_eq_none hlast
      have hroot := head?_splitStart_append (List.nil_prefix : [] <+: Text.pieces '/' (splitStart path.toList).2)
      rw [hstart] at hroot
      rw [hsteps, decide_eq_false (mt hroot.2 nofun)]
      exact ⟨rfl, rfl⟩
    · cases h
  | some before =>
    simp only [hlast] at h
    obtain rfl := Option.some.inj h
    obtain ⟨hbefore, hsteps⟩ := beforeLast?_eq_some hlast
    rw [String.toList_ofList, stepsOf_splitStart_append hbefore, hsteps,
      decide_eq_decide.2 (head?_splitStart_append hbefore)]
    exact ⟨rfl, rfl⟩

/-- A name without a directory takes no steps. -/
theorem steps_of_directory?_eq_none (h : directory? path = none) : steps path = [] := by
  unfold directory? at h
  rw [steps, ← stepsOf_splitStart]
  cases hlast : beforeLast? (Text.pieces '/' (splitStart path.toList).2) with
  | none => exact beforeLast?_eq_none hlast
  | some before => simp [hlast] at h

/-! ### Names inside a directory -/

/-- A relative name inside a directory takes the steps of the directory and then its own, from where the directory
starts. -/
theorem steps_inside (directory : String) (h : isAbsolute name = false) :
    steps (inside directory name) = steps directory ++ steps name ∧
      isAbsolute (inside directory name) = isAbsolute directory := by
  have hname : name.toList.head? ≠ some '/' := of_decide_eq_false h
  rw [inside, if_neg (by rw [h]; exact Bool.false_ne_true)]
  split
  · next hends =>
    rcases Bool.or_eq_true_iff.1 hends with hempty | hslash
    · obtain rfl := String.isEmpty_iff.1 hempty
      simp only [steps, isAbsolute, String.empty_append]
      exact ⟨rfl, by rw [decide_eq_false hname]; rfl⟩
    · -- A slash at the end of the directory is the one that separates.
      obtain ⟨front, hfront⟩ := List.getLast?_eq_some_iff.1 (of_decide_eq_true hslash)
      have hdirectory : stepsOf (front ++ ['/']) = stepsOf front := by
        rw [stepsOf_append, show stepsOf [] = [] from rfl, List.append_nil]
      simp only [steps, isAbsolute, String.toList_append, hfront, hdirectory, List.append_assoc,
        List.singleton_append, stepsOf_append, true_and]
      cases front <;> rfl
  · next hends =>
    rw [Bool.or_eq_true, not_or] at hends
    obtain ⟨c, rest, hdirectory⟩ := List.exists_cons_of_ne_nil fun hnil : directory.toList = [] =>
      hends.1 (String.isEmpty_iff.2 (String.toList_injective hnil))
    have hslash : "/".toList = ['/'] := rfl
    simp only [steps, isAbsolute, String.toList_append, hslash, List.append_assoc, List.singleton_append,
      stepsOf_append, true_and, hdirectory]
    rfl

/-- Inside the directory of a file, names lead where they say. -/
theorem resolves_inside (path name : String) : Resolves path name (inside ((directory? path).getD "") name) := by
  unfold Resolves
  split
  · next h => rw [inside, if_pos h]
  · next h =>
    obtain ⟨hsteps, habsolute⟩ := steps_inside ((directory? path).getD "") (Bool.not_eq_true _ ▸ h)
    rw [hsteps, habsolute]
    cases hdirectory : directory? path with
    | none =>
      rw [steps_of_directory?_eq_none hdirectory]
      exact ⟨rfl, fun hne => absurd rfl hne⟩
    | some directory =>
      obtain ⟨hfront, hstart⟩ := steps_directory hdirectory
      exact ⟨congrArg (· ++ steps name) hfront, fun _ => hstart⟩

end CecBus.FileName
