import Mathlib.Tactic.Common
import CecBus.Text.Pieces

/-! Text cut at a mark. The first piece is what stands in front of the first mark, no piece has a mark in it, and the
pieces of both sides of a mark are those of the whole. -/

namespace CecBus.Text

variable {mark : Char} {text piece : List Char}

theorem pieces_ne_nil (mark : Char) (text : List Char) : pieces mark text ≠ [] := by
  cases text with
  | nil => exact List.cons_ne_nil _ _
  | cons c rest =>
    rw [pieces]
    split
    · exact List.cons_ne_nil _ _
    · split <;> exact List.cons_ne_nil _ _

theorem pieces_of_not_mem {mark : Char} {text : List Char} (h : ∀ c ∈ text, ¬ c = mark) :
    pieces mark text = [text] := by
  induction text with
  | nil => rfl
  | cons c rest ih =>
    rw [List.forall_mem_cons] at h
    rw [pieces, if_neg h.1, ih h.2]

theorem pieces_append (mark : Char) (a b : List Char) :
    pieces mark (a ++ mark :: b) = pieces mark a ++ pieces mark b := by
  induction a with
  | nil => simp [pieces]
  | cons c a ih =>
    rw [List.cons_append, pieces, pieces, ih]
    by_cases hc : c = mark
    · rw [if_pos hc, if_pos hc, List.cons_append]
    · rw [if_neg hc, if_neg hc]
      cases ha : pieces mark a with
      | nil => exact absurd ha (pieces_ne_nil mark a)
      | cons piece others => rfl

theorem head?_pieces (mark : Char) (text : List Char) :
    (pieces mark text).head? = some (text.takeWhile (· ≠ mark)) := by
  induction text with
  | nil => rfl
  | cons c rest ih =>
    rw [pieces]
    by_cases hc : c = mark
    · simp [hc]
    · rw [if_neg hc, List.takeWhile_cons_of_pos (by simpa using hc)]
      cases hrest : pieces mark rest with
      | nil => exact absurd hrest (pieces_ne_nil mark rest)
      | cons piece others =>
        rw [hrest, List.head?_cons, Option.some.injEq] at ih
        rw [List.head?_cons, ih]

theorem mark_not_mem_of_mem_pieces (h : piece ∈ pieces mark text) : mark ∉ piece := by
  induction text generalizing piece with
  | nil =>
    rw [List.mem_singleton.1 h]
    exact List.not_mem_nil
  | cons c rest ih =>
    rw [pieces] at h
    by_cases hc : c = mark
    · rw [if_pos hc] at h
      rcases List.mem_cons.1 h with rfl | h
      · exact List.not_mem_nil
      · exact ih h
    · rw [if_neg hc] at h
      cases hrest : pieces mark rest with
      | nil => exact absurd hrest (pieces_ne_nil mark rest)
      | cons first others =>
        rw [hrest] at h ih
        rcases List.mem_cons.1 h with rfl | h
        · rw [List.mem_cons, not_or]
          exact ⟨Ne.symm hc, ih List.mem_cons_self⟩
        · exact ih (List.mem_cons_of_mem _ h)

end CecBus.Text
