import Mathlib.Data.List.Induction
import CecBus.Profile.Section
import CecBus.Proofs.Text.Pieces

/-! Key paths as lists of names. Slashes at the seam of two paths do not count, so joining paths appends their names,
and looking a joined path up goes on from the place that the first one leads to (`Profile.lookup_join`). -/

namespace CecBus

namespace KeyPath

theorem names_toString (n : Nat) : names (toString n) = [toString n] := by
  have hdigits : ∀ c ∈ Nat.toDigits 10 n, ¬ c = '/' := by
    rintro c hc rfl
    exact absurd (Nat.isDigit_of_mem_toDigits (by decide) (by decide) hc) (by decide)
  have htext : (toString n).toList = Nat.toDigits 10 n := Nat.toList_repr
  rw [names, htext, Text.pieces_of_not_mem hdigits, List.filter_cons_of_pos (by simp [Nat.toDigits_ne_nil]), ← htext,
    List.filter_nil, List.map_singleton, String.ofList_toList]

theorem names_ofList_append (a b : List Char) :
    names (String.ofList (a ++ '/' :: b)) = names (String.ofList a) ++ names (String.ofList b) := by
  simp only [names, String.toList_ofList, Text.pieces_append, List.filter_append, List.map_append]

theorem names_append (base key : String) : names (base ++ ("/" ++ key)) = names base ++ names key := by
  have htext : base ++ ("/" ++ key) = String.ofList (base.toList ++ '/' :: key.toList) := by
    apply String.toList_injective
    simp
  rw [htext, names_ofList_append, String.ofList_toList, String.ofList_toList]

/-- The path of an item or of an entry with a number. -/
theorem names_item (key : String) (i : Nat) : names (key ++ "/" ++ toString i) = names key ++ [toString i] := by
  rw [String.append_assoc, names_append, names_toString]

@[simp] theorem names_empty : names "" = [] := rfl

/-- The names of segments with slashes between them are those of the segments, one after the other. -/
theorem names_intercalate (segments : List String) : names ("/".intercalate segments) = segments.flatMap names := by
  induction segments with
  | nil => rw [String.intercalate_nil, names_empty, List.flatMap_nil]
  | cons segment rest ih =>
    cases rest with
    | nil => rw [String.intercalate_singleton, List.flatMap_singleton]
    | cons next rest =>
      rw [String.intercalate_cons_cons, String.append_assoc, names_append, ih, ← List.flatMap_cons]

/-- An empty segment says nothing. -/
theorem names_intercalate_insert_empty (before after : List String) :
    names ("/".intercalate (before ++ "" :: after)) = names ("/".intercalate (before ++ after)) := by
  rw [names_intercalate, names_intercalate, List.flatMap_append, List.flatMap_cons, names_empty, List.nil_append,
    List.flatMap_append]

theorem names_dropWhile (text : List Char) :
    names (String.ofList (text.dropWhile (· = '/'))) = names (String.ofList text) := by
  induction text with
  | nil => rfl
  | cons c text ih =>
    by_cases hc : c = '/'
    · subst hc
      have hnames := names_ofList_append [] text
      rw [List.nil_append] at hnames
      rw [List.dropWhile_cons_of_pos (by simp), ih, hnames]
      rfl
    · rw [List.dropWhile_cons_of_neg (by simpa using hc)]

theorem names_dropEndSlashes (text : List Char) :
    names (String.ofList (dropEndSlashes text)) = names (String.ofList text) := by
  induction text using List.reverseRecOn with
  | nil => rfl
  | append_singleton text c ih =>
    rw [dropEndSlashes, List.reverse_append, List.reverse_singleton, List.singleton_append]
    by_cases hc : c = '/'
    · subst hc
      rw [List.dropWhile_cons_of_pos (by simp), names_ofList_append, ← ih]
      exact (List.append_nil _).symm
    · rw [List.dropWhile_cons_of_neg (by simpa using hc)]
      simp

/-- Slashes at the seam do not count. -/
theorem names_join (base key : String) : names (join base key) = names base ++ names key := by
  rw [join, names_ofList_append, names_dropEndSlashes, names_dropWhile, String.ofList_toList, String.ofList_toList]

theorem follow_cons {value : Yaml.Value} (name : String) (rest : List String) :
    follow value (name :: rest) = (step name value).bind fun place => follow place rest := rfl

theorem follow_append (value : Yaml.Value) (path rest : List String) :
    follow value (path ++ rest) = (follow value path).bind fun place => follow place rest := by
  rw [follow, List.foldlM_append]
  rfl

end KeyPath

/-- Looking a joined path up goes on from the place of the first one. -/
theorem Profile.lookup_join (p : Profile) (base key : String) :
    p.lookup (KeyPath.join base key) = (p.lookup base).bind fun place => KeyPath.follow place (KeyPath.names key) := by
  rw [lookup, KeyPath.names_join, KeyPath.follow_append]
  rfl

end CecBus
