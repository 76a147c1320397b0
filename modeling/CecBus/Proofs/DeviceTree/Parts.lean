import CecBus.Proofs.DeviceTree.Relocation

/-! Parts of a document. Key paths act on documents: a joined path leads on from the place of the first one, and empty
segments lead nowhere. So a value in a document can be taken for a document of its own, and the same tree is read from
it. Main result: `Profile.pathsCompose`. -/

namespace CecBus.Profile

variable {p : Profile} {base : String} {value : Yaml.Value}

/-- A value stands at a path of its document and at the empty path of the document that it is by itself. -/
theorem samePlace_part (h : p.lookup base = some value) : Section.SamePlace ⟨p, base⟩ ⟨⟨value⟩, ""⟩ := h

/-- The same tree is read from a part of a document as from the document at the path of the part, or both fail, with
errors that differ in nothing but the paths they name. -/
theorem ofSection_part (h : p.lookup base = some value) :
    (∃ t, outcome (DeviceTree.ofSection ⟨p, base⟩) = .ok t ∧ outcome (DeviceTree.ofSection ⟨⟨value⟩, ""⟩) = .ok t) ∨
      ∃ e e', outcome (DeviceTree.ofSection ⟨p, base⟩) = .error e ∧
        outcome (DeviceTree.ofSection ⟨⟨value⟩, ""⟩) = .error e' ∧ e.pathless = e'.pathless := by
  have hsame := (samePlace_part h).outcome_ofSection
  cases hread : outcome (DeviceTree.ofSection ⟨p, base⟩) with
  | ok t =>
    rw [hread] at hsame
    exact .inl ⟨t, rfl, mapError_eq_ok.1 hsame.symm⟩
  | error e =>
    rw [hread] at hsame
    obtain ⟨e', he', hpathless⟩ := mapError_eq_error.1 hsame.symm
    exact .inr ⟨e, e', rfl, he', hpathless.symm⟩

/-- How key paths act on a document: the empty one leads to all of it, joined ones lead on one after the other, and empty
segments say nothing, wherever they stand. What a path leads to is read as a tree like the document at that path. -/
structure PathsCompose (p : Profile) : Prop where
  whole : p.lookup "" = some p.root
  joined (base key : String) : p.lookup (KeyPath.join base key) =
    (p.lookup base).bind fun value => (Profile.mk value).lookup key
  spaced (before after : List String) :
    p.lookup ("/".intercalate (before ++ "" :: after)) = p.lookup ("/".intercalate (before ++ after))
  part (base : String) (value : Yaml.Value) : p.lookup base = some value →
    (∃ t, outcome (DeviceTree.ofSection ⟨p, base⟩) = .ok t ∧ outcome (DeviceTree.ofSection ⟨⟨value⟩, ""⟩) = .ok t) ∨
      ∃ e e', outcome (DeviceTree.ofSection ⟨p, base⟩) = .error e ∧
        outcome (DeviceTree.ofSection ⟨⟨value⟩, ""⟩) = .error e' ∧ e.pathless = e'.pathless

theorem pathsCompose (p : Profile) : p.PathsCompose where
  whole := rfl
  joined := p.lookup_join
  spaced before after := by rw [lookup, KeyPath.names_intercalate_insert_empty, lookup]
  part _ _ := ofSection_part

end CecBus.Profile
