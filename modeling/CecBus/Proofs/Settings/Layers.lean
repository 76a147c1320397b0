import Mathlib.Logic.Function.Basic
import CecBus.Proofs.Settings.Flags
import CecBus.Proofs.Settings.Resolving
import CecBus.Proofs.Text.Numeral
import CecBus.Settings.Loading

/-! The layers of the settings. A setting has the value that the highest of its layers gives: the command line, the
environment, the settings file, and what is usual. Messages are put together from the file and the command line. Names
that the file gives are taken from its directory, and no others. Main result: `exists_layered`. -/

namespace CecBus

/-- The value of the first layer that gives one. -/
def highest {α : Type} (layers : List (Option α)) (usual : α) : α := (layers.findSome? id).getD usual

def Numeral.IsWord (text : String) : Prop := ∃ n, Spells 10 text.toList n ∧ n < UInt64.size

def SettingsNote.source? : SettingsNote → Option Variable
  | overridden v _ | ignored v _ => some v
  | loaded _ | missing _ => none

def SettingsNote.isIgnored : SettingsNote → Bool
  | ignored _ _ => true
  | _ => false

namespace Settings

/-- What a settings file says, and the note on it. One that is missing says nothing. -/
inductive FileSays (path : String) : Except FileFault ByteArray → Overrides → SettingsNote → Prop
  | missing : FileSays path (.error .missing) {} (.missing path)
  | written {bytes : ByteArray} {text : String} {file : Overrides} (htext : String.fromUTF8? bytes = some text)
    (h : Overrides.ofText text = .ok file) : FileSays path (.ok bytes) file (.loaded path)

/-- A name that a settings file gives, taken from the directory of the file. -/
def placed (path name : String) : String := FileName.inside ((FileName.directory? path).getD "") name

/-- The settings come from layers, each from the highest that gives it. An interval on the command line has to fit into
64 bits. -/
structure Layered (path : String) (file : Overrides) (value : Variable → Option String) (flags : Flags)
    (s : Settings) : Prop where
  profile : s.profile = highest [flags.profile, value .profile, file.profile.map (placed path)] "profiles/tv.yaml"
  logLevel : s.logLevel = highest [flags.logLevel, value .logLevel, file.logLevel] "info"
  interval : (∀ t, flags.interval = some t → t.millis < UInt64.size) → s.interval.toNat =
    highest [flags.interval.map TimeSpan.millis, (value .interval).bind Numeral.word?,
      file.interval.map UInt64.toNat] 100
  claims : s.claims = highest [flags.claims, file.claims] true
  messages : s.messages = (file.messages.map (·.map (placed path))).getD [] ++ flags.messages

/-- The notes tell of the file first, and then of each variable that is set, in a fixed order: it was applied, or it was
ignored because an interval has to be a number. -/
structure Noted (note : SettingsNote) (value : Variable → Option String) (notes : List SettingsNote) : Prop where
  first : notes.head? = some note
  order : notes.tail.map SettingsNote.source? = (Variable.all.filter fun v => (value v).isSome).map some
  overridden_iff (v : Variable) (text : String) :
    .overridden v text ∈ notes ↔ value v = some text ∧ (v = .interval → Numeral.IsWord text)
  ignored_iff (v : Variable) (text : String) :
    .ignored v text ∈ notes ↔ value v = some text ∧ v = .interval ∧ ¬ Numeral.IsWord text
  ignored_once (text : String) : value .interval = some text → ¬ Numeral.IsWord text →
    notes.filter SettingsNote.isIgnored = [.ignored .interval text]

variable {path text : String} {content : Except FileFault ByteArray} {file : Overrides} {note : SettingsNote}
  {value : Variable → Option String} {flags : Flags} {arguments : List String} {options : Options}

/-! ### Values of layers -/

@[simp] theorem highest_nil {α : Type} (usual : α) : highest [] usual = usual := rfl

@[simp] theorem highest_cons {α : Type} (layer : Option α) (layers : List (Option α)) (usual : α) :
    highest (layer :: layers) usual = layer.getD (highest layers usual) := by
  cases layer <;> rfl

theorem word?_eq_some {n : Nat} :
    Numeral.word? text = some n ↔ Numeral.Spells 10 text.toList n ∧ n < UInt64.size := Numeral.below?_eq_some

theorem isSome_word? : (Numeral.word? text).isSome ↔ Numeral.IsWord text := by
  simp only [Option.isSome_iff_exists, word?_eq_some, Numeral.IsWord]

theorem word?_eq_none (h : ¬ Numeral.IsWord text) : Numeral.word? text = none :=
  Option.not_isSome_iff_eq_none.1 (mt isSome_word?.1 h)

theorem accepts_iff {v : Variable} : v.accepts text ↔ (v = .interval → Numeral.IsWord text) := by
  cases v with
  | profile | logLevel => exact iff_of_true rfl nofun
  | interval => exact isSome_word?.trans ⟨fun h _ => h, fun h => h rfl⟩

theorem toNat_getD_word (word : Option Nat) (below : UInt64) (h : ∀ n, word = some n → n < UInt64.size) :
    ((word.map UInt64.ofNat).getD below).toNat = word.getD below.toNat := by
  cases word with
  | none => rfl
  | some n => exact UInt64.toNat_ofNat_of_lt' (h n rfl)

/-! ### Loading -/

theorem load_eq (h : FileSays path content file note) (value : Variable → Option String) : load path content value =
    .ok ((({} : Settings).override (file.inside ((FileName.directory? path).getD ""))).override (.ofEnvironment value),
      note :: SettingsNote.ofEnvironment value) := by
  have hfile : ofFile path content = .ok (file.inside ((FileName.directory? path).getD ""), note) := by
    cases h with
    | missing => rfl
    | @written bytes text file htext h =>
      have hcontent : (Except.ok bytes : Except FileFault ByteArray).bind textOf = .ok text := by
        simp [Except.bind, textOf, htext]
      rw [ofFile, hcontent]
      simp only [h]
  rw [load, hfile]
  rfl

theorem layered (hoverrides : options.overrides = flags.overrides) (hmessages : options.messages = flags.messages) :
    Layered path file value flags (options.apply
      ((({} : Settings).override (file.inside ((FileName.directory? path).getD ""))).override
        (.ofEnvironment value))) := by
  rw [Options.apply, hoverrides, hmessages]
  constructor
  · simp only [highest_cons, highest_nil]
    rfl
  · simp only [highest_cons, highest_nil]
    rfl
  · intro hfits
    have hflag : ∀ n, flags.interval.map TimeSpan.millis = some n → n < UInt64.size := by
      simpa only [Option.map_eq_some_iff, forall_exists_index, and_imp, forall_apply_eq_imp_iff₂] using hfits
    have hvariable : ∀ n, (value .interval).bind Numeral.word? = some n → n < UInt64.size := fun n hn => by
      obtain ⟨text, -, htext⟩ := Option.bind_eq_some_iff.1 hn
      exact (word?_eq_some.1 htext).2
    have hfile : (file.interval.getD 100).toNat = (file.interval.map UInt64.toNat).getD 100 := by
      cases file.interval <;> rfl
    simp only [highest_cons, highest_nil, ← hfile, ← toNat_getD_word _ _ hvariable, ← toNat_getD_word _ _ hflag]
    rw [Option.map_map]
    rfl
  · simp only [highest_cons, highest_nil]
    rfl
  · rfl

/-! ### Notes -/

theorem map_source?_ofEnvironment (sources : List Variable) :
    (sources.filterMap fun v => (value v).map fun text =>
      if v.accepts text then SettingsNote.overridden v text else .ignored v text).map SettingsNote.source? =
    (sources.filter fun v => (value v).isSome).map some := by
  induction sources with
  | nil => rfl
  | cons v rest ih =>
    cases hv : value v with
    | none =>
      rw [List.filterMap_cons_none (by rw [hv]; rfl), List.filter_cons_of_neg (by simp [hv]), ih]
    | some text =>
      rw [List.filterMap_cons_some (by rw [hv]; rfl), List.filter_cons_of_pos (by simp [hv]), List.map_cons, ih,
        List.map_cons]
      show (if v.accepts text then SettingsNote.overridden v text else .ignored v text).source? :: _ = _
      split <;> rfl

theorem mem_all (v : Variable) : v ∈ Variable.all := by
  cases v <;> decide

/-- Each variable that is set has the note on it, and there are no others. -/
theorem mem_ofEnvironment {other : SettingsNote} : other ∈ SettingsNote.ofEnvironment value ↔
    ∃ v text, value v = some text ∧ (if v.accepts text then .overridden v text else .ignored v text) = other := by
  simp only [SettingsNote.ofEnvironment, List.mem_filterMap, mem_all, true_and, Option.map_eq_some_iff]

theorem overridden_mem {v : Variable} : .overridden v text ∈ SettingsNote.ofEnvironment value ↔
    value v = some text ∧ (v = .interval → Numeral.IsWord text) := by
  rw [mem_ofEnvironment, ← accepts_iff]
  constructor
  · rintro ⟨w, other, hw, hnote⟩
    split at hnote
    · next haccepts =>
      cases hnote
      exact ⟨hw, haccepts⟩
    · cases hnote
  · rintro ⟨hv, haccepts⟩
    exact ⟨v, text, hv, if_pos haccepts⟩

theorem ignored_mem {v : Variable} : .ignored v text ∈ SettingsNote.ofEnvironment value ↔
    value v = some text ∧ v = .interval ∧ ¬ Numeral.IsWord text := by
  rw [mem_ofEnvironment, ← Classical.not_imp, ← accepts_iff]
  constructor
  · rintro ⟨w, other, hw, hnote⟩
    split at hnote
    · cases hnote
    · next haccepts =>
      cases hnote
      exact ⟨hw, haccepts⟩
  · rintro ⟨hv, haccepts⟩
    exact ⟨v, text, hv, if_neg haccepts⟩

/-- Only the note on the interval can be that it is ignored. -/
theorem filter_isIgnored (h : value .interval = some text) (hword : ¬ Numeral.IsWord text) :
    (SettingsNote.ofEnvironment value).filter SettingsNote.isIgnored = [.ignored .interval text] := by
  have hnone : Numeral.word? text = none := word?_eq_none hword
  cases hprofile : value .profile <;> cases hlogLevel : value .logLevel <;>
    simp [SettingsNote.ofEnvironment, Variable.all, hprofile, hlogLevel, h, hnone, Variable.accepts,
      SettingsNote.isIgnored]

theorem noted (h : FileSays path content file note) (value : Variable → Option String) :
    Noted note value (note :: SettingsNote.ofEnvironment value) := by
  -- The note on the file is about no variable.
  have hnote : (∀ v text, .overridden v text ≠ note) ∧ (∀ v text, .ignored v text ≠ note) ∧ note.isIgnored = false := by
    cases h <;> exact ⟨nofun, nofun, rfl⟩
  constructor
  · rfl
  · exact map_source?_ofEnvironment Variable.all
  · intro v text
    rw [List.mem_cons, or_iff_right (hnote.1 v text), overridden_mem]
  · intro v text
    rw [List.mem_cons, or_iff_right (hnote.2.1 v text), ignored_mem]
  · intro text htext hword
    rw [List.filter_cons_of_neg (by simp [hnote.2.2]), filter_isIgnored htext hword]

/-! ### All layers -/

/-- An interval that is no number says nothing, as if the variable was not set. -/
theorem ofEnvironment_update (h : value .interval = some text) (hword : ¬ Numeral.IsWord text) :
    Overrides.ofEnvironment (Function.update value .interval none) = Overrides.ofEnvironment value := by
  simp [Overrides.ofEnvironment, h, word?_eq_none hword]

/-- With a settings file, an environment and a command line, every setting comes from the highest layer that gives it,
names in the file lead where they say from its directory, and the notes tell which variables were applied. An interval
that is no number leaves the settings as they are without it. -/
theorem exists_layered (hfile : FileSays path content file note) (value : Variable → Option String)
    (hline : CommandLine.parse arguments = .ok (.emulate options)) :
    ∃ flags loaded notes, CommandLine.Says arguments flags ∧ load path content value = .ok (loaded, notes) ∧
      Layered path file value flags (options.apply loaded) ∧ Noted note value notes ∧
      (∀ name, FileName.Resolves path name (placed path name)) ∧
      ∀ text, value .interval = some text → ¬ Numeral.IsWord text →
        ∃ others, load path content (Function.update value .interval none) = .ok (loaded, others) := by
  obtain ⟨flags, hsays, hoverrides, hmessages⟩ := CommandLine.exists_says_of_parse hline
  refine ⟨flags, _, _, hsays, load_eq hfile value, layered hoverrides hmessages, noted hfile value,
    FileName.resolves_inside path, fun text htext hword => ?_⟩
  rw [← ofEnvironment_update htext hword]
  exact ⟨_, load_eq hfile _⟩

def televisionText : String :=
  "\x7b\"emulator\":\x7b\"profile\":\"tv.yaml\",\"log_level\":\"debug\",\"messages\":[\"a.yaml\",\"/b.yaml\"]\x7d\x7d"

def television : Overrides :=
  { profile := some "tv.yaml", logLevel := some "debug", messages := some ["a.yaml", "/b.yaml"] }

/-- An environment whose interval is no number. -/
def soon : Variable → Option String
  | .profile => none
  | .logLevel => some "trace"
  | .interval => some "soon"

theorem television_layered : ∃ options loaded notes,
    FileSays "etc/emu.yaml" (.ok televisionText.toUTF8) television (.loaded "etc/emu.yaml") ∧
    CommandLine.parse ["--interval", "1s", "--message=c.yaml"] = .ok (.emulate options) ∧
    load "etc/emu.yaml" (.ok televisionText.toUTF8) soon = .ok (loaded, notes) ∧
    (options.apply loaded).profile = "etc/tv.yaml" ∧ (options.apply loaded).logLevel = "trace" ∧
    (options.apply loaded).interval.toNat = 1000 ∧ (options.apply loaded).claims = true ∧
    (options.apply loaded).messages = ["etc/a.yaml", "/b.yaml", "c.yaml"] ∧
    .overridden .logLevel "trace" ∈ notes ∧ notes.filter SettingsNote.isIgnored = [.ignored .interval "soon"] := by
  have htext : String.fromUTF8? televisionText.toUTF8 = some televisionText := by decide +kernel
  have hfile : FileSays "etc/emu.yaml" (.ok televisionText.toUTF8) television (.loaded "etc/emu.yaml") :=
    .written htext (by decide +kernel)
  have hline : CommandLine.parse ["--interval", "1s", "--message=c.yaml"] =
      .ok (.emulate { overrides := { interval := some 1000 }, messages := ["c.yaml"] }) := by decide +kernel
  have hword : ¬ Numeral.IsWord "soon" := mt isSome_word?.2 (by decide)
  obtain ⟨flags, loaded, notes, hsays, hload, hlayered, hnoted, -⟩ := exists_layered hfile soon hline
  have hprofile : flags.profile = none := Option.toList_eq_nil_iff.1 hsays.profile.symm
  have hlogLevel : flags.logLevel = none := Option.toList_eq_nil_iff.1 hsays.logLevel.symm
  have hinterval : flags.interval = some ⟨1, 0⟩ := by
    have hvalues : [some ⟨1, 0⟩] = flags.interval.toList.map some := hsays.interval
    cases h : flags.interval <;> simp_all
  have hclaims : flags.claims = none := by
    have hvalues : [] = flags.claims.toList.map some := hsays.claims
    cases h : flags.claims <;> simp_all
  refine ⟨_, loaded, notes, hfile, hline, hload, ?_, ?_, ?_, ?_, ?_, (hnoted.overridden_iff _ _).2 ⟨rfl, nofun⟩,
    hnoted.ignored_once "soon" rfl hword⟩
  · rw [hlayered.profile, hprofile]
    decide
  · rw [hlayered.logLevel, hlogLevel]
    rfl
  · rw [hlayered.interval, hinterval]
    · rfl
    · rw [hinterval]
      rintro _ ⟨⟩
      decide
  · rw [hlayered.claims, hclaims]
    rfl
  · rw [hlayered.messages, ← hsays.messages]
    decide
end Settings

end CecBus
