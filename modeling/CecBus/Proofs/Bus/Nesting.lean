import CecBus.Proofs.Bus.Addresses
import CecBus.Proofs.DeviceTree.Relocation

/-! Documents with their fields under the common name. A document whose fields stand at the top and the one that has all
of it under `hdmicec` are messages of the same kind, and handling them comes to the same: every field that a message can
have is read alike in both, and what is added is read from the same place. Main result:
`nesting_makes_no_difference`. -/

namespace CecBus

/-! ### Paths in a nested document -/

namespace Profile

variable {p : Profile} {key : String}

/-- The document with all of it under the common name. -/
def nested (p : Profile) : Profile := ⟨.mapping [(.string "hdmicec", p.root)]⟩

theorem names_hdmicec : KeyPath.names "hdmicec" = ["hdmicec"] := by decide +kernel

theorem names_nestedPath (key : String) : KeyPath.names (nestedPath key) = "hdmicec" :: KeyPath.names key := by
  have hslash : "hdmicec/" = "hdmicec" ++ "/" := by decide +kernel
  rw [nestedPath, hslash, String.append_assoc, KeyPath.names_append, names_hdmicec, List.singleton_append]

theorem lookup_nested_nestedPath (p : Profile) (key : String) : p.nested.lookup (nestedPath key) = p.lookup key := by
  rw [lookup, names_nestedPath, KeyPath.follow_cons]
  rfl

theorem lookup_nestedPath (h : p.contains "hdmicec" = false) (key : String) : p.lookup (nestedPath key) = none := by
  have hnone : KeyPath.follow p.root ["hdmicec"] = none := by
    rw [← names_hdmicec]
    simpa [contains, lookup] using h
  rw [lookup, names_nestedPath, ← List.singleton_append, KeyPath.follow_append, hnone, Option.bind_none]

def fieldKeys : List String :=
  ["command", "initiator", "destination", "osd_name", "target", "state", "parameters", "parameters/status",
    "parameters/parent", "parameters/name", "event", "config"]

theorem head?_names_of_mem (h : key ∈ fieldKeys) : ∃ first rest, KeyPath.names key = first :: rest ∧
    first ≠ "hdmicec" := by
  have hall : ∀ key ∈ fieldKeys, (KeyPath.names key).head?.any (· ≠ "hdmicec") := by decide +kernel
  have hfirst := hall key h
  cases hnames : KeyPath.names key with
  | nil =>
    rw [hnames] at hfirst
    cases hfirst
  | cons first rest =>
    rw [hnames] at hfirst
    exact ⟨first, rest, rfl, by simpa using hfirst⟩

/-- At the top of a nested document there is nothing but the common name. -/
theorem lookup_nested (h : key ∈ fieldKeys) (p : Profile) : p.nested.lookup key = none := by
  obtain ⟨first, rest, hnames, hfirst⟩ := head?_names_of_mem h
  have hstep : KeyPath.step first p.nested.root = none := by
    simp [nested, KeyPath.step, KeyPath.valueOf?, Yaml.Value.same, Ne.symm hfirst]
  rw [lookup, hnames, KeyPath.follow_cons, hstep, Option.bind_none]

theorem toOption_text (p : Profile) (key : String) : (p.text key).toOption = (p.lookup key).bind textOf := by
  rw [text, read]
  cases p.lookup key with
  | none => rfl
  | some value => cases hv : textOf value <;> simp [hv, Except.toOption]

/-! ### Fields -/

theorem field?_nested (h : p.contains "hdmicec" = false) (hkey : key ∈ fieldKeys) : p.nested.field? key = p.field? key := by
  simp only [field?, toOption_text, lookup_nested_nestedPath, lookup_nested hkey, lookup_nestedPath h, Option.bind_none,
    Option.none_or, Option.or_none]

theorem field_nested (h : p.contains "hdmicec" = false) (hkey : key ∈ fieldKeys) : p.nested.field key = p.field key := by
  rw [field, field, field?_nested h hkey]

/-- The path of a field leads to the same value, whether there is one or not. -/
theorem samePlace_fieldPath (h : p.contains "hdmicec" = false) (hkey : key ∈ fieldKeys) :
    Section.SamePlace ⟨p.nested, p.nested.fieldPath key⟩ ⟨p, p.fieldPath key⟩ := by
  have hflat : p.fieldPath key = key := by
    rw [fieldPath, contains, lookup_nestedPath h]
    rfl
  change p.nested.lookup (p.nested.fieldPath key) = p.lookup (p.fieldPath key)
  rw [hflat, fieldPath, contains, lookup_nested_nestedPath]
  cases hvalue : p.lookup key with
  | none => exact lookup_nested hkey p
  | some value => exact (lookup_nested_nestedPath p key).trans hvalue

end Profile

theorem MessageKind.detect?_nested {p : Profile} (h : p.contains "hdmicec" = false) : detect? p.nested = detect? p := by
  have hkind : ∀ kind : MessageKind, kind.key ∈ Profile.fieldKeys := by
    intro kind
    cases kind <;> decide
  simp only [detect?, Profile.field?_nested h (hkind _)]

namespace Bus

variable {b : Bus} {p : Profile}

/-! ### Handling -/

theorem commandFrame_nested (h : p.contains "hdmicec" = false) (b : Bus) :
    b.commandFrame p.nested = b.commandFrame p := by
  have hfield : ∀ key ∈ Profile.fieldKeys, p.nested.field? key = p.field? key := fun _ => Profile.field?_nested h
  have htarget : ∀ destination, b.streamTarget? p.nested destination = b.streamTarget? p destination := by
    intro destination
    rw [streamTarget?, streamTarget?, hfield "target" (by decide)]
  have hparameters : ∀ initiator destination opcode,
      b.parameters p.nested initiator destination opcode = b.parameters p initiator destination opcode := by
    intro initiator destination opcode
    cases opcode <;> simp only [Bus.parameters, hfield "osd_name" (by decide), htarget]
  simp only [commandFrame, hparameters, Profile.field, hfield "command" (by decide), hfield "initiator" (by decide),
    hfield "destination" (by decide)]

/-- What a nested document has added is what the document itself has added. The faults differ in their paths. -/
theorem addDevice_nested (h : p.contains "hdmicec" = false) (b : Bus) :
    (b.addDevice p.nested).value.2 = (b.addDevice p).value.2 ∧
      (b.addDevice p.nested).value.1.toOption = (b.addDevice p).value.1.toOption := by
  unfold addDevice
  dsimp only
  rw [Profile.field_nested h (by decide)]
  cases b.tree.find? (p.field "parameters/parent") with
  | none => exact ⟨rfl, rfl⟩
  | some parent =>
    dsimp only
    split
    · exact ⟨rfl, rfl⟩
    · have hkey : "parameters" ∈ Profile.fieldKeys := by decide
      obtain ⟨htree, hresult⟩ := (Profile.samePlace_fieldPath h hkey).insertSection b.tree parent
      simp only [Logged.value_bind]
      generalize (b.tree.insertSection parent ⟨p.nested, p.nested.fieldPath "parameters"⟩).value = wrapped at *
      generalize (b.tree.insertSection parent ⟨p, p.fieldPath "parameters"⟩).value = flat at *
      obtain ⟨result, tree⟩ := wrapped
      obtain ⟨result', tree'⟩ := flat
      obtain rfl : tree = tree' := htree
      cases result with
      | ok id =>
        obtain rfl : result' = .ok id := mapError_eq_ok.1 hresult.symm
        exact ⟨rfl, rfl⟩
      | error e =>
        obtain ⟨e', rfl, -⟩ := mapError_eq_error.1 hresult.symm
        exact ⟨rfl, rfl⟩

theorem changeState_nested (h : p.contains "hdmicec" = false) (b : Bus) :
    (b.changeState p.nested).value.2 = (b.changeState p).value.2 ∧
      (b.changeState p.nested).value.1.toOption = (b.changeState p).value.1.toOption := by
  unfold changeState
  rw [Profile.field_nested h (by decide)]
  split
  · exact addDevice_nested h b
  · have hname : p.nested.field "parameters/name" = p.field "parameters/name" := Profile.field_nested h (by decide)
    have hsame : b.removeDevice p.nested = b.removeDevice p := by simp only [removeDevice, hname]
    rw [hsame]
    exact ⟨rfl, rfl⟩
  · exact ⟨rfl, rfl⟩
  · exact ⟨rfl, rfl⟩

theorem handled_nested (h : p.contains "hdmicec" = false) (b : Bus) (kind : MessageKind) :
    b.handled kind p.nested = b.handled kind p := by
  have hsame : (b.applyDocument kind p.nested).value.2 = (b.applyDocument kind p).value.2 ∧
      (b.applyDocument kind p.nested).value.1.toOption = (b.applyDocument kind p).value.1.toOption := by
    cases kind with
    | command =>
      simp only [applyDocument, commandFrame_nested h, and_self]
    | state => exact changeState_nested h b
    | event => exact ⟨rfl, rfl⟩
    | config => exact ⟨rfl, rfl⟩
  rw [handled, handled, hsame.1, hsame.2]

/-- A document without the common name and the one that has all of it under that name are of the same kind, and on every
bus the same frame goes out for them and the same bus is left, whatever the kind of message they come with. -/
theorem nesting_makes_no_difference (h : p.contains "hdmicec" = false) :
    MessageKind.detect? p.nested = MessageKind.detect? p ∧ ∀ (b : Bus) (kind : MessageKind),
      b.handled kind p.nested = b.handled kind p ∧ ∀ flat wrapped, Profile.ofBytes flat = .ok p →
        Profile.ofBytes wrapped = .ok p.nested → (b.handle kind wrapped).value = (b.handle kind flat).value := by
  refine ⟨MessageKind.detect?_nested h, fun b kind => ⟨handled_nested h b kind, fun flat wrapped hflat hwrapped => ?_⟩⟩
  rw [value_handle_of_ok hflat, value_handle_of_ok hwrapped, handled_nested h]

def playerGoes : Profile :=
  ⟨.mapping [(.string "state", .string "RemoveDevice"),
    (.string "parameters", .mapping [(.string "name", .string "Player")])]⟩

/-- Whether a value is that document. -/
def isPlayerGoes : Yaml.Value → Bool
  | .mapping [(.string state, .string action), (.string parameters, .mapping [(.string key, .string name)])] =>
    state = "state" && action = "RemoveDevice" && parameters = "parameters" && key = "name" && name = "Player"
  | _ => false

def isPlayerGoesNested : Yaml.Value → Bool
  | .mapping [(.string name, value)] => name = "hdmicec" && isPlayerGoes value
  | _ => false

theorem eq_of_isPlayerGoes {value : Yaml.Value} (h : isPlayerGoes value) : value = playerGoes.root := by
  unfold isPlayerGoes at h
  split at h
  · simp only [Bool.and_eq_true, decide_eq_true_eq] at h
    obtain ⟨⟨⟨⟨rfl, rfl⟩, rfl⟩, rfl⟩, rfl⟩ := h
    rfl
  · cases h

theorem eq_of_isPlayerGoesNested {value : Yaml.Value} (h : isPlayerGoesNested value) :
    value = playerGoes.nested.root := by
  unfold isPlayerGoesNested at h
  split at h
  · simp only [Bool.and_eq_true, decide_eq_true_eq] at h
    obtain ⟨rfl, hvalue⟩ := h
    rw [eq_of_isPlayerGoes hvalue]
    rfl
  · cases h

/-- A text that is read as a value is read as the profile of that value. -/
theorem ofBytes_eq_ok_of_any {payload : ByteArray} {is : Yaml.Value → Bool} (his : ∀ value, is value → value = p.root)
    (h : (Profile.ofBytes payload).toOption.any fun q => is q.root) : Profile.ofBytes payload = .ok p := by
  cases hq : Profile.ofBytes payload with
  | error e =>
    rw [hq] at h
    cases h
  | ok q =>
    rw [hq] at h
    have hroot := his q.root h
    cases q
    cases p
    exact congrArg _ (congrArg Profile.mk hroot)

theorem televisionBus_handle_nested :
    let flat := "\x7b\"state\":\"RemoveDevice\",\"parameters\":\x7b\"name\":\"Player\"\x7d\x7d".toUTF8
    let wrapped := ("\x7b\"hdmicec\":\x7b\"state\":\"RemoveDevice\"," ++
      "\"parameters\":\x7b\"name\":\"Player\"\x7d\x7d\x7d").toUTF8
    MessageKind.detect? playerGoes.nested = some .state ∧
      (televisionBus.handle .state wrapped).value = (televisionBus.handle .state flat).value ∧
        (televisionBus.handle .state wrapped).value.2.tree.count = 1 := by
  intro flat wrapped
  have hcontains : playerGoes.contains "hdmicec" = false := by decide +kernel
  have hflat : Profile.ofBytes flat = .ok playerGoes :=
    ofBytes_eq_ok_of_any (fun _ => eq_of_isPlayerGoes) (by decide +kernel)
  have hwrapped : Profile.ofBytes wrapped = .ok playerGoes.nested :=
    ofBytes_eq_ok_of_any (fun _ => eq_of_isPlayerGoesNested) (by decide +kernel)
  obtain ⟨hdetect, hhandled⟩ := nesting_makes_no_difference hcontains
  refine ⟨hdetect.trans (by decide +kernel), (hhandled televisionBus .state).2 flat wrapped hflat hwrapped, ?_⟩
  decide +kernel

end Bus

end CecBus
