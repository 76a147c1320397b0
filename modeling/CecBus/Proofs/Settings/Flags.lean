import Mathlib.Tactic.Common
import CecBus.CommandLine

/-! What a command line says about the settings. Its arguments give values to options (`given`), and these values alone
decide what its options say, whatever else is on the line and in whichever order. Reading goes argument by argument, so
one step is described first (`Step`) and then a whole line (`Steps`). Main result: `exists_says_of_parse`. -/

namespace CecBus

/-- What a command line can say about the settings. -/
structure Flags where
  profile : Option String
  logLevel : Option String
  interval : Option TimeSpan
  claims : Option Bool
  messages : List String

/-- What flags hold: of an interval the milliseconds, of which the lowest 64 bits count. -/
def Flags.overrides (flags : Flags) : Overrides :=
  { profile := flags.profile
    logLevel := flags.logLevel
    interval := flags.interval.map fun t => UInt64.ofNat t.millis
    claims := flags.claims }

namespace CommandLine

/-- The values that arguments give to options, in order. A word is the value of the option that waits for one. -/
def given : Option ValueOption → List String → List (ValueOption × String)
  | _, [] => []
  | waiting, text :: rest =>
    match Argument.ofText text with
    | .separator => []
    | .long name (some value) => ((valueOptions.lookup name).map (·, value)).toList ++ given none rest
    | .long name none => given (valueOptions.lookup name) rest
    | .short _ => given none rest
    | .word value => (waiting.map (·, value)).toList ++ given none rest

def select (o : ValueOption) (values : List (ValueOption × String)) : List String :=
  (values.filter (·.1 = o)).map (·.2)

/-- The values that a command line gives to one option, in order. -/
def valuesOf (o : ValueOption) (arguments : List String) : List String := select o (given none arguments)

/-- A command line says something about the settings: each option but that of messages comes at most once, and a value
can be read as what the option takes. -/
structure Says (arguments : List String) (flags : Flags) : Prop where
  profile : valuesOf .profile arguments = flags.profile.toList
  logLevel : valuesOf .logLevel arguments = flags.logLevel.toList
  interval : (valuesOf .interval arguments).map TimeSpan.ofText? = flags.interval.toList.map some
  claims : (valuesOf .claim arguments).map truth? = flags.claims.toList.map some
  messages : valuesOf .message arguments = flags.messages

def State.waiting (s : State) : Option ValueOption := s.pending.map (·.2)

/-- The option that waits is one that its name stands for. -/
def State.Waits (s : State) : Prop := ∀ name o, s.pending = some (name, o) → valueOptions.lookup name = some o

/-- What one argument does: it says nothing about the settings, or an option takes a value. An option that comes only
once was not there before. -/
inductive Step (s : State) : List (ValueOption × String) → State → Prop
  | quiet {s' : State} (hoverrides : s'.options.overrides = s.options.overrides)
    (hmessages : s'.options.messages = s.options.messages) (hgiven : s.given ⊆ s'.given) : Step s [] s'
  | takes {s' : State} {name : String} {o : ValueOption} {value : String} (hname : valueOptions.lookup name = some o)
    (htake : o.take? s.options value = some s'.options) (hgiven : s.given ⊆ s'.given)
    (honce : o.isRepeatable = false → name ∉ s.given ∧ name ∈ s'.given) : Step s [(o, value)] s'

/-- Reading goes on behind an argument that does a step, and its values are those that it gives in front of the
others. -/
structure Advances (s : State) (text : String) (s' : State) : Prop where
  waits : s'.Waits
  exists_step : ∃ front, Step s front s' ∧ ∀ rest, given s.waiting (text :: rest) = front ++ given s'.waiting rest

/-- What arguments do one after the other, with all values they give. -/
inductive Steps : State → List (ValueOption × String) → State → Prop
  | nil (s : State) : Steps s [] s
  | cons {s s' s'' : State} {front values : List (ValueOption × String)} (hstep : Step s front s')
    (h : Steps s' values s'') : Steps s (front ++ values) s''

variable {s s' : State} {text name value : String} {value? : Option String} {o : ValueOption} {options : Options}
  {arguments rest : List String} {values : List (ValueOption × String)}

theorem select_append (o : ValueOption) (front values : List (ValueOption × String)) :
    select o (front ++ values) = select o front ++ select o values := by
  rw [select, List.filter_append, List.map_append]
  rfl

@[simp] theorem select_singleton (o other : ValueOption) (value : String) :
    select o [(other, value)] = if other = o then [value] else [] := by
  by_cases h : other = o <;> simp [select, h]

theorem given_joined {waiting : Option ValueOption} (hform : Argument.ofText text = .long name (some value))
    (hname : valueOptions.lookup name = some o) :
    given waiting (text :: rest) = [(o, value)] ++ given none rest := by
  rw [given, hform]
  simp only [hname]
  rfl

theorem given_apart {waiting : Option ValueOption} (hform : Argument.ofText text = .long name none) :
    given waiting (text :: rest) = given (valueOptions.lookup name) rest := by
  rw [given, hform]

theorem given_short {waiting : Option ValueOption} {letter : Char} (hform : Argument.ofText text = .short letter) :
    given waiting (text :: rest) = given none rest := by
  rw [given, hform]

theorem given_word (hform : Argument.ofText text = .word value) :
    given (some o) (text :: rest) = [(o, value)] ++ given none rest := by
  rw [given, hform]
  rfl

/-! ### One argument -/

theorem bind_eq_ok {α β ε : Type} {x : Except ε α} {f : α → Except ε β} {b : β} :
    x >>= f = .ok b ↔ ∃ a, x = .ok a ∧ f a = .ok b := by
  cases x with
  | error e => exact iff_of_false nofun fun ⟨_, h, _⟩ => nomatch h
  | ok a => exact ⟨fun h => ⟨a, rfl, h⟩, fun ⟨_, ha, h⟩ => by cases ha; exact h⟩

theorem settled_eq_ok : s.settled = .ok s' ↔ s.pending = none ∧ s = s' := by
  unfold State.settled
  split <;> simp_all

theorem mark_eq_ok : s.mark name = .ok s' ↔
    name ∉ s.given ∧ { s with given := name :: s.given, pending := none } = s' := by
  unfold State.mark
  split <;> simp_all

theorem take_eq_ok (marked : State) (h : (match o.take? marked.options value with
      | some options => pure { marked with options }
      | none => throw (.badValue name value) : Except UsageError State) = .ok s') :
    o.take? marked.options value = some s'.options ∧ s'.pending = marked.pending ∧ s'.given = marked.given := by
  split at h
  · next options hoptions =>
    cases h
    exact ⟨hoptions, rfl, rfl⟩
  · cases h

theorem give_eq_ok (h : s.give name o value = .ok s') : o.take? s.options value = some s'.options ∧ s'.pending = none ∧
    s.given ⊆ s'.given ∧ (o.isRepeatable = false → name ∉ s.given ∧ name ∈ s'.given) := by
  unfold State.give at h
  split at h
  · next hrepeatable =>
    obtain ⟨htake, hpending, hgiven⟩ := take_eq_ok { s with pending := none } h
    refine ⟨htake, hpending, hgiven ▸ fun _ => id, fun hsingle => ?_⟩
    rw [hrepeatable] at hsingle
    cases hsingle
  · obtain ⟨marked, hmark, htake⟩ := bind_eq_ok.1 h
    obtain ⟨hfresh, rfl⟩ := mark_eq_ok.1 hmark
    obtain ⟨htake, hpending, hgiven⟩ := take_eq_ok _ htake
    rw [hgiven]
    exact ⟨htake, hpending, List.subset_cons_self _ _, fun _ => ⟨hfresh, List.mem_cons_self⟩⟩

/-- An option without a value says nothing about the settings, and asks for something else or lets reading go on. -/
theorem switch_eq_ok {o : SwitchOption} {result : State ⊕ Request} (h : s.switch name o = .ok result) :
    s.pending = none ∧ (∀ s', result = .inl s' → s'.pending = none ∧ Step s [] s') ∧
      ∀ options, result ≠ .inr (.emulate options) := by
  cases o with
  | help | version =>
    obtain ⟨settled, hsettled, hresult⟩ := bind_eq_ok.1 h
    cases hresult
    refine ⟨(settled_eq_ok.1 hsettled).1, ?_, ?_⟩
    · rintro s' ⟨⟩
    · rintro options ⟨⟩
  | dumpJson | hold =>
    obtain ⟨settled, hsettled, hmarked⟩ := bind_eq_ok.1 h
    obtain ⟨marked, hmark, hresult⟩ := bind_eq_ok.1 hmarked
    obtain ⟨hpending, rfl⟩ := settled_eq_ok.1 hsettled
    obtain ⟨-, rfl⟩ := mark_eq_ok.1 hmark
    cases hresult
    refine ⟨hpending, ?_, ?_⟩
    · rintro s' ⟨⟩
      exact ⟨rfl, .quiet rfl rfl (List.subset_cons_self _ _)⟩
    · rintro options ⟨⟩

theorem waits_of_none (h : s.pending = none) : s.Waits := by
  intro name o hpending
  rw [h] at hpending
  cases hpending

/-- The value of an option is taken, and after it no option waits. -/
theorem step_of_give (hname : valueOptions.lookup name = some o) (h : s.give name o value = .ok s') :
    s'.Waits ∧ s'.waiting = none ∧ Step s [(o, value)] s' := by
  obtain ⟨htake, hpending, hgiven, honce⟩ := give_eq_ok h
  exact ⟨waits_of_none hpending, by rw [State.waiting, hpending]; rfl, .takes hname htake hgiven honce⟩

/-- An option that is written out is a switch, or it has its value with it, or it waits for it. -/
theorem advances_of_long (h : s.long text name value? = .ok (.inl s'))
    (hform : Argument.ofText text = .long name value?) : Advances s text s' := by
  unfold State.long at h
  cases hname : valueOptions.lookup name with
  | none =>
    rw [hname] at h
    cases hswitch : switchOptions.lookup name with
    | none =>
      rw [hswitch] at h
      cases h
    | some o =>
      rw [hswitch] at h
      cases value? with
      | some value => cases h
      | none =>
        obtain ⟨-, hquiet, -⟩ := switch_eq_ok h
        obtain ⟨hpending, hstep⟩ := hquiet s' rfl
        refine ⟨waits_of_none hpending, [], hstep, fun rest => ?_⟩
        rw [given_apart hform, hname, State.waiting, hpending]
        rfl
  | some o =>
    rw [hname] at h
    cases value? with
    | some value =>
      obtain ⟨settled, hsettled, hgives⟩ := bind_eq_ok.1 h
      obtain ⟨taken, hgive, hresult⟩ := bind_eq_ok.1 hgives
      cases hresult
      obtain ⟨-, rfl⟩ := settled_eq_ok.1 hsettled
      obtain ⟨hwaits, hwaiting, hstep⟩ := step_of_give hname hgive
      exact ⟨hwaits, _, hstep, fun rest => by rw [given_joined hform hname, hwaiting]⟩
    | none =>
      obtain ⟨settled, hsettled, hresult⟩ := bind_eq_ok.1 h
      cases hresult
      obtain ⟨-, rfl⟩ := settled_eq_ok.1 hsettled
      refine ⟨fun other o' hpending => ?_, [], .quiet rfl rfl fun _ => id, fun rest => ?_⟩
      · cases hpending
        exact hname
      · rw [given_apart hform, hname]
        rfl

theorem advances_of_short {letter : Char} (h : s.short text letter = .ok (.inl s'))
    (hform : Argument.ofText text = .short letter) : Advances s text s' := by
  unfold State.short at h
  split at h
  · obtain ⟨-, hquiet, -⟩ := switch_eq_ok h
    obtain ⟨hpending, hstep⟩ := hquiet s' rfl
    refine ⟨waits_of_none hpending, [], hstep, fun rest => ?_⟩
    rw [given_short hform, State.waiting, hpending]
    rfl
  · cases h

theorem advances_of_word (hs : s.Waits) (h : s.word value = .ok (.inl s'))
    (hform : Argument.ofText text = .word value) : Advances s text s' := by
  unfold State.word at h
  cases hpending : s.pending with
  | none =>
    rw [hpending] at h
    cases h
  | some waiting =>
    obtain ⟨name, o⟩ := waiting
    rw [hpending] at h
    simp only at h
    cases hgive : s.give name o value with
    | error e =>
      rw [hgive] at h
      cases h
    | ok taken =>
      rw [hgive] at h
      cases h
      obtain ⟨hwaits, hwaiting, hstep⟩ := step_of_give (hs name o hpending) hgive
      refine ⟨hwaits, _, hstep, fun rest => ?_⟩
      rw [State.waiting, hpending, hwaiting]
      exact given_word hform

theorem advances_of_take (hs : s.Waits) (hseparator : Argument.ofText text ≠ .separator)
    (h : s.take text = .ok (.inl s')) : Advances s text s' := by
  unfold State.take at h
  cases hform : Argument.ofText text with
  | separator => exact absurd hform hseparator
  | long name value? =>
    rw [hform] at h
    exact advances_of_long h hform
  | short letter =>
    rw [hform] at h
    exact advances_of_short h hform
  | word value =>
    rw [hform] at h
    exact advances_of_word hs h hform

theorem take_ne_emulate : s.take text ≠ .ok (.inr (.emulate options)) := by
  intro h
  unfold State.take at h
  split at h
  · cases h
  · unfold State.long at h
    split at h
    · obtain ⟨_, _, hgives⟩ := bind_eq_ok.1 h
      obtain ⟨_, _, hresult⟩ := bind_eq_ok.1 hgives
      cases hresult
    · obtain ⟨_, _, hresult⟩ := bind_eq_ok.1 h
      cases hresult
    · cases h
    · exact (switch_eq_ok h).2.2 options rfl
    · cases h
  · unfold State.short at h
    split at h
    · exact (switch_eq_ok h).2.2 options rfl
    · cases h
  · unfold State.word at h
    split at h
    · next name o _ =>
      cases hgive : s.give name o _ <;> rw [hgive] at h <;> cases h
    · cases h

/-! ### A whole line -/

/-- A line that asks for an emulation has been read step by step, with all the values it gives. -/
theorem exists_steps_of_parseFrom (hs : s.Waits) (h : parseFrom s arguments = .ok (.emulate options)) :
    ∃ s', Steps s (given s.waiting arguments) s' ∧ s'.options = options := by
  induction arguments generalizing s with
  | nil =>
    unfold parseFrom at h
    obtain ⟨settled, hsettled, hresult⟩ := bind_eq_ok.1 h
    cases hresult
    obtain ⟨-, rfl⟩ := settled_eq_ok.1 hsettled
    exact ⟨s, .nil s, rfl⟩
  | cons text rest ih =>
    unfold parseFrom at h
    split at h
    · next hform =>
      cases rest with
      | nil =>
        obtain ⟨settled, hsettled, hresult⟩ := bind_eq_ok.1 h
        cases hresult
        obtain ⟨-, rfl⟩ := settled_eq_ok.1 hsettled
        refine ⟨s, ?_, rfl⟩
        rw [given, hform]
        exact .nil s
      | cons other rest => cases h
    · next hform =>
      obtain ⟨result, htake, hrest⟩ := bind_eq_ok.1 h
      cases result with
      | inl s' =>
        obtain ⟨hwaits, front, hstep, hgiven⟩ := advances_of_take hs hform htake
        obtain ⟨s'', hsteps, hoptions⟩ := ih hwaits hrest
        refine ⟨s'', ?_, hoptions⟩
        rw [hgiven]
        exact .cons hstep hsteps
      | inr request =>
        cases hrest
        exact absurd htake take_ne_emulate

/-! ### Settings that come at most once -/

/-- What an option leaves as it was: all that belongs to others. -/
structure ValueOption.Keeps (o : ValueOption) (before after : Options) : Prop where
  profile : o ≠ .profile → after.overrides.profile = before.overrides.profile
  logLevel : o ≠ .logLevel → after.overrides.logLevel = before.overrides.logLevel
  interval : o ≠ .interval → after.overrides.interval = before.overrides.interval
  claims : o ≠ .claim → after.overrides.claims = before.overrides.claims
  messages : o ≠ .message → after.messages = before.messages
  replaced : after.overrides.messages = before.overrides.messages

theorem keeps_of_take? {before after : Options} (h : o.take? before value = some after) : o.Keeps before after := by
  cases o with
  | logLevel | tx =>
    cases h
    constructor <;> simp
  | profile | config | message | interval | claim =>
    obtain ⟨_, -, rfl⟩ := Option.map_eq_some_iff.1 h
    constructor <;> simp

/-- A setting that a command line can give: the option that takes it, how a value of the option is read, and where it is
kept. No other option changes it. -/
structure Setting (α : Type) where
  option : ValueOption
  name : String
  read : String → Option α
  field : Overrides → Option α
  single : option.isRepeatable = false
  eq_name {other : String} : valueOptions.lookup other = some option → other = name
  takes {before after : Options} {value : String} : option.take? before value = some after →
    ∃ a, read value = some a ∧ field after.overrides = some a
  keeps {o : ValueOption} {before after : Options} {value : String} : o ≠ option → o.take? before value = some after →
    field after.overrides = field before.overrides

theorem mem_of_lookup {α β : Type} [BEq α] [LawfulBEq α] {l : List (α × β)} {a : α} {b : β} (h : l.lookup a = some b) :
    (a, b) ∈ l := by
  obtain ⟨front, rest, rfl, -⟩ := List.lookup_eq_some_iff.1 h
  exact List.mem_append_right _ List.mem_cons_self

namespace Setting

variable {α : Type}

/-- The device profile. -/
def profile : Setting String where
  option := .profile
  name := "profile"
  read := fileName?
  field := Overrides.profile
  single := rfl
  eq_name h := by simpa [valueOptions] using mem_of_lookup h
  takes h := by
    obtain ⟨name, hname, rfl⟩ := Option.map_eq_some_iff.1 h
    exact ⟨name, hname, rfl⟩
  keeps hne h := (keeps_of_take? h).profile hne

/-- The level of the log. -/
def logLevel : Setting String where
  option := .logLevel
  name := "log-level"
  read := some
  field := Overrides.logLevel
  single := rfl
  eq_name h := by simpa [valueOptions] using mem_of_lookup h
  takes h := ⟨_, rfl, by cases h; rfl⟩
  keeps hne h := (keeps_of_take? h).logLevel hne

/-- The interval between messages. -/
def interval : Setting UInt64 where
  option := .interval
  name := "interval"
  read := interval?
  field := Overrides.interval
  single := rfl
  eq_name h := by simpa [valueOptions] using mem_of_lookup h
  takes h := by
    obtain ⟨n, hn, rfl⟩ := Option.map_eq_some_iff.1 h
    exact ⟨n, hn, rfl⟩
  keeps hne h := (keeps_of_take? h).interval hne

/-- Whether the address of a television is claimed. -/
def claims : Setting Bool where
  option := .claim
  name := "claim-logical-address"
  read := truth?
  field := Overrides.claims
  single := rfl
  eq_name h := by simpa [valueOptions] using mem_of_lookup h
  takes h := by
    obtain ⟨b, hb, rfl⟩ := Option.map_eq_some_iff.1 h
    exact ⟨b, hb, rfl⟩
  keeps hne h := (keeps_of_take? h).claims hne

/-- A setting is there at the end if it was there before, or else if its option takes a value. Its option is noted as
given where it is there, so that no second value comes. -/
theorem gathers (x : Setting α) (h : Steps s values s')
    (hmarked : (x.field s.options.overrides).isSome → x.name ∈ s.given) :
    ∃ found, (select x.option values).map x.read = found.map some ∧
      (x.field s.options.overrides).toList ++ found = (x.field s'.options.overrides).toList := by
  induction h with
  | nil s => exact ⟨[], rfl, List.append_nil _⟩
  | @cons s s' s'' front values hstep _ ih =>
    cases hstep with
    | quiet hoverrides _ hgiven =>
      rw [hoverrides] at ih
      exact ih fun hsome => hgiven (hmarked hsome)
    | @takes _ name o value hname htake hgiven honce =>
      rw [select_append, select_singleton]
      by_cases ho : o = x.option
      · subst ho
        obtain ⟨hfresh, hnoted⟩ := honce x.single
        rw [x.eq_name hname] at hfresh hnoted
        obtain ⟨a, hread, hfield⟩ := x.takes htake
        obtain ⟨found, hfound, hfinal⟩ := ih fun _ => hnoted
        have hbefore : x.field s.options.overrides = none :=
          Option.not_isSome_iff_eq_none.1 (mt hmarked hfresh)
        refine ⟨a :: found, by simp [hread, hfound], ?_⟩
        rw [← hfinal, hbefore, hfield]
        rfl
      · rw [if_neg ho, List.nil_append]
        rw [x.keeps ho htake] at ih
        exact ih fun hsome => hgiven (hmarked hsome)

/-- On a whole line, the values of its option are read as the setting, if it is there, and there are no others. -/
theorem map_read_valuesOf (x : Setting α) (hfield : x.field {} = none) (h : parse arguments = .ok (.emulate options)) :
    (valuesOf x.option arguments).map x.read = (x.field options.overrides).toList.map some := by
  obtain ⟨s', hsteps, rfl⟩ := exists_steps_of_parseFrom (waits_of_none rfl) h
  obtain ⟨found, hfound, hfinal⟩ := x.gathers hsteps fun hsome => by
    rw [show x.field _ = none from hfield] at hsome
    cases hsome
  rw [show x.field _ = none from hfield, Option.toList_none, List.nil_append] at hfinal
  rw [← hfinal, ← hfound]
  rfl

end Setting

/-! ### Messages, and all settings -/

theorem fileName?_eq_some {found : String} (h : fileName? value = some found) : found = value := by
  unfold fileName? at h
  split at h <;> simp_all

theorem Steps.messages (h : Steps s values s') :
    s'.options.messages = s.options.messages ++ select .message values ∧
      s'.options.overrides.messages = s.options.overrides.messages := by
  induction h with
  | nil s => exact ⟨(List.append_nil _).symm, rfl⟩
  | @cons s s' s'' front values hstep _ ih =>
    cases hstep with
    | quiet hoverrides hmessages _ =>
      rw [hoverrides, hmessages] at ih
      exact ih
    | @takes _ name o value hname htake hgiven honce =>
      rw [select_append, select_singleton, ih.1, ih.2, ← List.append_assoc]
      by_cases ho : o = .message
      · subst ho
        obtain ⟨taken, htaken, hafter⟩ := Option.map_eq_some_iff.1 htake
        rw [← hafter, if_pos rfl, fileName?_eq_some htaken]
        exact ⟨rfl, rfl⟩
      · have hkeeps := keeps_of_take? htake
        rw [if_neg ho, List.append_nil, hkeeps.messages ho, hkeeps.replaced]
        exact ⟨rfl, rfl⟩

theorem eq_of_map_read {read : String → Option String}
    (hread : ∀ {value found}, read value = some found → found = value) {values found : List String}
    (h : values.map read = found.map some) : values = found := by
  induction values generalizing found with
  | nil => exact (List.map_eq_nil_iff.1 h.symm).symm
  | cons value values ih =>
    cases found with
    | nil => cases h
    | cons first found =>
      rw [List.map_cons, List.map_cons, List.cons_eq_cons] at h
      rw [hread h.1, ih h.2]

/-- An interval that is read was a span of time. -/
theorem exists_span {values : List String} {interval : Option UInt64}
    (h : values.map interval? = interval.toList.map some) : ∃ span : Option TimeSpan,
      values.map TimeSpan.ofText? = span.toList.map some ∧ interval = span.map fun t => UInt64.ofNat t.millis := by
  cases interval with
  | none =>
    obtain rfl := List.map_eq_nil_iff.1 h
    exact ⟨none, rfl, rfl⟩
  | some n =>
    obtain ⟨value, rfl, hvalue⟩ := List.map_eq_singleton_iff.1 h
    obtain ⟨t, ht, rfl⟩ := Option.map_eq_some_iff.1 hvalue
    exact ⟨some t, by simp [ht], rfl⟩

/-- Every line that is read says something about the settings, and its options hold that. -/
theorem exists_says_of_parse (h : parse arguments = .ok (.emulate options)) :
    ∃ flags, Says arguments flags ∧ options.overrides = flags.overrides ∧ options.messages = flags.messages := by
  have hprofile := Setting.profile.map_read_valuesOf rfl h
  have hlogLevel := Setting.logLevel.map_read_valuesOf rfl h
  have hinterval := Setting.interval.map_read_valuesOf rfl h
  have hclaims := Setting.claims.map_read_valuesOf rfl h
  obtain ⟨s', hsteps, rfl⟩ := exists_steps_of_parseFrom (waits_of_none rfl) h
  obtain ⟨hmessages, hnone⟩ := hsteps.messages
  obtain ⟨span, hspan, hmillis⟩ := exists_span hinterval
  refine ⟨⟨s'.options.overrides.profile, s'.options.overrides.logLevel, span, s'.options.overrides.claims,
    s'.options.messages⟩, ⟨eq_of_map_read fileName?_eq_some hprofile,
      eq_of_map_read (fun hread => (Option.some.inj hread).symm) hlogLevel, hspan, hclaims, ?_⟩, ?_, rfl⟩
  · exact (hmessages.trans (List.nil_append _)).symm
  · rw [Flags.overrides, ← hmillis]
    exact congrArg (Overrides.mk _ _ _ _) hnone

end CommandLine

end CecBus
