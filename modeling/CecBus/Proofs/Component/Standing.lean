import CecBus.Proofs.Bus.Emulation
import CecBus.Proofs.Component.Folding

/-! Where the set-up and the bus of a component come from. `Effect` says once what an operation can do to the set-up and
the session, and `perform_standing` what a stage can do. A component is `Founded` if its set-up is that of an accepted
profile and the bus of its session can be reached from such a set-up; every event keeps it. -/

namespace CecBus

variable {ρ : Type}

namespace Component

variable {c d : Component ρ}

def standing (c : Component ρ) : Bool × Option Setup := (c.isInitialized, c.setup)

/-! ### What operations do -/

/-- What can become of the bus of a session on which a call is made. -/
def Asked (b b' : Bus) : Prop :=
  b' = b ∨ ∃ address, outcome (b.claim address) = .ok b' ∨ outcome (b.unclaim address) = .ok b'

/-- What an operation can do to a component, as far as set-up and session go. -/
inductive Effect (c : Component ρ) : Component ρ → Prop
  | none {d : Component ρ} (hstanding : d.standing = c.standing) (hsession : d.session = c.session) : Effect c d
  | asked {s s' : Session ρ} (hs : c.session = some s) (hbus : Asked s.bus s'.bus) :
      Effect c { c with session := some s' }
  | opened {fault : Option String} {handle : Handle} {d : Component ρ} (h : (c.tryOpen fault).value = (.ok handle, d)) :
      Effect c d
  | activated : Effect c { c with isInitialized := true }
  | loaded {p : Profile} {setup : Setup} (hi : c.isInitialized = true) (hp : outcome (Setup.ofProfile p) = .ok setup) :
      Effect c { c with setup := some setup }

theorem Effect.refl (c : Component ρ) : c.Effect c := .none rfl rfl

theorem effect_enqueue (c : Component ρ) (message : Message) : c.Effect (c.enqueue message).value.2 := by
  rcases c.enqueue_value message with h | ⟨s, number, queue, -, -, -, -, h⟩
  · rw [h]
    exact .refl c
  · rw [h]
    exact .none rfl rfl

theorem effect_change {handle : Handle} {f : Session ρ → Attempt DriverError (Session ρ)}
    (hf : ∀ s s', outcome (f s) = .ok s' → Asked s.bus s'.bus) : c.Effect (c.orKeep (c.change handle f)) := by
  refine orKeep_induct (.refl c) fun d hd => ?_
  obtain ⟨s, s', hlive, hs', rfl⟩ := change_eq_ok.1 hd
  exact .asked (live_eq_ok.1 hlive).1 (hf s s' hs')

theorem effect_load {source : String} {p : Profile} (h : outcome (c.load source p) = .ok d) : c.Effect d := by
  obtain ⟨hi, ⟨-, rfl⟩ | ⟨-, setup, hp, rfl⟩⟩ := load_eq_ok.1 h
  · exact .refl d
  · exact .loaded hi hp

theorem effect_after (r : Operation ρ) : c.Effect (c.after r) := by
  cases r with
  | deliver topic payload =>
    rw [after, deliver]
    split
    · exact .refl c
    · exact c.effect_enqueue _
  | deliverDocument payload =>
    rw [after, deliverDocument]
    split
    · exact .refl c
    · exact c.effect_enqueue _
  | physical | logical | send | sendAsync => exact .refl c
  | claim handle address =>
    refine effect_change fun s s' h => ?_
    simp only [outcome_bind_eq_ok, outcome_pure, Except.ok.injEq] at h
    obtain ⟨bus, hc, rfl⟩ := h
    exact .inr ⟨address, .inl hc⟩
  | unclaim handle address =>
    refine effect_change fun s s' h => ?_
    simp only [outcome_bind_eq_ok, outcome_pure, Except.ok.injEq] at h
    obtain ⟨bus, hc, rfl⟩ := h
    exact .inr ⟨address, .inr hc⟩
  | setReceiver | setConfirmer =>
    refine effect_change fun s s' h => ?_
    simp only [outcome_bind_eq_ok, outcome_pure, Except.ok.injEq] at h
    obtain ⟨-, -, rfl⟩ := h
    exact .inl rfl
  | openSession fault =>
    exact after_openSession_induct (.refl c) (fun handle registry _ _ => .none rfl rfl) fun handle d ho => .opened ho
  | activate =>
    refine orKeep_induct (.refl c) fun d hd => ?_
    obtain ⟨-, rfl⟩ := activate_eq_ok.1 hd
    exact .activated
  | loadProfile p => exact orKeep_induct (.refl c) fun d hd => effect_load hd
  | loadFile path content =>
    refine orKeep_induct (.refl c) fun d hd => ?_
    obtain ⟨p, -, hload⟩ := loadFile_eq_ok.1 hd
    exact effect_load hload

/-! ### What stages and workers do -/

/-- Only the last two stages of closing a component change where it stands. -/
theorem perform_standing {thread : Option Nat} {stage : Stage} {more : List Stage}
    (hp : outcome (c.perform thread stage) = .ok (more, d)) : d.standing = c.standing ∨
      stage = .forgetSetup ∧ more = [] ∧ d = { c with setup := none } ∨
      stage = .clearInitialized ∧ more = [] ∧ d = { c with isInitialized := false } := by
  cases performed hp with
  | retired nested h =>
    obtain ⟨s, registry, -, -, -, -, -, rfl⟩ := retire_eq_ok h
    exact .inl rfl
  | forgotten => exact .inr (.inl ⟨rfl, rfl, rfl⟩)
  | cleared => exact .inr (.inr ⟨rfl, rfl, rfl⟩)
  | checked | found | missing | refused | absent | detached | requested | joined | vacated => exact .inl rfl

theorem standing_work {worker : Nat} {step : Logged (Component ρ)} (hs : c.work? worker = some step) :
    step.value.standing = c.standing := by
  obtain ⟨q, -, ⟨kind, payload, -, rfl⟩ | ⟨-, received, -, hstep⟩⟩ := work?_eq_some hs
  · obtain ⟨q', -, hvalue⟩ := c.dispatch_value worker q kind payload
    rw [hvalue]
    rfl
  · rw [hstep]
    rfl

theorem standing_resume (c : Component ρ) (worker : Nat) :
    (c.resume worker).standing = c.standing ∧ (c.resume worker).session = c.session := by
  unfold resume
  split
  · exact ⟨rfl, rfl⟩
  · exact ⟨rfl, rfl⟩

/-! ### Where the set-up and the bus come from -/

/-- The set-up is that of an accepted profile, and the bus of the session comes from one. -/
structure Founded (c : Component ρ) : Prop where
  setup (setup : Setup) : c.setup = some setup → ∃ p, outcome (Setup.ofProfile p) = .ok setup
  bus (s : Session ρ) : c.session = some s → s.bus.Reachable

theorem founded_empty : (empty : Component ρ).Founded where
  setup := fun _ h => by cases h
  bus := fun _ h => by cases h

namespace Founded

theorem congr (h : c.Founded) (hsetup : d.setup = c.setup) (hsession : d.session = c.session) : d.Founded := by
  refine ⟨?_, ?_⟩
  · rw [hsetup]
    exact h.setup
  · rw [hsession]
    exact h.bus

theorem effect (h : c.Founded) (he : c.Effect d) : d.Founded := by
  cases he with
  | none hstanding hsession => exact h.congr (congrArg Prod.snd hstanding) hsession
  | asked hs hbus =>
    refine ⟨h.setup, fun s' hs' => ?_⟩
    cases hs'
    have hreachable := h.bus _ hs
    obtain hsame | ⟨address, hc | hc⟩ := hbus
    · rwa [hsame]
    · exact .claim hreachable hc
    · exact .unclaim hreachable hc
  | opened ho =>
    obtain ⟨-, setup, registry, bus, hsetup, hb, -, rfl⟩ := tryOpen_eq_ok ho
    refine ⟨h.setup, fun s' hs' => ?_⟩
    cases hs'
    obtain ⟨p, hp⟩ := h.setup setup hsetup
    exact .opened hp hb
  | activated => exact h.congr rfl rfl
  | loaded hi hp =>
    refine ⟨fun setup hsetup => ?_, h.bus⟩
    cases hsetup
    exact ⟨_, hp⟩

theorem perform (h : c.Founded) {thread : Option Nat} {stage : Stage} {more : List Stage}
    (hp : outcome (c.perform thread stage) = .ok (more, d)) : d.Founded := by
  refine ⟨fun setup hsetup => ?_, fun s' hs' => ?_⟩
  · obtain hstanding | ⟨-, -, rfl⟩ | ⟨-, -, rfl⟩ := perform_standing hp
    · exact h.setup setup ((congrArg Prod.snd hstanding).symm.trans hsetup)
    · cases hsetup
    · exact h.setup setup hsetup
  · obtain ⟨s, hs, hbus, -⟩ := session_perform hp hs'
    rw [hbus]
    exact h.bus s hs

theorem work (h : c.Founded) {worker : Nat} {step : Logged (Component ρ)} (hs : c.work? worker = some step) :
    step.value.Founded := by
  have hsetup : step.value.setup = c.setup := congrArg Prod.snd (standing_work hs)
  obtain ⟨-, hsession⟩ | ⟨kind, payload, -, hsession⟩ := session_work hs
  · exact h.congr hsetup hsession
  · refine ⟨?_, fun s' hs' => ?_⟩
    · rw [hsetup]
      exact h.setup
    · rw [hsession, withHandled, Option.map_eq_some_iff] at hs'
      obtain ⟨s, hs, rfl⟩ := hs'
      exact .handle (h.bus s hs) kind payload

end Founded

end Component

namespace System

variable {s s' : System ρ} {events : List (Event ρ)}

theorem founded_step {event : Event ρ} (h : s.component.Founded) (hstep : s.step? event = some s') :
    s'.component.Founded := by
  cases step_of_step? hstep with
  | request r _ => exact h.effect (Component.effect_after r)
  | start | finish => exact h
  | advance =>
    unfold performStage
    split
    · exact h
    · next hp => exact h.perform hp
  | work hs => exact h.work hs
  | resume =>
    obtain ⟨hstanding, hsession⟩ := s.component.standing_resume _
    exact h.congr (congrArg Prod.snd hstanding) hsession

theorem founded_of_run (hrun : initial.run? events = some s) : s.component.Founded :=
  run?_induct (P := fun t => t.component.Founded) (fun _ _ _ _ h hs => founded_step h hs) (fun _ _ => trivial)
    Component.founded_empty hrun

end System

end CecBus
