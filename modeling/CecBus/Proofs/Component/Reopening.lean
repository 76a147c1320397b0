import CecBus.Proofs.Component.Answering
import CecBus.Proofs.Component.Phases

/-! Opening a session again. The set-up that is loaded stays as it was read, whatever is done with sessions, until the
component is closed (`System.setup_run`), and opening a session looks at nothing else; so every session on a set-up
begins as the first one did. What the registry carries over from session to session is a generation, and that comes
around only after as many sessions as there are generations. Main result: `System.begins_afresh`. -/

namespace CecBus

variable {ρ : Type}

/-! ### What a session begins with -/

/-- What a session holds, but for its handle and the number of its worker. -/
structure Contents (ρ : Type) where
  isReady : Bool
  bus : Bus
  receiver : Option ρ
  hasConfirmer : Bool
  queue : Option (Queue (Task ρ))

/-- What a session on a bus begins with: nobody receives frames or is told of them, and no message was handed in. -/
def Contents.start (bus : Bus) : Contents ρ where
  isReady := true
  bus
  receiver := none
  hasConfirmer := false
  queue := some (.ofCapacity Queue.usualCapacity)

/-- The set-up that an operation loads, if there is none before it. -/
def Operation.setup? : Operation ρ → Option Setup
  | .loadProfile p => Setup.ofProfile? p
  | .loadFile path content => Setup.ofFile? path content
  | _ => none

namespace Component

variable {c d : Component ρ} {handle : Handle}

def contents? (c : Component ρ) : Option (Contents ρ) :=
  c.session.map fun s =>
    { isReady := s.isReady, bus := s.bus, receiver := s.receiver, hasConfirmer := s.hasConfirmer, queue := c.queue? }

/-- Of the component it is opened on, a session only takes the set-up over. -/
theorem contents?_of_tryOpen {fault : Option String} (ho : (c.tryOpen fault).value = (.ok handle, d)) :
    ∃ setup bus, c.setup = some setup ∧ (Bus.ofSetup setup).value = some bus ∧
      d.contents? = some (.start bus) := by
  obtain ⟨-, setup, registry, bus, hsetup, hb, -, rfl⟩ := tryOpen_eq_ok ho
  refine ⟨setup, bus, hsetup, hb, ?_⟩
  simp [contents?, queue?, Contents.start, withSession]

/-- A session that is told from another by its handle and its worker has counted nothing yet. -/
theorem counters?_of_contents? {bus : Bus} (h : c.contents? = some (.start bus)) : c.counters? = some {} := by
  obtain ⟨s, -, hs⟩ := Option.map_eq_some_iff.1 h
  have hqueue : c.queue? = some (.ofCapacity Queue.usualCapacity) := congrArg Contents.queue hs
  rw [counters?, hqueue]
  rfl

/-! ### The set-up that is loaded -/

theorem setup_load (c : Component ρ) (source : String) (p : Profile) : (c.orKeep (c.load source p)).setup =
    if c.isInitialized then c.setup.or (Setup.ofProfile? p) else c.setup := by
  rw [orKeep, outcome_load, Setup.ofProfile?]
  cases hi : c.isInitialized with
  | false => rfl
  | true =>
    cases hs : c.setup with
    | some setup => simp [hs]
    | none => cases hp : outcome (Setup.ofProfile p) <;> simp [Except.mapError, Except.map, Except.toOption, hs]

theorem setup_loadFile (c : Component ρ) (path : String) (content : Except FileFault ByteArray) :
    (c.orKeep (c.loadFile path content)).setup =
      if c.isInitialized then c.setup.or (Setup.ofFile? path content) else c.setup := by
  have hload := c.outcome_loadFile path content
  rw [Setup.ofFile?]
  cases hi : c.isInitialized with
  | false =>
    rw [hi] at hload
    rw [orKeep_of_error hload]
    rfl
  | true =>
    rw [hi, if_pos rfl] at hload
    cases hp : profileOfFile path content with
    | error e =>
      rw [hp] at hload
      rw [orKeep_of_error hload, if_pos rfl]
      exact Option.or_none.symm
    | ok p =>
      have hsame : outcome (c.loadFile path content) = outcome (c.load path p) := by
        rw [hload, hp]
        rfl
      have hsetup := c.setup_load path p
      rw [hi] at hsetup
      rw [orKeep, hsame]
      exact hsetup

theorem setup_change (c : Component ρ) (handle : Handle) (f : Session ρ → Attempt DriverError (Session ρ)) :
    (c.orKeep (c.change handle f)).setup = c.setup := by
  cases hd : outcome (c.change handle f) with
  | error e => rw [orKeep_of_error hd]
  | ok d =>
    obtain ⟨s, s', -, -, rfl⟩ := change_eq_ok.1 hd
    rw [orKeep_of_ok hd]

/-- Only loading changes the set-up, and only if there is none. -/
theorem setup_after (c : Component ρ) (r : Operation ρ) :
    (c.after r).setup = if c.isInitialized then c.setup.or r.setup? else c.setup := by
  have hkept : r.setup? = none → (if c.isInitialized then c.setup.or r.setup? else c.setup) = c.setup := by
    intro hnone
    rw [hnone, Option.or_none, ite_self]
  cases r with
  | loadProfile p => exact c.setup_load memory p
  | loadFile path content => exact c.setup_loadFile path content
  | deliver topic payload =>
    rw [hkept rfl, after, deliver]
    cases MessageKind.ofTopic? topic with
    | none => rfl
    | some kind => exact (c.flags_enqueue _).2
  | deliverDocument payload =>
    rw [hkept rfl, after, deliverDocument]
    cases kindOf payload with
    | error e => rfl
    | ok kind => exact (c.flags_enqueue _).2
  | physical | logical | send | sendAsync => rw [hkept rfl, after]
  | claim | unclaim | setReceiver | setConfirmer =>
    rw [hkept rfl]
    exact c.setup_change _ _
  | openSession fault =>
    rw [hkept rfl]
    refine after_openSession_induct (P := fun d => d.setup = c.setup) rfl (fun _ _ _ _ => rfl) fun handle d ho => ?_
    obtain ⟨-, setup, registry, bus, -, -, -, rfl⟩ := tryOpen_eq_ok ho
    rfl
  | activate =>
    rw [hkept rfl, after]
    cases hd : outcome c.activate with
    | error e => rw [orKeep_of_error hd]
    | ok d =>
      obtain ⟨-, rfl⟩ := activate_eq_ok.1 hd
      rw [orKeep_of_ok hd]

/-- Only closing the component takes the set-up away. -/
theorem setup_perform {thread : Option Nat} {stage : Stage} {more : List Stage}
    (hp : outcome (c.perform thread stage) = .ok (more, d)) :
    d.setup = if stage = .forgetSetup then none else c.setup := by
  cases performed hp with
  | retired nested h =>
    obtain ⟨s, registry, -, -, -, -, -, rfl⟩ := retire_eq_ok h
    rfl
  | checked | found | missing | refused | absent | detached | requested | joined | vacated | forgotten | cleared => rfl

end Component

namespace System

variable {s s' : System ρ} {event : Event ρ} {events : List (Event ρ)}

/-- The set-up that is loaded after an event, when one was loaded before it or none. -/
def loadedBy (s : System ρ) (event : Event ρ) (before : Option Setup) : Option Setup :=
  match event with
  | .request _ r => if s.component.isInitialized then before.or r.setup? else before
  | .advance thread => if (s.stages thread).head? = some .forgetSetup then none else before
  | _ => before

/-- The set-up that is loaded after some events: the first that was read since the component was closed last. -/
def loadedAfter (s : System ρ) (before : Option Setup) : List (Event ρ) → Option Setup
  | [] => before
  | event :: rest => ((s.step? event).map fun next => next.loadedAfter (s.loadedBy event before) rest).getD before

theorem setup_step (hstep : s.step? event = some s') : s'.component.setup = s.loadedBy event s.component.setup := by
  cases step_of_step? hstep with
  | request r _ => exact s.component.setup_after r
  | start | finish => rfl
  | @advance thread closing stage rest ha =>
    have hstages := stages_of_activity ha
    rw [loadedBy, hstages, List.head?_cons]
    unfold performStage
    cases hp : outcome (s.component.perform thread stage) with
    | ok result =>
      obtain ⟨more, d⟩ := result
      simp only [Option.some.injEq]
      exact Component.setup_perform hp
    | error e =>
      have hstage : stage ≠ .forgetSetup := fun he => by
        subst he
        cases hp
      rw [if_neg fun he => hstage (Option.some.inj he)]
      rfl
  | work hs => exact congrArg Prod.snd (Component.standing_work hs)
  | resume => exact congrArg Prod.snd (s.component.standing_resume _).1

/-- Nothing but loading and closing changes the set-up, so it is the one that was read. -/
theorem setup_run (hrun : s.run? events = some s') : s'.component.setup = s.loadedAfter s.component.setup events := by
  induction events generalizing s with
  | nil =>
    cases hrun
    rfl
  | cons event rest ih =>
    obtain ⟨next, hnext, hrest⟩ := Option.bind_eq_some_iff.1 hrun
    rw [ih hrest, setup_step hnext, loadedAfter, hnext]
    rfl

/-! ### The main result -/

/-- After some events a session can be opened, under a handle. -/
def OpensAfter (events : List (Event ρ)) (handle : Handle) (opened : Component ρ) : Prop :=
  ∃ s, initial.run? events = some s ∧ (s.component.tryOpen none).value = (.ok handle, opened)

theorem OpensAfter.contents {handle : Handle} {opened : Component ρ} (h : OpensAfter events handle opened) :
    ∃ setup bus, initial.loadedAfter none events = some setup ∧ (Bus.ofSetup setup).value = some bus ∧
      opened.contents? = some (.start bus) := by
  obtain ⟨s, hrun, ho⟩ := h
  obtain ⟨setup, bus, hsetup, hb, hcontents⟩ := Component.contents?_of_tryOpen ho
  have hloaded : s.component.setup = initial.loadedAfter none events := setup_run hrun
  exact ⟨setup, bus, hloaded.symm.trans hsetup, hb, hcontents⟩

theorem OpensAfter.handle_eq {handle : Handle} {opened : Component ρ} (h : OpensAfter events handle opened) :
    handle = .ofSession (initial.issued events).length := by
  obtain ⟨s, hrun, ho⟩ := h
  have hissued : s.handles = initial.issued events := handles_run sound_initial hrun
  obtain ⟨hnone, setup, registry, bus, -, -, hregister, -⟩ := Component.tryOpen_eq_ok ho
  rw [((sound_of_run hrun).life.isVacant_of_none hnone).registry] at hregister
  obtain ⟨-, rfl, -⟩ := Registry.register?_atSession hregister
  rw [← hissued, handles, List.length_map, List.length_range]

/-- A handle comes again only after as many sessions as there are generations. -/
theorem ofSession_not_mem {count : Nat} {earlier recent later : List Handle}
    (h : (List.range count).map Handle.ofSession = earlier ++ recent ++ later) (hshort : recent.length < UInt32.size) :
    Handle.ofSession (earlier.length + recent.length) ∉ recent := by
  intro hmem
  -- the handle stands at two places of the list, which are then at least a whole round of generations apart
  obtain ⟨i, hi, hat⟩ := List.mem_iff_getElem.1 hmem
  have hentry : ((List.range count).map Handle.ofSession)[earlier.length + i]? =
      some (.ofSession (earlier.length + recent.length)) := by
    rw [h, List.append_assoc, List.getElem?_append_right (Nat.le_add_right _ _), Nat.add_sub_cancel_left,
      List.getElem?_append_left hi, List.getElem?_eq_getElem hi, hat]
  rw [List.getElem?_map, Option.map_eq_some_iff] at hentry
  obtain ⟨number, hnumber, hsame⟩ := hentry
  obtain ⟨hbound, hnumber⟩ := List.getElem?_eq_some_iff.1 hnumber
  rw [List.getElem_range] at hnumber
  have hlt : number < earlier.length + recent.length := by omega
  have hfar := Handle.lt_add_of_ofSession hlt hsame.symm
  omega

/-- Sessions on the same set-up all begin in the same way, whatever was done before on the component on which they are
opened. The handle of one is none of those that were issued before it, as far back as there are generations, and while
the session is ready every call on one of those is refused. -/
theorem begins_afresh :
    (∀ (events again : List (Event ρ)) (handle handle' : Handle) (opened reopened : Component ρ),
      OpensAfter events handle opened → OpensAfter again handle' reopened →
      initial.loadedAfter none again = initial.loadedAfter none events → ∃ bus,
        opened.contents? = some (.start bus) ∧ reopened.contents? = opened.contents? ∧ reopened.counters? = some {}) ∧
      (∀ (events : List (Event ρ)) (handle : Handle) (opened : Component ρ), OpensAfter events handle opened →
        ∀ earlier recent, initial.issued events = earlier ++ recent → recent.length < UInt32.size → handle ∉ recent) ∧
      ∀ (events : List (Event ρ)) (s : System ρ) (session : Session ρ), initial.run? events = some s →
        s.component.ready? = some session →
        ∀ earlier recent latest, initial.issued events = earlier ++ recent ++ [latest] →
          recent.length < UInt32.size → session.handle = latest ∧ ∀ handle ∈ recent, ∀ call,
            s.component.respond handle call = .error .invalidHandle := by
  refine ⟨fun events again handle handle' opened reopened hopen hagain hsame => ?_,
    fun events handle opened hopen earlier recent hissued hshort => ?_,
    fun events s session hrun hready earlier recent latest hissued hshort => ?_⟩
  · obtain ⟨setup, bus, hloaded, hb, hcontents⟩ := hopen.contents
    obtain ⟨setup', bus', hloaded', hb', hcontents'⟩ := hagain.contents
    rw [hsame, hloaded] at hloaded'
    cases hloaded'
    rw [hb] at hb'
    cases hb'
    exact ⟨bus, hcontents, hcontents'.trans hcontents.symm, Component.counters?_of_contents? hcontents'⟩
  · have hnumber := hopen.handle_eq
    obtain ⟨s, hrun, -⟩ := hopen
    have hhandles : s.handles = earlier ++ recent ++ [] := by
      rw [List.append_nil, ← hissued]
      exact handles_run sound_initial hrun
    rw [hnumber, hissued, List.length_append]
    exact ofSession_not_mem hhandles hshort
  · have hlast := getLast?_issued_of_ready hrun hready
    rw [hissued, List.getLast?_concat] at hlast
    obtain rfl := Option.some.inj hlast
    refine ⟨rfl, fun handle hmem call => ?_⟩
    have hhandles : s.handles = earlier ++ recent ++ [session.handle] := hissued ▸ handles_run sound_initial hrun
    have hlatest : session.handle = .ofSession (earlier.length + recent.length) := by
      obtain ⟨hsession, -⟩ := Component.ready?_eq_some.1 hready
      obtain ⟨number, hlength, hhandle, -⟩ := (sound_of_run hrun).life.exists_number hsession
      have hcount := congrArg List.length hhandles
      simp only [handles, List.length_map, List.length_range, List.length_append, List.length_singleton] at hcount
      have hnumber : number = earlier.length + recent.length := by omega
      rw [hhandle, hnumber]
    have hstale : session.handle ≠ handle := fun hsame => by
      rw [← hsame, hlatest] at hmem
      exact ofSession_not_mem hhandles hshort hmem
    exact ((sound_of_run hrun).life.respond_eq_error hready handle call .invalidHandle).2 (.inl ⟨hstale, rfl⟩)

/-- A session is opened on a television, claims its address, is told of frames, and is closed. -/
def claimedOnce : List (Event Unit) :=
  loading ++ openings 0 ++ [.request none (.claim (.ofSession 0) .tv), .request none activeSource, .work 0, .work 0,
    .resume 0, .start none (.session (.ofSession 0)), .advance none, .advance none, .work 0, .advance none,
    .advance none, .finish none]

theorem exists_opensAfter
    (h : (initial.run? events).any (fun s => (s.component.tryOpen none).value.1.isOk) = true) :
    ∃ (handle : Handle) (opened : Component ρ), OpensAfter events handle opened := by
  obtain ⟨s, hrun, hok⟩ := (Option.any_eq_true _ _).1 h
  cases ho : (s.component.tryOpen none).value with
  | mk result opened =>
    rw [ho] at hok
    cases result with
    | ok handle => exact ⟨handle, opened, s, hrun, ho⟩
    | error e => cases hok

theorem claimedOnce_afresh : ∃ (handle handle' : Handle) (opened reopened : Component Unit) (s : System Unit),
    OpensAfter loading handle opened ∧ OpensAfter claimedOnce handle' reopened ∧
      reopened.contents? = opened.contents? ∧ handle' ≠ handle ∧ initial.run? (claimedOnce ++ openings 1) = some s ∧
        s.component.respond handle .physical = .error .invalidHandle := by
  have hruns : ((initial.run? loading).any (fun s => (s.component.tryOpen none).value.1.isOk) = true ∧
      (initial.run? claimedOnce).any (fun s => (s.component.tryOpen none).value.1.isOk) = true) ∧
      (initial.run? (claimedOnce ++ openings 1)).map (fun s => s.component.ready?.isSome) = some true ∧
      initial.loadedAfter none claimedOnce = initial.loadedAfter none loading ∧ initial.issued loading = [] ∧
      initial.issued claimedOnce = [] ++ [.ofSession 0] ∧
      initial.issued (claimedOnce ++ openings 1) = [] ++ [.ofSession 0] ++ [.ofSession 1] := by decide +kernel
  obtain ⟨⟨hopens, hreopens⟩, hready, hsame, hnone, hfirst, hboth⟩ := hruns
  obtain ⟨handle, opened, hopen⟩ := exists_opensAfter hopens
  obtain ⟨handle', reopened, hagain⟩ := exists_opensAfter hreopens
  obtain ⟨hcontents, hfresh, hstale⟩ := @begins_afresh Unit
  obtain ⟨bus, -, hequal, -⟩ := hcontents _ _ _ _ _ _ hopen hagain hsame
  have hhandle : handle = .ofSession 0 := by rw [hopen.handle_eq, hnone, List.length_nil]
  subst hhandle
  have hother : handle' ≠ .ofSession 0 := fun he =>
    hfresh _ _ _ hagain _ _ hfirst (by decide) (he ▸ List.mem_singleton_self _)
  obtain ⟨s, hs, hready⟩ := Option.map_eq_some_iff.1 hready
  obtain ⟨session, hsession⟩ := Option.isSome_iff_exists.1 hready
  obtain ⟨-, hrefused⟩ := hstale _ _ _ hs hsession _ _ _ hboth (by decide)
  exact ⟨.ofSession 0, handle', opened, reopened, s, hopen, hagain, hequal, hother, hs,
    hrefused _ (List.mem_singleton_self _) .physical⟩

end System

end CecBus
