import Mathlib.Data.List.Induction
import CecBus.Proofs.Bus.Claiming
import CecBus.Proofs.Component.InPlace

/-! Claims on the handle of a session with an emulated television. Messages, claims and releases come in any order, and
claims and releases are carried out in place; `Serves` is what the session is opened with and every request keeps, up to
the address that a claim or a release changes. Main result: `answers_serveAll`. -/

namespace CecBus

/-- A call on a handle that is about a logical address: it claims the address or gives it up. -/
inductive AddressCall where
  | claim
  | unclaim
  deriving DecidableEq, Repr

/-- The address of a television after its latest call that succeeded; without one it has none of its own. -/
def AddressCall.held : Option AddressCall → LogicalAddress
  | some .claim => .tv
  | _ => .broadcast

def AddressCall.toDriverCall {ρ : Type} (address : LogicalAddress) : AddressCall → DriverCall ρ
  | .claim => .claim address
  | .unclaim => .unclaim address

/-- What comes to a session: a worker applies a message that it holds, or the caller makes a call. -/
inductive Component.Request (ρ : Type) where
  | message (worker : Nat) (queue : Queue (Task ρ)) (kind : MessageKind) (payload : ByteArray)
  | call (call : AddressCall) (address : LogicalAddress)

namespace Component

variable {ρ : Type} {c d : Component ρ} {handle : Handle} {s : Session ρ} {address : LogicalAddress}

/-- Makes a call on a handle. -/
def call (c : Component ρ) (handle : Handle) (address : LogicalAddress) :
    AddressCall → Attempt DriverError (Component ρ)
  | .claim => c.claim handle address
  | .unclaim => c.unclaim handle address

/-- The component after a request. Of a call all stays that it wrote, whether it succeeded or failed. -/
def serve (c : Component ρ) (handle : Handle) : Request ρ → Component ρ
  | .message worker queue kind payload => (c.dispatch worker queue kind payload).value
  | .call call address =>
    match ((call.toDriverCall address).inPlace handle).run c with
    | .ok _ d | .error _ d => d

def granted? (c : Component ρ) (handle : Handle) : Request ρ → Option AddressCall
  | .message .. => none
  | .call call address => if (outcome (c.call handle address call)).isOk then some call else none

def serveAll (c : Component ρ) (handle : Handle) (requests : List (Request ρ)) : Component ρ :=
  requests.foldl (fun c r => c.serve handle r) c

def granted (c : Component ρ) (handle : Handle) : List (Request ρ) → List AddressCall
  | [] => []
  | r :: rest => (c.granted? handle r).toList ++ (c.serve handle r).granted handle rest

theorem serveAll_append (requests : List (Request ρ)) (r : Request ρ) :
    c.serveAll handle (requests ++ [r]) = (c.serveAll handle requests).serve handle r := by
  rw [serveAll, List.foldl_append]
  rfl

theorem granted_append (requests : List (Request ρ)) (r : Request ρ) :
    c.granted handle (requests ++ [r]) =
      c.granted handle requests ++ ((c.serveAll handle requests).granted? handle r).toList := by
  induction requests generalizing c with
  | nil => simp [granted, serveAll]
  | cons first rest ih =>
    rw [List.cons_append, granted, ih, granted, List.append_assoc]
    rfl

theorem run_call (c : Component ρ) (handle : Handle) (address : LogicalAddress) (call : AddressCall) :
    ((call.toDriverCall address).inPlace handle).run c =
      allOrNothing c ((outcome (c.call handle address call)).map fun d => (.done, d)) := by
  rw [DriverCall.run_inPlace]
  cases call <;> rfl

theorem serve_of_ok {call : AddressCall} (h : outcome (c.call handle address call) = .ok d) :
    c.serve handle (.call call address) = d ∧ c.granted? handle (.call call address) = some call := by
  simp [serve, run_call, allOrNothing, granted?, h, Except.map, Except.isOk, Except.toBool]

theorem serve_of_error {call : AddressCall} {e : DriverError} (h : outcome (c.call handle address call) = .error e) :
    c.serve handle (.call call address) = c ∧ c.granted? handle (.call call address) = none := by
  simp [serve, run_call, allOrNothing, granted?, h, Except.map, Except.isOk, Except.toBool]

/-! ### Calls on a live handle -/

theorem live_setBus (h : c.live handle = .ok s) (bus : Bus) : (c.setBus bus).live handle = .ok { s with bus } := by
  obtain ⟨hs, hready, hhandle, hresolves⟩ := live_eq_ok.1 h
  exact live_eq_ok.2 ⟨by rw [setBus, hs]; rfl, hready, hhandle, hresolves⟩

theorem setBus_bus (h : c.live handle = .ok s) : c.setBus s.bus = c := by
  have hs := (live_eq_ok.1 h).1
  rw [setBus, hs, Option.map_some, ← hs]

theorem outcome_change_bus (h : c.live handle = .ok s) (f : Bus → Attempt DriverError Bus) :
    outcome (c.change handle fun s => do pure { s with bus := ← f s.bus }) = (outcome (f s.bus)).map c.setBus := by
  have hset : ∀ bus, c.setBus bus = { c with session := some { s with bus } } := fun bus => by
    rw [setBus, (live_eq_ok.1 h).1]
    rfl
  simp only [change, h, outcome_bind, outcome_liftM_except, Except.bind]
  cases outcome (f s.bus) with
  | error e => rfl
  | ok bus => simp [Except.map, hset]

theorem outcome_call (h : c.live handle = .ok s) (address : LogicalAddress) :
    outcome (c.call handle address .claim) = (outcome (s.bus.claim address)).map c.setBus ∧
      outcome (c.call handle address .unclaim) = (outcome (s.bus.unclaim address)).map c.setBus :=
  ⟨outcome_change_bus h fun b => b.claim address, outcome_change_bus h fun b => b.unclaim address⟩

/-! ### What requests preserve -/

/-- The session of a live handle with an emulated television that has an address. -/
structure Serves (c : Component ρ) (handle : Handle) (address : LogicalAddress) (s : Session ρ) : Prop where
  live : c.live handle = .ok s
  reachable : s.bus.Reachable
  television : ∃ device, s.bus.emulatedDevice? = some device ∧ device.kind = .tv ∧ device.logical = some address

namespace Serves

theorem message (h : c.Serves handle address s) (worker : Nat) (queue : Queue (Task ρ)) (kind : MessageKind)
    (payload : ByteArray) : ((c.dispatch worker queue kind payload).value).Serves handle address
      { s with bus := (s.bus.handle kind payload).value.2 } := by
  obtain ⟨device, hd, hk, hl⟩ := h.television
  obtain ⟨d, hd', -, hk', hl'⟩ := h.reachable.sound.emulatedDevice?_handle hd kind payload
  obtain ⟨q', -, hv⟩ := c.dispatch_value worker queue kind payload
  obtain ⟨hs, hready, hhandle, hresolves⟩ := live_eq_ok.1 h.live
  refine ⟨live_eq_ok.2 ?_, .handle h.reachable kind payload, d, hd', hk'.trans hk, hl'.trans hl⟩
  rw [hv, setWorker, withHandled, hs]
  exact ⟨rfl, hready, hhandle, hresolves⟩

theorem claim_tv (h : c.Serves handle address s) :
    (s.bus.HeldByOther .tv ∧ outcome (c.call handle .tv .claim) = .error .addressUnavailable) ∨
      (¬ s.bus.HeldByOther .tv ∧ ∃ bus, outcome (c.call handle .tv .claim) = .ok (c.setBus bus) ∧
        (address = .tv → c.setBus bus = c) ∧ (c.setBus bus).Serves handle .tv { s with bus }) := by
  obtain ⟨device, hd, hk, hl⟩ := h.television
  rw [(outcome_call h.live _).1]
  rcases h.reachable.sound.claim_tv hd hk with ⟨hother, hc⟩ | ⟨hfree, bus, hc, hagain, hheld⟩
  · exact .inl ⟨hother, by rw [hc]; rfl⟩
  · refine .inr ⟨hfree, bus, by rw [hc]; rfl, fun ha => ?_, live_setBus h.live bus, .claim h.reachable hc, hheld⟩
    rw [hagain (ha ▸ hl), setBus_bus h.live]

theorem unclaim_tv (h : c.Serves handle address s) :
    (address = .broadcast ∧ outcome (c.call handle .tv .unclaim) = .error .alreadyRemoved) ∨
      (address ≠ .broadcast ∧ ∃ bus, outcome (c.call handle .tv .unclaim) = .ok (c.setBus bus) ∧
        (c.setBus bus).Serves handle .broadcast { s with bus }) := by
  obtain ⟨device, hd, hk, hl⟩ := h.television
  rw [(outcome_call h.live _).2]
  rcases Bus.unclaim_tv hd hk hl with ⟨ha, hc⟩ | ⟨ha, bus, hc, hheld⟩
  · exact .inl ⟨ha, by rw [hc]; rfl⟩
  · exact .inr ⟨ha, bus, by rw [hc]; rfl, live_setBus h.live bus, .unclaim h.reachable hc, hheld⟩

theorem refuses_other (h : c.Serves handle address s) {other : LogicalAddress} (ho : other ≠ .tv)
    (call : AddressCall) : outcome (c.call handle other call) = .error .invalidArgument := by
  obtain ⟨device, hd, -, -⟩ := h.television
  obtain ⟨hclaim, hunclaim⟩ := Bus.outcome_claim_of_ne_tv hd ho
  cases call with
  | claim => rw [(outcome_call h.live other).1, hclaim]; rfl
  | unclaim => rw [(outcome_call h.live other).2, hunclaim]; rfl

theorem call_cases (h : c.Serves handle address s) (call : AddressCall) (other : LogicalAddress) :
    (∃ e, outcome (c.call handle other call) = .error e) ∨
      ∃ d s', outcome (c.call handle other call) = .ok d ∧ d.Serves handle (AddressCall.held (some call)) s' := by
  by_cases ho : other = .tv
  · subst ho
    cases call with
    | claim =>
      rcases h.claim_tv with ⟨-, hc⟩ | ⟨-, bus, hc, -, hserves⟩
      · exact .inl ⟨_, hc⟩
      · exact .inr ⟨_, _, hc, hserves⟩
    | unclaim =>
      rcases h.unclaim_tv with ⟨-, hc⟩ | ⟨-, bus, hc, hserves⟩
      · exact .inl ⟨_, hc⟩
      · exact .inr ⟨_, _, hc, hserves⟩
  · exact .inl ⟨_, h.refuses_other ho call⟩

/-- One request: the address goes with the call if that succeeds, and stays otherwise. -/
theorem serve {latest : Option AddressCall} (h : c.Serves handle (AddressCall.held latest) s) (r : Request ρ) :
    ∃ s', (c.serve handle r).Serves handle (AddressCall.held ((c.granted? handle r).or latest)) s' := by
  cases r with
  | message worker queue kind payload => exact ⟨_, h.message worker queue kind payload⟩
  | call call other =>
    rcases h.call_cases call other with ⟨e, hc⟩ | ⟨d, s', hc, hserves⟩
    · obtain ⟨hsame, hnone⟩ := serve_of_error hc
      rw [hsame, hnone]
      exact ⟨s, h⟩
    · obtain ⟨hafter, hgranted⟩ := serve_of_ok hc
      rw [hafter, hgranted]
      exact ⟨s', hserves⟩

/-- Many requests: the latest call that succeeds decides. -/
theorem serveAll (h : c.Serves handle .broadcast s) (requests : List (Request ρ)) :
    ∃ s', (c.serveAll handle requests).Serves handle (AddressCall.held (c.granted handle requests).getLast?) s' := by
  induction requests using List.reverseRecOn with
  | nil => exact ⟨s, h⟩
  | append_singleton requests r ih =>
    obtain ⟨s', hserves⟩ := ih
    obtain ⟨s'', hserves'⟩ := hserves.serve r
    rw [serveAll_append, granted_append]
    refine ⟨s'', ?_⟩
    cases hg : (c.serveAll handle requests).granted? handle r with
    | none => simpa [hg] using hserves'
    | some call => simpa [hg] using hserves'

end Serves

/-- What a session with an emulated television answers while the television has an address. -/
structure Answers (c : Component ρ) (handle : Handle) (address : LogicalAddress) (b : Bus) : Prop where
  bus : c.bus? = some b
  held : b.emulatedDevice?.bind Device.logical = some address
  logical : outcome (c.logical handle) = .ok address
  message (worker : Nat) (queue : Queue (Task ρ)) (kind : MessageKind) (payload : ByteArray) :
    outcome ((c.dispatch worker queue kind payload).value.logical handle) = .ok address
  unavailable : outcome (c.claim handle .tv) = .error .addressUnavailable ↔ b.HeldByOther .tv
  available : ¬ b.HeldByOther .tv → ∃ d, outcome (c.claim handle .tv) = .ok d
  again : address = .tv → outcome (c.claim handle .tv) = .ok c
  alreadyRemoved : outcome (c.unclaim handle .tv) = .error .alreadyRemoved ↔ address = .broadcast
  removable : address ≠ .broadcast → ∃ d, outcome (c.unclaim handle .tv) = .ok d
  other (other : LogicalAddress) : other ≠ .tv → outcome (c.claim handle other) = .error .invalidArgument ∧
    outcome (c.unclaim handle other) = .error .invalidArgument
  failing (call : AddressCall) (other : LogicalAddress) (e : DriverError) (d : Component ρ) :
    ((call.toDriverCall other).inPlace handle).run c = .error e d ↔
      outcome (c.call handle other call) = .error e ∧ d = c

theorem Serves.logical (h : c.Serves handle address s) : outcome (c.logical handle) = .ok address := by
  obtain ⟨device, hd, -, hl⟩ := h.television
  simp [Component.logical, ask, h.live, Bus.device, hd, Device.sender, hl]

theorem Serves.answers (h : c.Serves handle address s) : c.Answers handle address s.bus where
  bus := by rw [bus?, (live_eq_ok.1 h.live).1]; rfl
  held := by
    obtain ⟨device, hd, -, hl⟩ := h.television
    rw [hd, Option.bind_some, hl]
  logical := h.logical
  message worker queue kind payload := (h.message worker queue kind payload).logical
  unavailable := by
    change outcome (c.call handle .tv .claim) = _ ↔ _
    rcases h.claim_tv with ⟨hother, hc⟩ | ⟨hfree, bus, hc, -, -⟩
    · exact ⟨fun _ => hother, fun _ => hc⟩
    · exact ⟨fun he => (by rw [hc] at he; cases he), fun hother => absurd hother hfree⟩
  available hfree := by
    rcases h.claim_tv with ⟨hother, -⟩ | ⟨-, bus, hc, -, -⟩
    · exact absurd hother hfree
    · exact ⟨_, hc⟩
  again ha := by
    rcases h.claim_tv with ⟨hother, -⟩ | ⟨-, bus, hc, hagain, -⟩
    · obtain ⟨device, hd, -, hl⟩ := h.television
      exact absurd hother (h.reachable.sound.not_heldByOther hd (ha ▸ hl))
    · rw [hagain ha] at hc
      exact hc
  alreadyRemoved := by
    change outcome (c.call handle .tv .unclaim) = _ ↔ _
    rcases h.unclaim_tv with ⟨ha, hc⟩ | ⟨ha, bus, hc, -⟩
    · exact ⟨fun _ => ha, fun _ => hc⟩
    · exact ⟨fun he => (by rw [hc] at he; cases he), fun he => absurd he ha⟩
  removable ha := by
    rcases h.unclaim_tv with ⟨hb, -⟩ | ⟨-, bus, hc, -⟩
    · exact absurd hb ha
    · exact ⟨_, hc⟩
  other other ho := ⟨h.refuses_other ho .claim, h.refuses_other ho .unclaim⟩
  failing call other e d := by
    rw [run_call, allOrNothing_eq_error]
    refine and_congr_left fun _ => ?_
    cases outcome (c.call handle other call) <;> simp [Except.map]

/-- A session that was opened with an emulated television starts without an address. -/
theorem serves_of_ofSetup {p : Profile} {setup : Setup} (hp : outcome (Setup.ofProfile p) = .ok setup)
    (htv : (setup.tree.deviceNamed? setup.emulated).map Device.kind = some .tv)
    (hopen : (Bus.ofSetup setup).value = some s.bus) (hlive : c.live handle = .ok s) :
    c.Serves handle .broadcast s := by
  refine ⟨hlive, .opened hp hopen, ?_⟩
  obtain ⟨emulated, device, hf, hd, hb⟩ := Bus.ofSetup_eq_some.1 hopen
  obtain ⟨before, hbefore, hk⟩ := Option.map_eq_some_iff.1 htv
  rw [DeviceTree.deviceNamed?, hf, Option.bind_some] at hbefore
  obtain ⟨d, hsame, hd'⟩ := (Bus.readdressed_assignAddresses
    { tree := setup.tree, emulated, ports := setup.ports }).device? hbefore
  have hdevice : d = device := Option.some.inj (hd'.symm.trans hd)
  have hkind : device.kind = .tv := by rw [← hdevice, hsame.kind_eq, hk]
  rw [hb, if_pos hkind]
  exact ⟨_, Bus.emulatedDevice?_setLogical hd _ _, hkind, rfl⟩

/-- From the opening of a session with an emulated television on, and however messages, claims and releases come, the
television has its address exactly if the latest call that succeeded was a claim, and the session answers
accordingly. -/
theorem answers_serveAll {p : Profile} {setup : Setup} (hp : outcome (Setup.ofProfile p) = .ok setup)
    (htv : (setup.tree.deviceNamed? setup.emulated).map Device.kind = some .tv)
    (hopen : (Bus.ofSetup setup).value = some s.bus) (hlive : c.live handle = .ok s) (requests : List (Request ρ)) :
    ∃ b, (c.serveAll handle requests).Answers handle (AddressCall.held (c.granted handle requests).getLast?) b := by
  obtain ⟨s', hserves⟩ := (serves_of_ofSetup hp htv hopen hlive).serveAll requests
  exact ⟨s'.bus, hserves.answers⟩

def televisionComponent : Component Unit :=
  { registry := ⟨[⟨0, true⟩]⟩, session := some { handle := ⟨0, 0⟩, bus := Bus.openedTelevisionBus } }

/-- A claim that is given up and made again, a claim of another address, and a message that comes last. -/
def claimingRequests : List (Request Unit) :=
  [.call .claim .tv, .call .unclaim .tv, .call .unclaim .tv, .call .claim .tv, .call .claim .freeUse,
    .message 0 (.ofCapacity 1) .config "\x7b\x7d".toUTF8]

theorem televisionComponent_answers :
    televisionComponent.granted ⟨0, 0⟩ claimingRequests = [.claim, .unclaim, .claim] ∧
      ∃ b, (televisionComponent.serveAll ⟨0, 0⟩ claimingRequests).Answers ⟨0, 0⟩
        (AddressCall.held (televisionComponent.granted ⟨0, 0⟩ claimingRequests).getLast?) b :=
  ⟨by decide +kernel, answers_serveAll (s := { handle := ⟨0, 0⟩, bus := Bus.openedTelevisionBus })
    Bus.ofProfile_televisionProfile (by decide +kernel) Bus.ofSetup_televisionSetup rfl claimingRequests⟩

end Component

end CecBus
