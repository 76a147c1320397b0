import CecBus.Proofs.Component.Calls

/-! No call fails for a general reason, unless a worker cannot be started. That would take a set-up that cannot be
opened, a registry without a free slot while there is no session, or a session whose emulated device is missing, and no
run leads to any of them. Main result: `System.unfailing_of_run`. -/

namespace CecBus

variable {ρ : Type}

/-- A registry has a free slot while no session is live. -/
theorem Life.isSome_register? {c : Component ρ} {stages : Option Nat → List Stage} {detached : List Nat}
    (h : Life c stages detached) (hnone : c.session = none) : c.registry.register?.isSome = true := by
  rw [(h.isVacant_of_none hnone).registry, Registry.register?_atSession_false, Option.isSome_some]

/-- No call on the component fails for a general reason, and no stage of a call that closes something; opening does so
only when the worker cannot be started. There is a slot for a session, and the session has the emulated device that its
set-up named when it was opened. -/
structure Component.Unfailing (c : Component ρ) : Prop where
  respond (handle : Handle) (call : DriverCall ρ) : c.respond handle call ≠ .error .generalError
  perform (thread : Option Nat) (stage : Stage) : outcome (c.perform thread stage) ≠ .error (.driver .generalError)
  openSession (fault : Option String) : (c.tryOpen fault).value.1 = .error .generalError → fault.isSome = true
  free : c.session = none → c.registry.register?.isSome = true
  emulates (s : Session ρ) : c.session = some s → ∃ p setup device, outcome (Setup.ofProfile p) = .ok setup ∧
    setup.tree.deviceNamed? setup.emulated = some device ∧ s.bus.Emulates s.bus.emulated setup.emulated device.kind

/-- The session of a component refuses calls for their arguments or for what its bus allows, and for nothing else. -/
theorem Component.Founded.isOnMerits_of_reply {c : Component ρ} {s : Session ρ} (h : c.Founded)
    (hs : c.session = some s) {call : DriverCall ρ} {e : DriverError} (hreply : s.reply call = .error e) :
    e.isOnMerits = true := by
  obtain ⟨device, hd, -⟩ := (h.bus s hs).sound.emulated
  exact Session.isOnMerits_of_reply hd hreply

theorem Component.Founded.unfailing {c : Component ρ} (h : c.Founded)
    (hfree : c.session = none → c.registry.register?.isSome = true) : c.Unfailing where
  respond handle call hr := by
    obtain hl | ⟨s, hl, hreply⟩ := respond_eq_error.1 hr
    · obtain ⟨-, he⟩ | ⟨-, he⟩ := live_eq_error hl <;> cases he
    · have hmerits := h.isOnMerits_of_reply (live_eq_ok.1 hl).1 hreply
      cases hmerits
  perform thread stage hp := by
    obtain ⟨handle, -, hl⟩ := live_of_perform_driver hp
    obtain ⟨-, he⟩ | ⟨-, he⟩ := live_eq_error hl <;> cases he
  openSession fault ho := by
    obtain ⟨-, he, -⟩ | ⟨-, -, he, -⟩ | ⟨-, -, hfault, -⟩ := (tryOpen_eq_error_iff h hfree).1 (Prod.ext ho rfl)
    · cases he
    · cases he
    · exact hfault
  free := hfree
  emulates s hs := (h.bus s hs).exists_emulates

namespace System

/-- A profile that is accepted can be opened, and whatever messages, claims and releases come then, the emulated id is
that of a live device with the name and the kind that it had. So in no run, whoever makes the calls, does a call of a
driver fail for a general reason, as long as the workers can be started. -/
theorem unfailing_of_run :
    (∀ (p : Profile) (setup : Setup), outcome (Setup.ofProfile p) = .ok setup → ∃ b device,
      (Bus.ofSetup setup).value = some b ∧ setup.tree.deviceNamed? setup.emulated = some device ∧
        ∀ requests, (b.serveAll requests).Emulates b.emulated setup.emulated device.kind) ∧
      ∀ (events : List (Event ρ)) (s : System ρ), initial.run? events = some s → s.component.Unfailing :=
  ⟨fun _ _ hp => Bus.exists_emulates_serveAll hp, fun _ _ hrun =>
    (founded_of_run hrun).unfailing (sound_of_run hrun).life.isSome_register?⟩

theorem television_unfailing : ∃ (b : Bus) (s : System Unit),
    outcome (Setup.ofProfile Bus.televisionProfile) = .ok Bus.televisionSetup ∧
      (Bus.ofSetup Bus.televisionSetup).value = some b ∧
      (b.serveAll [.claim .tv, .message .config "\x7b\x7d".toUTF8, .unclaim .tv]).Emulates b.emulated "TV" .tv ∧
      initial.run? (loading ++ openings 0) = some s ∧ s.component.session.isSome = true ∧ s.component.Unfailing := by
  have hrun : (initial.run? (loading ++ openings 0)).map (fun s => s.component.session.isSome) = some true := by
    decide +kernel
  obtain ⟨s, hs, hsession⟩ := Option.map_eq_some_iff.1 hrun
  obtain ⟨b, device, hb, hd, hemulates⟩ := (@unfailing_of_run Unit).1 _ _ Bus.ofProfile_televisionProfile
  have hkind : device.kind = .tv := by
    have hnamed : (Bus.televisionSetup.tree.deviceNamed? Bus.televisionSetup.emulated).map Device.kind = some .tv := by
      decide +kernel
    rw [hd] at hnamed
    exact Option.some.inj hnamed
  exact ⟨b, s, Bus.ofProfile_televisionProfile, hb, hkind ▸ hemulates _, hs, hsession, unfailing_of_run.2 _ _ hs⟩

end System

end CecBus
