import CecBus.Proofs.Bus.Addresses
import CecBus.Proofs.Component.Alike
import CecBus.Proofs.Severity

/-! Messages that leave everything as it is. A message that cannot be applied as a whole is not applied at all, however
deep in its document the reason lies; and nothing but the addition and the removal of devices changes a bus. Main
result: `Component.session_dispatch_of_refused`. -/

namespace CecBus

namespace Bus

variable {b : Bus}

theorem apply_of_fault (h : b.tree.WellFormed) {kind : MessageKind} {payload : ByteArray} {fault : MessageFault}
    (hf : (b.apply kind payload).value.1 = .error fault) : (b.apply kind payload).value.2 = b := by
  rcases apply_cases h kind payload with hsame | ⟨p, -, -, ⟨-, _, _, _, _, -, hv⟩ | ⟨-, _, -, hv⟩⟩
  · exact hsame
  · rw [hv] at hf
    cases hf
  · rw [hv] at hf
    cases hf

/-- What a message that does not go through leaves of a bus, and what one leaves that asks for no change. -/
theorem handle_of_refused (h : b.tree.WellFormed) {kind : MessageKind} {payload : ByteArray}
    (hrefused : (b.handle kind payload).failed ∨ kind ≠ .state ∨
      ∀ p, Profile.ofBytes payload = .ok p → p.field "state" ≠ "AddDevice" ∧ p.field "state" ≠ "RemoveDevice") :
    (b.handle kind payload).value.2 = b := by
  rw [bus_handle]
  by_cases hkind : kind = .state
  · subst hkind
    rcases hrefused with hfailed | hkind | hneither
    · obtain ⟨fault, hf⟩ := (b.failed_handle_state payload).1 hfailed
      exact apply_of_fault h hf
    · exact absurd rfl hkind
    · rcases apply_cases h .state payload with hsame | ⟨p, -, hp, ⟨hstate, -⟩ | ⟨hstate, -⟩⟩
      · exact hsame
      · exact absurd hstate (hneither p hp).1
      · exact absurd hstate (hneither p hp).2
  · exact bus_apply_of_ne_state hkind payload

end Bus

namespace Component

variable {ρ : Type} {c : Component ρ} {s : Session ρ}

/-- When a message is refused, or asks for neither an addition nor a removal, the session stays as it is: the devices in
their slots, the vacant slots and the pool, the emulated device, the ports, and who receives frames. -/
theorem session_dispatch_of_refused (hs : c.session = some s) (h : s.bus.Reachable) {kind : MessageKind}
    {payload : ByteArray}
    (hrefused : (s.bus.handle kind payload).failed ∨ kind ≠ .state ∨
      ∀ p, Profile.ofBytes payload = .ok p → p.field "state" ≠ "AddDevice" ∧ p.field "state" ≠ "RemoveDevice")
    (worker : Nat) (queue : Queue (Task ρ)) :
    (s.bus.handle kind payload).value.2 = s.bus ∧
      (c.dispatch worker queue kind payload).value.session = some s := by
  have hbus := Bus.handle_of_refused h.sound.wellFormed hrefused
  refine ⟨hbus, ?_⟩
  obtain ⟨q', -, hv⟩ := c.dispatch_value worker queue kind payload
  rw [hv, setWorker, withHandled, hs, Option.map_some, hbus]

/-- A message that adds a hub whose only device has the name of the television. -/
def clashingMessage : ByteArray :=
  ("\x7b\"state\":\"AddDevice\",\"parameters\":\x7b\"parent\":\"Player\",\"name\":\"Hub\"," ++
    "\"number_children\":\"1\",\"children\":\x7b\"0\":\x7b\"name\":\"TV\"\x7d\x7d\x7d\x7d").toUTF8

def televisionSession : Session Unit :=
  { handle := ⟨0, 0⟩, bus := Bus.televisionBus, receiver := some (), worker := some 0 }

theorem televisionSession_of_clashingMessage :
    ((televisionSession.bus.handle .state clashingMessage).entries.map fun e => (e.level, e.message)) =
        [(.debug, "Loaded device tree from parameters with 2 device(s)"),
          (.error, "AddDevice: failed to create device: duplicate device name: TV")] ∧
      (televisionSession.bus.handle .state clashingMessage).value.2 = televisionSession.bus ∧
        (({ session := some televisionSession } : Component Unit).dispatch 0 (.ofCapacity 1) .state
          clashingMessage).value.session = some televisionSession := by
  have hreachable : televisionSession.bus.Reachable := Bus.reachable_televisionBus
  have hhandled : ((televisionSession.bus.handle .state clashingMessage).entries.map fun e => (e.level, e.message)) =
      [(.debug, "Loaded device tree from parameters with 2 device(s)"),
        (.error, "AddDevice: failed to create device: duplicate device name: TV")] ∧
      (televisionSession.bus.handle .state clashingMessage).failed := by decide +kernel
  exact ⟨hhandled.1, session_dispatch_of_refused rfl hreachable (.inl hhandled.2) 0 (.ofCapacity 1)⟩

end Component

end CecBus
