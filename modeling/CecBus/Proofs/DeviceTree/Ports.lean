import CecBus.Proofs.DeviceTree.Placement
import CecBus.Proofs.DeviceTree.Staging

/-! Places in closed form. A device writes its port into the first zero nibble of the place above it, so the places of a
tree spell the ports on the way down: those of which the low nibble is zero leave no trace, and those that come when four
nibbles are written have no room. The invariant behind it is that the zeros of a place are at its end. Main result:
`Handled.nibbles_assignAddresses`. -/

namespace CecBus

namespace PhysicalAddress

/-- The digits that ports leave in a place: their low nibbles without the zeros. -/
def digits (ports : List UInt8) : List Nat := (ports.map fun port => port.toNat % 16).filter (· ≠ 0)

theorem digits_append (ports more : List UInt8) : digits (ports ++ more) = digits ports ++ digits more := by
  rw [digits, List.map_append, List.filter_append, digits, digits]

theorem ne_zero_of_mem_digits {ports : List UInt8} {n : Nat} (h : n ∈ digits ports) : n ≠ 0 := by
  simpa only [decide_eq_true_iff] using (List.mem_filter.1 h).2

def firstFour (written : List Nat) : List Nat := (written ++ List.replicate 4 0).take 4

/-- What is written into a place goes behind the digits that are there, as long as there is room. -/
theorem nibbles_child {p : PhysicalAddress} {written : List Nat} (h : p.nibbles.map Fin.val = firstFour written)
    (hne : ∀ n ∈ written, n ≠ 0) (port : UInt8) :
    (p.child port.toNat).nibbles.map Fin.val = firstFour (written ++ digits [port]) := by
  obtain ⟨a, b, c, d⟩ := p
  have hdigits : digits [port] = [(Fin.ofNat 16 port.toNat).val].filter (· ≠ 0) := rfl
  rw [hdigits]
  simp only [child]
  generalize Fin.ofNat 16 port.toNat = n
  -- one case for each number of nibbles that are written
  rcases written with _ | ⟨w, _ | ⟨x, _ | ⟨y, _ | ⟨z, rest⟩⟩⟩⟩
  all_goals
    simp only [nibbles, firstFour, List.map_cons, List.map_nil, List.cons_append, List.nil_append, List.replicate,
      List.take_succ_cons, List.take_zero, List.cons.injEq, and_true, List.forall_mem_cons] at h hne
    by_cases hn : n.val = 0 <;> simp [nibbles, firstFour, Fin.ext_iff, h, hne, hn]

end PhysicalAddress

namespace DeviceTree

variable {t : DeviceTree} {pool : AddressPool} {emulated id : DeviceId} {device : Device} {ports other : List UInt8}
  {top : Branch (DeviceId × Device)}

/-! ### The way down to a device -/

/-- The ports on the way from the root down to a device: that of the root's child first, its own last. The port of the
root does not count. -/
inductive PortsTo (t : DeviceTree) : DeviceId → List UInt8 → Prop
  | root : PortsTo t t.root []
  | child {parent id : DeviceId} {device : Device} {ports : List UInt8} (habove : PortsTo t parent ports)
    (hid : id ∈ t.children parent) (hd : t.device? id = some device) : PortsTo t id (ports ++ [device.port])

theorem Shows.exists_portsTo (h : t.Shows top) (hlive : t.isLive id) : ∃ ports, t.PortsTo id ports := by
  refine h.holds.forall_mem (P := fun x => ∃ ports, t.PortsTo x ports) (fun x y hx hy => ?_) (fun x hx => ?_) id
    (by rw [Branch.ids_forest]; exact h.complete id hlive)
  · obtain ⟨ports, habove⟩ := hx
    obtain ⟨device, hd⟩ := exists_device?_of_isLive (isLive_of_parent? (h.children_of_parent hy))
    exact ⟨_, .child habove hy hd⟩
  · rw [List.mem_singleton.1 hx, ← h.root]
    exact ⟨[], .root⟩

/-- There is one way only. -/
theorem Shows.portsTo_unique (h : t.Shows top) (hports : t.PortsTo id ports) (hother : t.PortsTo id other) :
    other = ports := by
  have hroot : ∀ x, t.root ∉ t.children x := fun x hx => by
    have hparent := h.children_of_parent hx
    rw [h.parent?_root] at hparent
    cases hparent
  induction hports generalizing other with
  | root =>
    cases hother with
    | root => rfl
    | child _ hid _ => exact absurd hid (hroot _)
  | @child parent id device ports _ hid hd ih =>
    cases hother with
    | root => exact absurd hid (hroot _)
    | @child parent' _ device' ports' habove' hid' hd' =>
      have hparent := h.children_of_parent hid
      rw [h.children_of_parent hid', Option.some.injEq] at hparent
      subst hparent
      rw [hd, Option.some.injEq] at hd'
      rw [ih habove', hd']

/-! ### The places -/

theorem exists_device?_assignAddresses (emulated : DeviceId) (pool : AddressPool) (hlive : t.isLive id) :
    ∃ device, (t.assignAddresses emulated pool).value.1.device? id = some device :=
  exists_device?_of_isLive (by rwa [isLive_assignAddresses])

/-- When addresses have been given a device is behind the port that it had, of the device that was above it. -/
theorem Shows.physical_eq_placeBehind (h : t.Shows top) {old : Device} (hold : t.device? id = some old)
    (hd : (t.assignAddresses emulated pool).value.1.device? id = some device) :
    device.physical = placeBehind
      (((t.parent? id).bind (t.assignAddresses emulated pool).value.1.device?).map Device.physical) old := by
  obtain ⟨node, hn, rfl⟩ := Option.map_eq_some_iff.1 hold
  obtain ⟨e, he, hlive⟩ := (readdressed_assignAddresses t emulated pool).live id node hn
  rw [device?, hlive, Option.map_some, Option.some.injEq] at hd
  subst hd
  rw [h.physical_assignAddresses hlive, placeOf_eq, placeBehind_congr he.port_eq, parent?, hn, Option.bind_some]

theorem Shows.physical_root (h : t.Shows top)
    (hd : (t.assignAddresses emulated pool).value.1.device? t.root = some device) : device.physical = .root := by
  obtain ⟨old, hold⟩ := exists_device?_of_isLive (h.isLive_iff.2 h.root_mem)
  rw [h.physical_eq_placeBehind hold hd, h.parent?_root]
  rfl

/-- The place of a device spells the ports on the way to it. -/
theorem Shows.nibbles_of_portsTo (h : t.Shows top) (hports : t.PortsTo id ports)
    (hd : (t.assignAddresses emulated pool).value.1.device? id = some device) :
    device.physical.nibbles.map Fin.val = PhysicalAddress.firstFour (PhysicalAddress.digits ports) := by
  induction hports generalizing device with
  | root =>
    rw [h.physical_root hd]
    rfl
  | @child parent id old ports habove hid hold ih =>
    obtain ⟨above, hup⟩ := exists_device?_assignAddresses emulated pool (isLive_of_mem_children hid)
    rw [h.physical_eq_placeBehind hold hd, h.children_of_parent hid, Option.bind_some, hup, Option.map_some,
      PhysicalAddress.digits_append]
    exact PhysicalAddress.nibbles_child (ih hup) (fun n => PhysicalAddress.ne_zero_of_mem_digits) old.port

/-- Whatever was done with a tree, also by hand: when addresses have been given, every device is there, and the nibbles of
its place are the first four non-zero digits of the ports on the way down to it, and zeros behind them. The root is at the
root. -/
theorem Handled.nibbles_assignAddresses (h : t.Handled) (emulated : DeviceId) (pool : AddressPool) :
    (∀ id, t.isLive id → ∃ device ports, (t.assignAddresses emulated pool).value.1.device? id = some device ∧
      t.PortsTo id ports ∧ (∀ other, t.PortsTo id other → other = ports) ∧
        device.physical.nibbles.map Fin.val = PhysicalAddress.firstFour (PhysicalAddress.digits ports)) ∧
    ∃ device, (t.assignAddresses emulated pool).value.1.device? t.root = some device ∧ device.physical = .root := by
  obtain ⟨top, hshows⟩ := h.isTree
  constructor
  · intro id hlive
    obtain ⟨device, hd⟩ := exists_device?_assignAddresses emulated pool hlive
    obtain ⟨ports, hports⟩ := hshows.exists_portsTo hlive
    exact ⟨device, ports, hd, hports, fun other => hshows.portsTo_unique hports, hshows.nibbles_of_portsTo hports hd⟩
  · obtain ⟨device, hd⟩ := exists_device?_assignAddresses emulated pool (hshows.isLive_iff.2 hshows.root_mem)
    exact ⟨device, hd, hshows.physical_root hd⟩

/-- A television with a device at its port 17, one at port 16 of that, and so on. -/
def cascade : DeviceTree :=
  [(17, 0), (16, 1), (2, 2), (3, 3), (4, 4), (5, 5)].map (fun (port, above) =>
      Operation.insert ⟨above, 0⟩ { Device.named ("Device " ++ toString above) .playback with port })
    |>.foldl after (single { Device.named "TV" .tv with port := 9 })

/-- Of its ports the first counts as 1, the second not at all, and there is no room for the last. -/
theorem cascade_nibbles : cascade.Handled ∧ cascade.PortsTo ⟨6, 0⟩ [17, 16, 2, 3, 4, 5] ∧
    ∃ device, (cascade.assignAddresses ⟨0, 0⟩ .empty).value.1.device? ⟨6, 0⟩ = some device ∧
      device.physical.nibbles.map Fin.val = [1, 2, 3, 4] := by
  have hhandled : cascade.Handled := .foldl_after (.single _) _
  have hstep : ∀ index ports port, cascade.PortsTo ⟨index, 0⟩ ports → ⟨index + 1, 0⟩ ∈ cascade.children ⟨index, 0⟩ →
      (cascade.device? ⟨index + 1, 0⟩).map Device.port = some port →
        cascade.PortsTo ⟨index + 1, 0⟩ (ports ++ [port]) := by
    intro index ports port habove hid hport
    obtain ⟨device, hd, rfl⟩ := Option.map_eq_some_iff.1 hport
    exact .child habove hid hd
  have hports : cascade.PortsTo ⟨6, 0⟩ [17, 16, 2, 3, 4, 5] := by
    have h1 := hstep 0 [] 17 .root (by decide +kernel) (by decide +kernel)
    have h2 := hstep 1 _ 16 h1 (by decide +kernel) (by decide +kernel)
    have h3 := hstep 2 _ 2 h2 (by decide +kernel) (by decide +kernel)
    have h4 := hstep 3 _ 3 h3 (by decide +kernel) (by decide +kernel)
    have h5 := hstep 4 _ 4 h4 (by decide +kernel) (by decide +kernel)
    exact hstep 5 _ 5 h5 (by decide +kernel) (by decide +kernel)
  obtain ⟨device, ports, hd, -, hunique, hnibbles⟩ :=
    (Handled.nibbles_assignAddresses hhandled ⟨0, 0⟩ .empty).1 ⟨6, 0⟩ (by decide +kernel)
  refine ⟨hhandled, hports, device, hd, ?_⟩
  rw [hnibbles, ← hunique _ hports]
  decide +kernel

end DeviceTree

end CecBus
