import DebugBridge.Proofs.Tunnel.Settlement

/-!
# The port of an open tunnel

The port of a tunnel is the one that its last command names, and lies in the range. In reverse
direction the tunnel's socket is bound to it, unless it is port zero: a socket that asks for port
zero is bound to a port of the system's choice, which the tunnel does not ask for. In forward
direction nobody can connect to port zero either.
-/

namespace DebugBridge.Tunnel

open Host

/-- An open tunnel agrees with the last command. -/
inductive Agrees (b : Bridge) (serial : String) (range : PortRange) (c : Command) (h : Host)
    (t : Tunnel) : Prop
  /-- The tunnel's socket is bound to the port of the tunnel exactly if that is not zero. -/
  | reverse {port listener bound : Nat} : t.direction? = some .reverse → t.port? = some port →
      t.listener? = some listener → Registered b (.reverse serial t.socket port) c h →
      range.first ≤ port → port ≤ range.last → (h.sockets listener).endpoint = .loopback bound →
      (bound = port ↔ port ≠ 0) → Agrees b serial range c h t
  | forward {port : Nat} : t.direction? = some .forward → t.port? = some port →
      t.listener? = none → Registered b (.forward serial port t.socket) c h →
      range.first ≤ port → port ≤ range.last → Agrees b serial range c h t

/-- The port that a socket is bound to is the one that was asked for exactly if that is not zero. -/
theorem bound_iff {port id : Nat} {h : Host} (asked : BoundFor port id h) :
    ∃ bound, (h.sockets id).endpoint = .loopback bound ∧ (bound = port ↔ port ≠ 0) := by
  obtain ⟨bound, endpoint, -, granted⟩ := asked
  refine ⟨bound, endpoint, ?_⟩
  by_cases zero : port = 0
  · have ephemeral : firstEphemeral ≤ bound := by simpa [zero] using granted
    simp only [firstEphemeral] at ephemeral
    simp only [zero, ne_eq, not_true_eq_false, iff_false]
    omega
  · have same : bound = port := by simpa [zero] using granted
    simp [same, zero]

/-- Whenever a tunnel was opened, its port is the one that its last command named, whatever the
commands did before, which ports are taken and whenever the token is interrupted. -/
theorem establish_agrees {t t' : Tunnel} {b : Bridge} {token serial : String} {range : PortRange}
    {forceForward : Bool} {h h' : Host}
    (returned : t.establish b token serial range forceForward h = .ok (.ok (.ok ()), t') h') :
    ∃ c, h'.commands.head? = some c ∧ Agrees b serial range c h' t' := by
  cases isOpen : t.enabled with
  | true =>
    rw [establish_open isOpen] at returned
    cases returned
  | false =>
    obtain ⟨issued, outcome, commands, -, settlement, ending⟩ := establish_settles isOpen returned
    have latest : h'.commands.head? = (issued.reverse ++ h.commands).head? := by rw [commands]
    cases settlement with
    | failed => cases ending.1
    | @reverse port listener c last registered _ mem asked _ =>
      obtain ⟨-, rfl⟩ := ending
      obtain ⟨bound, endpoint, same⟩ := bound_iff asked
      obtain ⟨low, high⟩ := PortRange.mem_ports.mp mem
      exact ⟨c, by simp [latest, last], .reverse rfl rfl rfl registered low high endpoint same⟩
    | @forward port c last registered _ mem _ =>
      obtain ⟨-, rfl⟩ := ending
      obtain ⟨low, high⟩ := PortRange.mem_ports.mp mem
      exact ⟨c, by simp [latest, last], .forward rfl rfl rfl registered low high⟩

/-- The first port is taken, so the tunnel is open on the second one. -/
theorem establish_agrees_second :
    ∃ h' c, establish { socket := "mirror" } {} "work" "phone" ⟨5000, 5001, by decide, by decide⟩
        false { backend := fun _ _ => {}, taken := fun p => p = 5000 } =
          .ok (.ok (.ok ()), ({ socket := "mirror" } : Tunnel).through (.reverse 5001 1)) h' ∧
      h'.commands.head? = some c ∧
      Agrees {} "phone" ⟨5000, 5001, by decide, by decide⟩ c h'
        (({ socket := "mirror" } : Tunnel).through (.reverse 5001 1)) := by
  have run : Act.returned? (establish { socket := "mirror" } {} "work" "phone"
      ⟨5000, 5001, by decide, by decide⟩ false)
      { backend := fun _ _ => {}, taken := fun p => p = 5000 } =
        some (.ok (.ok ()), ({ socket := "mirror" } : Tunnel).through (.reverse 5001 1)) := by
    decide +kernel
  have returned := Act.of_returned? run
  obtain ⟨c, latest, agrees⟩ := establish_agrees returned
  exact ⟨_, c, returned, latest, agrees⟩

/-- A range may begin at port zero. Then the tunnel is open on port zero in either direction,
although its socket is bound to another port. -/
theorem establish_zero :
    (∃ h', establish { socket := "mirror" } {} "work" "phone" (.single 0 (by decide)) false
        { backend := fun _ _ => {} } =
          .ok (.ok (.ok ()), ({ socket := "mirror" } : Tunnel).through (.reverse 0 0)) h' ∧
      (h'.sockets 0).endpoint = .loopback firstEphemeral) ∧
    ∃ h', establish { socket := "mirror" } {} "work" "phone" (.single 0 (by decide)) true
        { backend := fun _ _ => {} } =
          .ok (.ok (.ok ()), ({ socket := "mirror" } : Tunnel).through (.forward 0)) h' :=
  ⟨⟨_, rfl, rfl⟩, _, rfl⟩

end DebugBridge.Tunnel
