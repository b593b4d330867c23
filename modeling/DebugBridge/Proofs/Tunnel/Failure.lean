import DebugBridge.Proofs.Tunnel.Settlement

/-!
# Failing to open a tunnel

A tunnel that could not be opened is as it was before, and nothing that was opened on the way
listens any longer. The failure counts as the interrupt exactly if the token is interrupted in the
end; otherwise every port of the range was tried. Only the command that opens the tunnel in forward
direction can outrun an interrupt.
-/

namespace DebugBridge.Tunnel

open Host

/-- What a failure leaves behind and how it is reported. -/
structure FailedCleanly (token : String) (range : PortRange) (e : TunnelError) (t t' : Tunnel)
    (h h' : Host) : Prop where
  tunnel : t' = t
  listening : ∀ p, h'.isListening p = true → h.isListening p = true
  interrupted : e = .interrupted ↔ h'.interrupted token = true
  exhausted : e = .portRangeExhausted range ↔ h'.interrupted token = false

theorem Classified.interrupted_iff {token : String} {range : PortRange} {e : TunnelError}
    {h : Host} (classified : Classified token range e h) :
    (e = .interrupted ↔ h.interrupted token = true) ∧
      (e = .portRangeExhausted range ↔ h.interrupted token = false) := by
  obtain ⟨rfl, raised⟩ | ⟨rfl, idle⟩ := classified
  · simp [raised]
  · simp [idle]

/-- Whatever the commands do, which ports are taken and whenever the token is interrupted, a failure
is clean. A success is overtaken by an interrupt only while its last command runs, which then is the
one that opened the tunnel in forward direction. -/
theorem establish_atomic {t t' : Tunnel} {b : Bridge} {token serial : String} {range : PortRange}
    {forceForward : Bool} {h h' : Host} {result : Except TunnelError Unit}
    (returned : t.establish b token serial range forceForward h = .ok (.ok result, t') h') :
    match result with
    | .error e => FailedCleanly token range e t t' h h'
    | .ok () => h.Unstruck .listen → h'.interrupted token = true →
        ∃ port, t' = t.through (.forward port) ∧
          Overtaken b token (.forward serial port t.socket) h h' := by
  cases isOpen : t.enabled with
  | true =>
    rw [establish_open isOpen] at returned
    cases returned
  | false =>
    obtain ⟨issued, outcome, -, -, settlement, ending⟩ := establish_settles isOpen returned
    cases settlement with
    | failed _ tidy classified =>
      obtain ⟨eq, rfl⟩ := ending
      obtain rfl := Except.ok.inj eq
      obtain ⟨interrupted, exhausted⟩ := classified.interrupted_iff
      exact ⟨rfl, tidy.listening, interrupted, exhausted⟩
    | reverse _ _ _ _ _ unraised =>
      obtain ⟨eq, rfl⟩ := ending
      obtain rfl := Except.ok.inj eq
      intro unstruck raised
      simp [unraised unstruck] at raised
    | @forward port _ _ _ _ _ overtaken =>
      obtain ⟨eq, rfl⟩ := ending
      obtain rfl := Except.ok.inj eq
      exact fun _ raised => ⟨port, rfl, overtaken raised⟩

/-- The only port is taken, and the interrupt comes while the command in forward direction is waited
for, which exits with zero. -/
theorem establish_atomic_overtaken :
    ∃ h', establish { socket := "mirror" } {} "work" "phone" (.single 5000 (by decide)) false
        { backend := fun _ _ => {}
          taken := fun p => p = 5000
          strikes := [⟨2, .wait, "work", false⟩] } =
          .ok (.ok (.ok ()), ({ socket := "mirror" } : Tunnel).through (.forward 5000)) h' ∧
      Overtaken {} "work" (.forward "phone" 5000 "mirror")
        { backend := fun _ _ => {}
          taken := fun p => p = 5000
          strikes := [⟨2, .wait, "work", false⟩] } h' := by
  have run : Act.returned? (establish { socket := "mirror" } {} "work" "phone"
      (.single 5000 (by decide)) false)
      { backend := fun _ _ => {}, taken := fun p => p = 5000
        strikes := [⟨2, .wait, "work", false⟩] } =
        some (.ok (.ok ()), ({ socket := "mirror" } : Tunnel).through (.forward 5000)) := by
    decide +kernel
  have raised : (Act.after (establish { socket := "mirror" } {} "work" "phone"
      (.single 5000 (by decide)) false)
      { backend := fun _ _ => {}, taken := fun p => p = 5000
        strikes := [⟨2, .wait, "work", false⟩] }).interrupted "work" = true := by decide +kernel
  have returned := Act.of_returned? run
  refine ⟨_, returned, ?_⟩
  obtain ⟨port, passage, overtaken⟩ := establish_atomic returned (by simp [Unstruck]) raised
  cases passage
  exact overtaken

end DebugBridge.Tunnel
