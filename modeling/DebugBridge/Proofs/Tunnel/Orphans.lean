import DebugBridge.Proofs.Tunnel.Settlement

/-!
# Registrations that are left behind

A registration in reverse direction that is of no use is removed before anything else is done. The
removal is a bridge command like any other, so it is not issued through an interrupted token: this
is the only way in which a registration can be left behind.
-/

namespace DebugBridge.Tunnel

open Host

/-- When a negotiation does not end in reverse direction, every registration in that direction that
exited with zero was followed at once by its removal. The one exception is the last command of an
interrupted negotiation. -/
theorem registrations_undone {t t' : Tunnel} {b : Bridge} {token serial : String}
    {range : PortRange} {forceForward : Bool} {h h' : Host} {result : Except TunnelError Unit}
    (returned : t.establish b token serial range forceForward h = .ok (.ok result, t') h')
    (notReverse : result ≠ .ok () ∨ t'.direction? = some .forward) :
    ∃ issued : List Command, h'.commands = issued.reverse ++ h.commands ∧
      ∀ i c, issued[i]? = some c → IsRegistration b serial t.socket c →
        outcomeOf? c h' = some (.code 0) →
        (∃ r, issued[i + 1]? = some r ∧
          r.argv = b.argv (Action.reverseRemove serial t.socket).arguments) ∨
        i + 1 = issued.length ∧ result = .error .interrupted ∧ h'.interrupted token = true := by
  cases isOpen : t.enabled with
  | true =>
    rw [establish_open isOpen] at returned
    cases returned
  | false =>
    obtain ⟨issued, outcome, commands, -, settlement, ending⟩ := establish_settles isOpen returned
    refine ⟨issued, commands, fun i c at_ registration succeeded => ?_⟩
    cases settlement with
    | failed followed =>
      obtain ⟨eq, rfl⟩ := ending
      obtain rfl := Except.ok.inj eq
      obtain next | ⟨⟨rfl, raised⟩, last⟩ := followed i c at_ registration fun _ => succeeded
      · exact .inl next
      · exact .inr ⟨last, rfl, raised⟩
    | reverse =>
      obtain ⟨eq, rfl⟩ := ending
      obtain failed | forward := notReverse
      · exact absurd (Except.ok.inj eq) failed
      · cases forward
    | forward latest registered followed =>
      obtain next | ⟨impossible, -⟩ := followed i c at_ registration fun _ => succeeded
      · exact .inl next
      · exact impossible.elim

/-- The only port is taken: its registration is removed before forward direction is used. -/
theorem registrations_undone_fallback :
    ∃ h', establish { socket := "mirror" } {} "work" "phone" (.single 5000 (by decide)) false
        { backend := fun _ _ => {}, taken := fun p => p = 5000 } =
          .ok (.ok (.ok ()), ({ socket := "mirror" } : Tunnel).through (.forward 5000)) h' ∧
      ∃ issued : List Command, h'.commands = issued.reverse ∧
        ∀ i c, issued[i]? = some c → IsRegistration {} "phone" "mirror" c →
          outcomeOf? c h' = some (.code 0) → ∃ r, issued[i + 1]? = some r ∧
            r.argv = ({} : Bridge).argv (Action.reverseRemove "phone" "mirror").arguments := by
  have run : Act.returned? (establish { socket := "mirror" } {} "work" "phone"
      (.single 5000 (by decide)) false) { backend := fun _ _ => {}, taken := fun p => p = 5000 } =
        some (.ok (.ok ()), ({ socket := "mirror" } : Tunnel).through (.forward 5000)) := by
    decide +kernel
  have returned := Act.of_returned? run
  refine ⟨_, returned, ?_⟩
  obtain ⟨issued, commands, followed⟩ := registrations_undone returned (.inr rfl)
  refine ⟨issued, by simpa using commands, fun i c at_ registration succeeded => ?_⟩
  obtain next | ⟨-, failed, -⟩ := followed i c at_ registration succeeded
  · exact next
  · cases failed

/-- An interrupt while a registration that succeeds is waited for leaves it behind: it is the only
command, although it exited with zero and the negotiation failed. -/
theorem registration_left_behind :
    ∃ h' c, establish { socket := "mirror" } {} "work" "phone" (.single 5000 (by decide)) false
        { backend := fun _ _ => {}
          strikes := [{ command := 0, point := .wait, token := "work" }] } =
          .ok (.ok (.error .interrupted), { socket := "mirror" }) h' ∧
      h'.commands = [c] ∧ IsRegistration {} "phone" "mirror" c ∧
      outcomeOf? c h' = some (.code 0) :=
  ⟨_, _, rfl, rfl, ⟨5000, rfl⟩, rfl⟩

end DebugBridge.Tunnel
