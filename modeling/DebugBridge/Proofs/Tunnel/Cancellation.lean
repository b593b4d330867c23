import DebugBridge.Proofs.Host.SocketCalls
import DebugBridge.Proofs.Tunnel.Settlement

/-!
# Interrupts and failures of a tunnel's sockets

A socket call tells an interrupt from a failure, and what is done with a tunnel keeps the two apart:
an interrupted call is reported as the interrupt of the tunnel, never as a failed socket.
-/

namespace DebugBridge

open Host Cancel

namespace Act
variable {α β : Type} {P : α → Prop} {Q : β → Prop} {m : Act α} {f : α → Act β}

def Gives (P : α → Prop) (m : Act α) : Prop := ∀ h a h', m h = .ok a h' → P a

theorem gives_any (m : Act α) : Gives (fun _ => True) m := fun _ _ _ _ => trivial

theorem gives_pure {a : α} (holds : P a) : Gives P (pure a) := by
  intro h b h' returned
  cases returned
  exact holds

theorem gives_bind (first : Gives P m) (rest : ∀ a, P a → Gives Q (f a)) : Gives Q (m >>= f) := by
  intro h b h' returned
  obtain ⟨a, h₁, ran, returned⟩ := ok_of_bind returned
  exact rest a (first h a h₁ ran) h₁ b h' returned

end Act

/-- An interrupted socket call is an interrupt of the tunnel. -/
theorem TunnelError.ofNet_ne (e : NetError) : TunnelError.ofNet e ≠ .net .interrupted := by
  cases e <;> nofun

namespace Tunnel

/-- A result that is not an interrupted socket call taken for a failed one. -/
def Told {α : Type} (result : Except TunnelError α) : Prop := result ≠ .error (.net .interrupted)

theorem told_ok {α : Type} (a : α) : Told (.ok a : Except TunnelError α) := nofun

theorem told_error {α : Type} {e : TunnelError} (ne : e ≠ .net .interrupted) :
    Told (.error e : Except TunnelError α) :=
  fun same => ne (Except.error.inj same)

theorem told_interrupted {α : Type} : Told (.error .interrupted : Except TunnelError α) :=
  told_error nofun

theorem told_ofNet {α : Type} (e : NetError) :
    Told (.error (.ofNet e) : Except TunnelError α) :=
  told_error (TunnelError.ofNet_ne e)

theorem accept_told (t : Tunnel) (token : String) : Act.Gives Told (t.accept token) := by
  unfold accept
  split
  · refine Act.gives_bind (Act.gives_any _) fun result _ => Act.gives_pure ?_
    cases result with
    | ok stream => exact told_ok stream
    | error e => exact told_ofNet e
  · exact Act.gives_pure (told_error nofun)

theorem greet_told (token : String) (port : Nat) : Act.Gives Told (greet token port) := by
  refine Act.gives_bind (Act.gives_any _) fun connected _ => ?_
  cases connected with
  | error e => exact Act.gives_pure (told_ofNet e)
  | ok stream =>
    refine Act.gives_bind (Act.gives_any _) fun greeting _ => ?_
    match greeting with
    | .error e => exact Act.gives_pure (told_ofNet e)
    | .ok [] => exact Act.gives_pure (told_error nofun)
    | .ok (_ :: _) => exact Act.gives_pure (told_ok stream)

/-- The error of the last attempt is the result, and each attempt tells it rightly. -/
theorem connectWith_told (token : String) (port delay : Nat) (attempts attempt : UInt32) :
    Act.Gives Told (connectWith token port attempts delay attempt) := by
  induction attempt using connectWith.induct attempts with
  | case1 attempt ih =>
    rw [connectWith]
    refine Act.gives_bind (greet_told token port) fun greeted told => ?_
    split
    · exact Act.gives_bind (Act.gives_any _) fun _ _ => Act.gives_pure (told_ok _)
    · exact Act.gives_pure (told_interrupted)
    · split
      · exact Act.gives_pure told
      · next left =>
        refine Act.gives_bind (Act.gives_any _) fun _ _ =>
          Act.gives_bind (Act.gives_any _) fun slept _ => ?_
        split
        · exact ih left
        · exact Act.gives_pure (told_interrupted)

theorem connect_told (t : Tunnel) (token : String) (attempts : UInt32) (delay : Nat) :
    Act.Gives Told (t.connect token attempts delay) := by
  unfold connect
  split
  · exact connectWith_told token _ delay _ 1
  · exact Act.gives_pure (told_error nofun)

/-- A negotiation fails by an interrupt or for want of a port, whatever its sockets report. -/
theorem establish_told (t : Tunnel) (b : Bridge) (token serial : String) (range : PortRange)
    (forceForward : Bool) :
    Act.Gives (fun r => ∀ result, r.1 = .ok result → Told result)
      (t.establish b token serial range forceForward) := by
  intro h r h' returned result e
  obtain ⟨r, t'⟩ := r
  obtain rfl : r = .ok result := e
  cases isOpen : t.enabled with
  | true =>
    rw [establish_open isOpen] at returned
    cases returned
  | false =>
    obtain ⟨issued, outcome, -, -, settlement, settled⟩ := establish_settles isOpen returned
    cases settlement with
    | failed _ _ classified =>
      obtain ⟨e, -⟩ := settled
      obtain rfl := Except.ok.inj e
      obtain ⟨rfl, -⟩ | ⟨rfl, -⟩ := classified
      · exact told_error nofun
      · exact told_error nofun
    | reverse =>
      obtain ⟨e, -⟩ := settled
      obtain rfl := Except.ok.inj e
      exact told_ok ()
    | forward =>
      obtain ⟨e, -⟩ := settled
      obtain rfl := Except.ok.inj e
      exact told_ok ()

end Tunnel

namespace Net

/-- Socket calls tell an interrupt from a failure. Every single call is denied what it needs to arm
its socket, is refused, or is judged by what the system reports and by the token as it then is. In
every conversation a token that was interrupted at the start stays so, and nothing is done through
it but asking for what a call needs; where a token is not interrupted in the end, no call through it
was reported as interrupted; and no call leaves a token armed. And no tunnel reports an interrupt as
a failed socket. -/
theorem calls_separate :
    (∀ token c h, Ran token c h (c.run token h)) ∧
    (∀ h xs h', Talk h xs h' → ArmsOnly [] h h' ∧ ∀ x ∈ xs, x.Separate h h') ∧
    (∀ e, TunnelError.ofNet e ≠ .net .interrupted) ∧
    (∀ (t : Tunnel) token, Act.Gives Tunnel.Told (t.accept token)) ∧
    (∀ (t : Tunnel) token attempts delay,
      Act.Gives Tunnel.Told (t.connect token attempts delay)) ∧
    ∀ (t : Tunnel) b token serial range forceForward,
      Act.Gives (fun r => ∀ result, r.1 = .ok result → Tunnel.Told result)
        (t.establish b token serial range forceForward) :=
  ⟨ran, fun _ _ _ talk => talk.separate, TunnelError.ofNet_ne, Tunnel.accept_told,
    Tunnel.connect_told, Tunnel.establish_told⟩

/-- No descriptor is free, and every token was interrupted. -/
def exhausted : Host where
  backend _ _ := {}
  supply := [some .tooManyFiles]
  tokens _ := { interrupted := true }

/-- The want of a descriptor is noticed before the interrupt, and it is what the call reports. -/
theorem calls_separate_exhausted :
    exhausted.interrupted "work" = true ∧
      ∃ h', (Call.listen 7).run "work" exhausted =
        .ok (.error (.io "create socket for" (.loopback 7) .tooManyFiles)) h' :=
  ⟨rfl, _, rfl⟩

/-- An interrupt of the token that listens comes just when the listening was completed. -/
def struck : Host :=
  { backend := fun _ _ => {}, strikes := [⟨0, .listen, "work", false⟩] }

/-- The socket that was interrupted too late is there, and through the interrupted token nothing
more is done; through another one a connection is still refused as such. -/
theorem calls_separate_struck :
    ∃ h₁ h₂, (Call.listen 7).run "work" struck = .ok (.ok 0) h₁ ∧
      (Call.accept 0).run "work" h₁ = .ok (.error .interrupted) h₁ ∧
      (Call.connect 7).run "user" h₁ =
        .ok (.error (.io "connect to" (.loopback 7) .networkUnreachable)) h₂ ∧
      (h₂.tokens "user").armed = none := by
  have listened := Act.of_returned? (h := struck) (m := (Call.listen 7).run "work") (a := .ok 0)
    (by decide +kernel)
  generalize after : Act.after ((Call.listen 7).run "work") struck = h₁ at listened
  have raised : h₁.interrupted "work" = true := by
    rw [← after]
    decide +kernel
  have accepted := Act.of_returned? (h := h₁) (m := (Call.accept 0).run "work")
    (a := .error .interrupted) (by rw [← after]; decide +kernel)
  have dialled := Act.of_returned? (h := h₁) (m := (Call.connect 7).run "user")
    (a := .error (.io "connect to" (.loopback 7) .networkUnreachable))
    (by rw [← after]; decide +kernel)
  obtain ⟨-, talked, -⟩ := calls_separate
  have ample : h₁.supply = [] := by
    rw [← after]
    decide +kernel
  have unchanged : Act.after ((Call.accept 0).run "work") h₁ = h₁ :=
    (((talked h₁ _ _ (.call accepted (.done _))).2 _ (List.mem_singleton_self _)).inert
      raised).2.trans (supplied_nil ample)
  rw [unchanged] at accepted
  have disarmed := (talked h₁ _ _ (.call dialled (.done _))).1 "user"
  have unarmed : (h₁.tokens "user").armed = none := by
    rw [← after]
    decide +kernel
  refine ⟨h₁, _, listened, accepted, dialled, ?_⟩
  apply Option.eq_none_iff_forall_ne_some.mpr
  intro r held
  have held := disarmed r List.not_mem_nil held
  rw [unarmed] at held
  cases held

end Net
end DebugBridge
