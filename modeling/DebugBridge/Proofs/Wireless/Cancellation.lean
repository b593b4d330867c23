import DebugBridge.Proofs.Bridge.Commands
import DebugBridge.Proofs.Cancel.Effect
import DebugBridge.Wireless

/-!
# A switch that is cancelled

An interrupt that comes while a device restarts is noticed by the next sleep, or by the poll that it
cancels. Only after the last poll there is no sleep: an interrupt during this poll is overlooked if
the poll is not cancelled, that is, if its command succeeds all the same or cannot be started. Then
the switch ends as if the device had not come back in time.
-/

namespace DebugBridge.Wireless

open Host

section round
variable (b : Bridge) (token serial : String) (port : Nat)

/-- A poll that was begun with an idle token neither reports the port nor is cancelled. -/
structure Missed (answer : Except BridgeError String) (h h' : Host) : Prop where
  idle : h.interrupted token = false
  asked : b.property token serial portProperty h = .ok answer h'
  other : answer ≠ .ok (toString port)
  regular : answer ≠ .error .interrupted

/-- An interrupt came during the last poll, before which so many commands were issued, and the poll
was missed all the same: its command succeeded or could not be started. -/
inductive Overlooked (number : Nat) : Host → Prop
  | intro {answer : Except BridgeError String} {h h' : Host} {events : List Event} :
      Missed b token serial port answer h h' → h.commands.length = number →
      h'.interrupted token = true →
      ((h'.children h.childCount).outcome? = some (.code 0) ∨
        ∃ cause, answer = .error (.spawn "getprop" cause)) →
      Overlooked number { h' with events := events }

end round

section waiting
variable {b : Bridge} {token serial : String} {port interval : Nat}

theorem Missed.commands {answer : Except BridgeError String} {h h' : Host}
    (missed : Missed b token serial port answer h h') :
    h'.commands.length = h.commands.length + 1 :=
  request_issues (r := .ask (.property serial portProperty)) missed.idle missed.asked

theorem Missed.overlooked {answer : Except BridgeError String} {h h' : Host}
    (missed : Missed b token serial port answer h h') (raised : h'.interrupted token = true)
    (events : List Event) :
    Overlooked b token serial port h.commands.length { h' with events := events } :=
  .intro missed rfl raised
    (run_uncancelled (.ask (.property serial portProperty)) missed.asked raised missed.regular)

theorem Overlooked.commands {number : Nat} {h : Host}
    (overlooked : Overlooked b token serial port number h) : h.commands.length = number + 1 := by
  obtain ⟨missed, rfl, -, -⟩ := overlooked
  exact missed.commands

/-- One round of the wait ends it, or its poll is missed and the wait goes on. -/
theorem awaitPort_round {left : Nat} {h h' : Host} {x : Except WirelessError Unit}
    (ran : awaitPort b token serial port interval (left + 1) h = .ok x h') :
    x = .ok () ∨ x = .error .interrupted ∨
      ∃ answer h₁ h₂ events, h₁.commands = h.commands ∧
        Missed b token serial port answer h₁ h₂ ∧
        awaitPort b token serial port interval left { h₂ with events := events } = .ok x h' := by
  unfold awaitPort at ran
  obtain ⟨awake, h₁, slept, ran⟩ := Act.ok_of_bind ran
  have flag := sleep_awake slept
  have commands : h₁.commands = h.commands :=
    (quiet_of_tended ((within_sleep (tolerant_tending token 0) token interval).ok slept)).commands
  cases awake with
  | false =>
    cases ran
    exact .inr (.inl rfl)
  | true =>
    obtain ⟨answer, h₂, asked, ran⟩ := Act.ok_of_bind ran
    cases answer with
    | ok value =>
      by_cases found : value = toString port
      · simp only [found, if_true] at ran
        cases ran
        exact .inl rfl
      · simp only [found, if_false, Act.bind_apply, Act.note_apply] at ran
        have missed : Missed b token serial port (.ok value) h₁ h₂ :=
          ⟨flag, asked, fun same => found (Except.ok.inj same), nofun⟩
        exact .inr (.inr ⟨_, h₁, h₂, _, commands, missed, ran⟩)
    | error e =>
      cases cancelled : e.isInterrupted with
      | true =>
        simp only [cancelled, if_true] at ran
        cases ran
        exact .inr (.inl rfl)
      | false =>
        simp only [cancelled, Bool.false_eq_true, if_false, Act.bind_apply,
          Act.note_apply] at ran
        have regular : (.error e : Except BridgeError String) ≠ .error .interrupted := by
          rintro ⟨⟩
          simp [BridgeError.isInterrupted] at cancelled
        exact .inr (.inr ⟨_, h₁, h₂, _, commands, ⟨flag, asked, nofun, regular⟩, ran⟩)

/-- A wait that fails with the token interrupted is cancelled, unless that was overlooked. -/
theorem awaitPort_interrupted (left : Nat) : ∀ {h h' : Host} {e : WirelessError},
    awaitPort b token serial port interval (left + 1) h = .ok (.error e) h' →
    h'.interrupted token = true →
    e = .interrupted ∨ e = .restartTimeout serial port ∧
      Overlooked b token serial port (h.commands.length + left) h' := by
  induction left with
  | zero =>
    intro h h' e ran raised
    obtain found | cancelled | ⟨answer, h₁, h₂, events, commands, missed, rest⟩ :=
      awaitPort_round ran
    · cases found
    · exact .inl (Except.error.inj cancelled)
    · cases rest
      rw [← commands]
      exact .inr ⟨rfl, missed.overlooked raised events⟩
  | succ left ih =>
    intro h h' e ran raised
    obtain found | cancelled | ⟨answer, h₁, h₂, events, commands, missed, rest⟩ :=
      awaitPort_round ran
    · cases found
    · exact .inl (Except.error.inj cancelled)
    · have next : h.commands.length + (left + 1) = h₂.commands.length + left := by
        rw [missed.commands, commands]
        omega
      have further := ih rest raised
      rw [next]
      exact further

end waiting

section switch
variable (b : Bridge) (token serial : String) (port : Nat)

/-- A switch has found the device elsewhere and restarted it, and begins to wait. -/
inductive Restarted (h : Host) : Host → Prop
  | intro {value : String} {h₁ h₂ : Host} :
      b.property token serial portProperty h = .ok (.ok value) h₁ → value ≠ toString port →
      b.act token (.tcpip serial port) (h₁.note .info s!"enabling TCP/IP mode on port {port}") =
        .ok (.ok ()) h₂ →
      Restarted h h₂

def EndsWaiting (interval : Nat) (h h' : Host) : Prop :=
  ∃ h₁ e, Restarted b token serial port h h₁ ∧
    awaitPort b token serial port interval pollAttempts h₁ = .ok (.error e) h'

end switch

section switch
variable {b : Bridge} {token serial : String} {port interval : Nat} {h h' : Host}

/-- An operation that succeeds was not refused. -/
theorem idle_of_ok {r : Request} {a : r.Value} (ran : r.run b token h = .ok (.ok a) h') :
    h.interrupted token = false := by
  refine Bool.eq_false_iff.mpr fun raised => ?_
  rw [run_refused r raised] at ran
  cases ran

theorem Restarted.commands (restarted : Restarted b token serial port h h') :
    h'.commands.length = h.commands.length + 2 := by
  obtain @⟨value, h₁, _, asked, -, acted⟩ := restarted
  have first := request_issues (r := .ask (.property serial portProperty))
    (idle_of_ok (r := .ask (.property serial portProperty)) asked) asked
  have second := request_issues (r := .act (.tcpip serial port))
    (idle_of_ok (r := .act (.tcpip serial port)) acted) acted
  exact second.trans (congrArg (· + 1) first)

/-- A switch whose wait fails returns that failure. -/
theorem Restarted.enable {h₁ : Host} {e : WirelessError}
    (restarted : Restarted b token serial port h h₁)
    (waited : awaitPort b token serial port interval pollAttempts h₁ = .ok (.error e) h') :
    enable b token serial port interval h = .ok (.error e) h' := by
  obtain ⟨asked, differs, acted⟩ := restarted
  have ensured : ensurePort b token serial port interval h = .ok (.error e) h' := by
    unfold ensurePort
    rw [Act.bind_apply, asked]
    simp only [differs, if_false]
    rw [Act.bind_apply, Act.note_apply]
    simp only
    rw [Act.bind_apply, show b.act token (.tcpip serial port) _ = _ from acted]
    exact waited
  unfold Wireless.enable
  rw [Act.bind_apply, ensured]
  rfl

/-- The question for the address does not end in a timeout. -/
theorem ensurePort_of_timeout {name : String} {number : Nat}
    (ran : Wireless.enable b token serial port interval h =
      .ok (.error (.restartTimeout name number)) h') :
    ensurePort b token serial port interval h =
      .ok (.error (.restartTimeout name number)) h' := by
  unfold Wireless.enable at ran
  obtain ⟨x, h₁, ensured, ran⟩ := Act.ok_of_bind ran
  cases x with
  | error e =>
    cases ran
    exact ensured
  | ok _ =>
    obtain ⟨y, h₂, -, ran⟩ := Act.ok_of_bind ran
    cases y with
    | error e => cases ran
    | ok address? => cases address? <;> cases ran

/-- Only a wait ends in a timeout. -/
theorem endsWaiting_of_timeout {name : String} {number : Nat}
    (ensured : ensurePort b token serial port interval h =
      .ok (.error (.restartTimeout name number)) h') :
    EndsWaiting b token serial port interval h h' := by
  unfold ensurePort at ensured
  obtain ⟨x, h₁, asked, ensured⟩ := Act.ok_of_bind ensured
  cases x with
  | error e => cases ensured
  | ok value =>
    by_cases found : value = toString port
    · simp only [found, if_true, Act.bind_apply, Act.note_apply] at ensured
      cases ensured
    · simp only [found, if_false] at ensured
      obtain ⟨_, _, noted, ensured⟩ := Act.ok_of_bind ensured
      cases noted
      obtain ⟨y, h₂, acted, ensured⟩ := Act.ok_of_bind ensured
      cases y with
      | error e => cases ensured
      | ok _ => exact ⟨h₂, _, .intro asked found acted, ensured⟩

/-- A switch that ends while it waits, with the token interrupted, is cancelled, unless the
interrupt was overlooked in the last poll. -/
theorem EndsWaiting.interrupted (ended : EndsWaiting b token serial port interval h h')
    (raised : h'.interrupted token = true) :
    ∃ e, Wireless.enable b token serial port interval h = .ok (.error e) h' ∧
      (e = .interrupted ∨ e = .restartTimeout serial port ∧
        Overlooked b token serial port (h.commands.length + 41) h') := by
  obtain ⟨h₁, e, restarted, waited⟩ := ended
  refine ⟨e, restarted.enable waited, ?_⟩
  have cancelled := awaitPort_interrupted 39 waited raised
  rw [restarted.commands] at cancelled
  exact cancelled

end switch

/-- An interrupted switch ends in a timeout only if the interrupt was overlooked in the last poll;
and if it ends while it waits for the restart, it counts as cancelled except in this one case. -/
theorem enable_cancelled (b : Bridge) (token serial : String) (port interval : Nat) {h h' : Host}
    {x : Except WirelessError String}
    (ran : Wireless.enable b token serial port interval h = .ok x h')
    (raised : h'.interrupted token = true) :
    (∀ name number, x = .error (.restartTimeout name number) →
      Overlooked b token serial port (h.commands.length + 41) h') ∧
    (EndsWaiting b token serial port interval h h' →
      ∃ e, x = .error e ∧ (e.isInterrupted = true ∨
        Overlooked b token serial port (h.commands.length + 41) h')) := by
  have waited (ended : EndsWaiting b token serial port interval h h') :
      ∃ e, x = .error e ∧ (e = .interrupted ∨ e = .restartTimeout serial port ∧
        Overlooked b token serial port (h.commands.length + 41) h') := by
    obtain ⟨e, ran', cases⟩ := ended.interrupted raised
    rw [ran] at ran'
    exact ⟨e, (EStateM.Result.ok.inj ran').1, cases⟩
  constructor
  · rintro name number rfl
    obtain ⟨e, eq, rfl | ⟨-, overlooked⟩⟩ :=
      waited (endsWaiting_of_timeout (ensurePort_of_timeout ran))
    · cases eq
    · exact overlooked
  · intro ended
    obtain ⟨e, eq, rfl | ⟨-, overlooked⟩⟩ := waited ended
    · exact ⟨_, eq, .inl rfl⟩
    · exact ⟨e, eq, .inr overlooked⟩

/-- A host on which every command succeeds without a word, while an interrupt comes as a command is
waited for. -/
def silentDevice (command : Nat) : Host where
  backend := fun _ _ => {}
  strikes := [⟨command, .wait, "work", false⟩]

/-- The ninth poll is not cancelled by an interrupt either, but the sleep after it notices. -/
theorem enable_cancelled_ninth :
    ∃ e h', enable {} "work" "phone" 5555 0 (silentDevice 10) = .ok (.error e) h' ∧
      h'.interrupted "work" = true ∧
      EndsWaiting {} "work" "phone" 5555 0 (silentDevice 10) h' ∧ e.isInterrupted = true := by
  let h₁ := Act.after (({} : Bridge).property "work" "phone" portProperty) (silentDevice 10)
  let h₂ := Act.after (({} : Bridge).act "work" (.tcpip "phone" 5555))
    (h₁.note .info s!"enabling TCP/IP mode on port {5555}")
  let h' := Act.after (awaitPort {} "work" "phone" 5555 0 pollAttempts) h₂
  have asked : ({} : Bridge).property "work" "phone" portProperty (silentDevice 10) =
      .ok (.ok "") h₁ := Act.of_returned? (by decide +kernel)
  have restarted : Restarted {} "work" "phone" 5555 (silentDevice 10) h₂ :=
    .intro asked (by decide) (Act.of_returned? (by decide +kernel))
  have waited : awaitPort {} "work" "phone" 5555 0 pollAttempts h₂ =
      .ok (.error .interrupted) h' := Act.of_returned? (by decide +kernel)
  have ended : EndsWaiting {} "work" "phone" 5555 0 (silentDevice 10) h' :=
    ⟨h₂, _, restarted, waited⟩
  have raised : h'.interrupted "work" = true := by decide +kernel
  have ran := restarted.enable waited
  obtain ⟨e, eq, cancelled | overlooked⟩ :=
    (enable_cancelled {} "work" "phone" 5555 0 ran raised).2 ended
  · exact ⟨e, h', eq ▸ ran, raised, ended, cancelled⟩
  · have few : h'.commands.length = 11 := by decide +kernel
    rw [overlooked.commands] at few
    exact absurd few (by decide)

/-- An interrupt during the last poll is overlooked: the switch ends in a timeout. -/
theorem enable_overlooks :
    Act.returned? (enable {} "work" "phone" 5555 0) (silentDevice 41) =
        some (.error (.restartTimeout "phone" 5555)) ∧
      (Act.after (enable {} "work" "phone" 5555 0) (silentDevice 41)).interrupted "work" =
        true := by
  decide +kernel

end DebugBridge.Wireless
