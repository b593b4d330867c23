import DebugBridge.Proofs.Cancel.Patience
import DebugBridge.Proofs.CommandLine.Program
import DebugBridge.Proofs.Tunnel.Life
import DebugBridge.Toml.Codec

/-!
# A tunnel that was opened is removed

Whatever comes of the wait for a connection, the command that opened a tunnel closes it again, and
its result is that of the wait. Only the taking down can be in the way of that, never the work; and
only where nobody connects and nobody asks to stop, the wait itself lasts for ever.
-/

namespace DebugBridge.CommandLine

open Host Cancel Tunnel

/-- The exit code that a wait for a connection leads to: an interrupt is no failure. -/
def waitCode : Except TunnelError Nat → Nat
  | .ok _ => 0
  | .error e => if e.isInterrupted then 0 else 1

/-- The wait for a connection fails the program exactly if it failed itself and was not cancelled.
-/
theorem exitCode_waited (connection : Except TunnelError Nat) :
    exitCode (waited connection) = waitCode connection := by
  cases connection with
  | ok socket => rfl
  | error e =>
    have same : (Failure.tunnel e).isInterrupted = e.isInterrupted := by
      cases e with
      | net cause => cases cause <;> rfl
      | _ => rfl
    change (if (Failure.during _ (.tunnel e)).isInterrupted then 0 else 1) = _
    rw [Failure.isInterrupted_during, same]
    rfl

/-- The tunnel relies on its latest command, which the removal takes back. -/
structure Opened (b : Bridge) (serial : String) (t : Tunnel) (c : Host.Command)
    (removal : Action) (h : Host) : Prop where
  latest : h.commands.head? = some c
  registered : ∃ a, t.registration? serial = some a ∧
    a.undo? serial = some removal ∧ Registered b a c h

/-- The socket that the tunnel had on one host is closed on the other, and its port is free. -/
def Freed (t : Tunnel) (h h' : Host) : Prop :=
  ∀ listener, t.listener? = some listener →
    ∃ port, (h.sockets listener).endpoint = .loopback port ∧
      h'.sockets listener = .unconnected ∧ h'.isListening port = false

/-- How the command goes on with an open tunnel. -/
inductive Used (settings : Config.TunnelSettings) (b : Bridge) (t : Tunnel) (direction : Direction)
    (removal : Action) (h : Host) : EStateM.Result Halt Host (Except Failure Unit) → Prop
  /-- It waits for ever, and nobody asks it to stop. -/
  | waiting {h' : Host} : h'.commands = h.commands → h'.interrupted workToken = false →
      Used settings b t direction removal h (.error .forever h')
  /-- The removal runs for ever. -/
  | removing {r : Host.Command} {h' : Host} : h'.commands = r :: h.commands →
      r.argv = b.argv removal.arguments → Running r h' →
      Used settings b t direction removal h (.error .forever h')
  /-- Whatever came of the wait and of the removal. -/
  | removed {connection : Except TunnelError Nat} {r : Host.Command} {h₁ h₂ h' : Host} :
      SameWorld h h₁ → awaitConnection settings t direction h₁ = .ok connection h₂ →
      h'.commands = r :: h.commands → r.argv = b.argv removal.arguments → Freed t h h' →
      Used settings b t direction removal h (.ok (waited connection) h')

/-- The exit code of a program that used a tunnel is that of the wait. -/
theorem Used.exitCode {settings : Config.TunnelSettings} {b : Bridge} {t : Tunnel}
    {direction : Direction} {removal : Action} {files files' : Files} {code : Nat} {h h' : Host}
    {ran : EStateM.Result Halt Host (Except Failure Unit)}
    (used : Used settings b t direction removal h ran)
    (concluded : Concluded files ran (.ok (code, files') h')) :
    ∃ connection h₁ h₂, SameWorld h h₁ ∧
      awaitConnection settings t direction h₁ = .ok connection h₂ ∧ code = waitCode connection := by
  cases used with
  | waiting => cases concluded
  | removing => cases concluded
  | @removed connection _ h₁ h₂ _ world waitedFor =>
    cases concluded
    exact ⟨connection, h₁, h₂, world, waitedFor, exitCode_waited connection⟩

/-- While nothing stops the taking down, only what is blocked for ever does not return. -/
theorem forever_of_patient {α : Type} {m : Act α} {h h' : Host} {halt : Halt}
    (patient : Act.Patient m) (obeyed : h.Obeyed) (e : m h = .error halt h')
    (never : h'.interrupted teardownToken = false) : halt = .forever := by
  have came := patient h obeyed
  rw [e] at came
  obtain forever | raised := came
  · exact forever
  · simp [never] at raised

section use
variable {settings : Config.TunnelSettings} {b : Bridge} {serial : String} {t : Tunnel}
  {direction : Direction} {port : Nat} {a removal : Action} {h : Host}

/-- A socket that is bound to a reserved port is closed with the tunnel, and its port is free. -/
theorem freed_of_removing {h₁ h₂ h' : Host} (awaited : Awaited h h₁) (same : Undisturbed h₁ h₂)
    (fewer : Fewer h₁ h') (gone : ∀ id l, t.listener? = some id →
      h₂.sockets id = .listener l → h'.sockets id = .unconnected)
    (bound : ∀ id, t.listener? = some id → ∃ p, (h.sockets id).endpoint = .loopback p ∧
      Reserved p id h) : Freed t h h' := by
  intro listener own
  obtain ⟨p, endpoint, reserved⟩ := bound listener own
  -- Neither the wait nor the removal binds the socket anew, so it was open until it was closed.
  have still : (h₂.sockets listener).endpoint = .loopback p :=
    ((same.endpoints listener).trans (awaited.endpoints listener reserved.opened)).trans endpoint
  have closed : h'.sockets listener = .unconnected := by
    cases e : h₂.sockets listener with
    | listener l => exact gone listener l own e
    | unconnected => simp [e, Socket.endpoint] at still
    | stream s => simp [e, Socket.endpoint] at still
  exact ⟨p, endpoint, closed, ((reserved.fewer awaited.toFewer).fewer fewer).isListening
    (by rw [closed]; rfl)⟩

theorem takeDown_ok (connection : Except TunnelError Nat)
    {closed : Except Misuse (Except BridgeError Unit) × Tunnel} {h' : Host}
    (e : t.close b teardownToken serial h = .ok closed h') :
    ∃ events, takeDown b serial t connection h =
      .ok (waited connection) { h' with events := events } := by
  unfold takeDown
  rw [Act.bind_apply, e]
  dsimp only
  split <;> exact ⟨_, rfl⟩

/-- Taking the tunnel down issues the removal, unless somebody stopped the taking down. -/
theorem used_of_takeDown {connection : Except TunnelError Nat} {h₁ h₂ h₃ : Host}
    (world : SameWorld h h₁)
    (waitedFor : awaitConnection settings t direction h₁ = .ok connection h₂)
    (awaited : Awaited h h₃) (obeyed : h₃.Obeyed) {passage? : Option Passage}
    (represents : t.Represents passage?) (registration : t.registration? serial = some a)
    (undo : a.undo? serial = some removal)
    (bound : ∀ id, t.listener? = some id → ∃ p, (h.sockets id).endpoint = .loopback p ∧
      Reserved p id h)
    (never : (Act.after (takeDown b serial t connection) h₃).interrupted teardownToken = false) :
    Used settings b t direction removal h (takeDown b serial t connection h₃) := by
  obtain ⟨_, undo', removed⟩ := removing b teardownToken serial h₃ represents registration
  obtain rfl := Option.some.inj (undo.symm.trans undo')
  cases e : t.close b teardownToken serial h₃ with
  | error halt h' =>
    have run : takeDown b serial t connection h₃ = .error halt h' := by
      unfold takeDown
      rw [Act.bind_apply, e]
    rw [Act.after_error run] at never
    obtain rfl := forever_of_patient (patient_close b serial t) obeyed e never
    rw [e] at removed
    rw [run]
    cases removed with
    | halted _ commands argv running =>
      exact .removing (commands.trans (congrArg _ awaited.commands)) argv running
  | ok closed h₄ =>
    obtain ⟨events, run⟩ := takeDown_ok connection e
    rw [Act.after_ok run] at never
    have onward := onward_of_steps ((within_close t b teardownToken serial).ok e)
    -- A flag that is up stays up, so the removal found it down and was issued.
    have idle : h₃.interrupted teardownToken = false :=
      Bool.eq_false_iff.mpr fun raised => by
        have after : h₄.interrupted teardownToken = false := never
        simp [onward.flags _ raised] at after
    rw [e] at removed
    rw [run]
    cases removed with
    | closed once same fewer gone =>
      simp only [IssuedOnce, idle, Bool.false_eq_true, if_false] at once
      obtain ⟨r, commands, argv⟩ := once
      have freed : Freed t h h₄ := freed_of_removing awaited same fewer gone bound
      exact .removed world waitedFor (commands.trans (congrArg _ awaited.commands)) argv freed

/-- However the wait ends, the tunnel is removed, unless somebody stopped the taking down. -/
theorem used (obeyed : h.Obeyed) {passage? : Option Passage} (represents : t.Represents passage?)
    (registration : t.registration? serial = some a) (undo : a.undo? serial = some removal)
    (bound : ∀ id, t.listener? = some id → ∃ p, (h.sockets id).endpoint = .loopback p ∧
      Reserved p id h)
    (never : (Act.after (useTunnel settings b serial t direction port) h).interrupted
      teardownToken = false) :
    Used settings b t direction removal h (useTunnel settings b serial t direction port h) := by
  obtain ⟨line, use⟩ : ∃ line, useTunnel settings b serial t direction port = (do
      printLine line
      let connection ← awaitConnection settings t direction
      reportConnection connection
      takeDown b serial t connection) := ⟨_, rfl⟩
  rw [use] at never ⊢
  have world : SameWorld h (Act.after (printLine line) h) := by constructor <;> rfl
  have obeyed₀ : (Act.after (printLine line) h).Obeyed := ⟨obeyed.endless, obeyed.twice⟩
  have began : printLine line h = .ok () (Act.after (printLine line) h) := rfl
  generalize Act.after (printLine line) h = h₀ at world obeyed₀ began
  have first := world.quiet.awaited
  rw [Act.after_bind_ok began] at never
  rw [Act.bind_apply, began]
  dsimp only
  rw [Act.bind_apply]
  have came := patient_awaitConnection t settings direction h₀ obeyed₀
  cases e : awaitConnection settings t direction h₀ with
  | error halt h' =>
    rw [Act.after_bind_error e] at never
    obtain rfl := forever_of_patient (patient_awaitConnection t settings direction) obeyed₀ e never
    have waited := awaited_of_run ((awaitConnection_awaited settings t direction).error e)
    exact .waiting (first.trans waited).commands
      (awaitConnection_wakeful settings t direction h₀ h' e)
  | ok connection h₁ =>
    rw [Act.after_bind_ok e] at never
    rw [e] at came
    have awaited := first.trans
      (awaited_of_run ((awaitConnection_awaited settings t direction).ok e))
    -- Whether the wait succeeded only matters for what is printed; the tunnel is taken down anyway.
    obtain ⟨stdout, reported⟩ := reportConnection_ok connection h₁
    have printed : Awaited h₁ { h₁ with stdout := stdout } :=
      tolerant_awaited.write _ _ (by constructor <;> rfl)
    rw [Act.after_bind_ok reported] at never
    dsimp only
    rw [Act.bind_apply, reported]
    exact used_of_takeDown world e (awaited.trans printed) ⟨came.endless, came.twice⟩ represents
      registration undo bound never

/-- A tunnel that was just opened relies on its latest command, and its socket is bound. -/
theorem opened_of_establish {b : Bridge} {token serial socket : String} {range : PortRange}
    {forceForward : Bool} {t : Tunnel} {h h₁ : Host}
    (e : establish { socket := socket } b token serial range forceForward h =
      .ok (.ok (.ok ()), t) h₁) :
    ∃ passage direction port a removal c, t.Represents (some passage) ∧
      t.direction? = some direction ∧ t.port? = some port ∧ t.registration? serial = some a ∧
      a.undo? serial = some removal ∧ Opened b serial t c removal h₁ ∧
      ∀ id, t.listener? = some id → ∃ p, (h₁.sockets id).endpoint = .loopback p ∧
        Reserved p id h₁ := by
  obtain ⟨issued, outcome, commands, -, settlement, ending⟩ := establish_settles rfl e
  have latest : h₁.commands.head? = (issued.reverse ++ h.commands).head? := by rw [commands]
  cases settlement with
  | failed => cases ending.1
  | @reverse port listener c last registered _ mem asked _ =>
    obtain ⟨-, rfl⟩ := ending
    obtain ⟨granted, endpoint, reserved, -⟩ := asked
    refine ⟨_, .reverse, port, _, _, c, represents_through _ _, rfl, rfl, rfl, rfl,
      ⟨by simp [latest, last], _, rfl, rfl, registered⟩, fun id own => ?_⟩
    obtain rfl := Option.some.inj own
    exact ⟨granted, endpoint, reserved⟩
  | @forward port c last registered _ mem _ =>
    obtain ⟨-, rfl⟩ := ending
    exact ⟨_, .forward, port, _, _, c, represents_through _ _, rfl, rfl, rfl, rfl,
      ⟨by simp [latest, last], _, rfl, rfl, registered⟩, fun id own => by cases own⟩

/-- How the tunnel command goes on after it tried to open its tunnel. -/
theorem runTunnel_ends {range : PortRange} {forceForward : Bool} (obeyed : h.Obeyed)
    (never : (Act.after (runTunnel settings b serial range forceForward) h).interrupted
      teardownToken = false) :
    match establish { socket := settings.socketName } b workToken serial range forceForward h with
    | .error halt h₁ => runTunnel settings b serial range forceForward h = .error halt h₁
    | .ok (.error _, _) _ => False
    | .ok (.ok (.error e), _) h₁ =>
      runTunnel settings b serial range forceForward h = .ok (.error (.tunnel e)) h₁
    | .ok (.ok (.ok ()), t) h₁ => ∃ direction command removal,
        t.direction? = some direction ∧ Opened b serial t command removal h₁ ∧
        Used settings b t direction removal h₁
          (runTunnel settings b serial range forceForward h) := by
  have came := patient_establish b serial { socket := settings.socketName } workToken range
    forceForward h obeyed
  unfold runTunnel at never ⊢
  simp only at never ⊢
  rw [Act.bind_apply]
  cases e : establish { socket := settings.socketName } b workToken serial range forceForward h with
  | error halt h₁ => rfl
  | ok result h₁ =>
    rw [Act.after_bind_ok e] at never
    rw [e] at came
    obtain ⟨opened, t⟩ := result
    match opened with
    | .error misuse =>
      obtain ⟨_, outcome, _, _, _, ending⟩ := establish_settles rfl e
      cases outcome <;> cases ending.1
    | .ok (.error cause) => rfl
    | .ok (.ok ()) =>
      obtain ⟨passage, direction, port, a, removal, command, represents, directed, ported,
        registration, undo, opened, bound⟩ := opened_of_establish e
      refine ⟨direction, command, removal, directed, opened, ?_⟩
      simp only [directed, ported] at never ⊢
      exact used came represents registration undo bound never

end use

section run
variable {codec : Toml.Codec} {env : Environment} {files : Files} {i : Invocation} {c : Config}
  {given? : Option Selector} {range? : Option PortRange} {force : Bool} {selector : Selector}
  {range : PortRange} {d : Device} {h h₀ : Host}

/-- A tunnel that the program opened is removed by its last command, whatever comes of the wait for
a connection and of the removal, as long as nobody stops the taking down; the result and the exit
code are those of the wait, for which an interrupt is no failure. Where no tunnel was opened, no
command follows the attempt. -/
theorem tunnel_removed (task : i.task = .command (.tunnel given? range? force))
    (loaded : (env.configPath i.config?).bind (Config.load codec files) = .ok c)
    (ranged : range?.elim c.portRange .ok = .ok range)
    (selecting : selectorInForce c given? = .ok selector)
    (chosen : (bridgeInForce env i c).choose workToken selector
      (Act.after (announce (bridgeInForce env i c)) h) = .ok (.ok d) h₀)
    (few : h.requests ≤ 1) (endless : h.clockEnd? = none)
    (never : (Act.after (i.run codec env files) h).interrupted teardownToken = false) :
    let b := bridgeInForce env i c
    let forceForward := force || c.tunnel.forceForward
    let ran := runTunnel c.tunnel b d.serial range forceForward h₀
    Concluded files ran (i.run codec env files h) ∧
    match establish { socket := c.tunnel.socketName } b workToken d.serial range forceForward
        h₀ with
    | .error halt h₁ => ran = .error halt h₁
    | .ok (.error _, _) _ => False
    | .ok (.ok (.error e), _) h₁ => ran = .ok (.error (.tunnel e)) h₁
    | .ok (.ok (.ok ()), t) h₁ => ∃ direction command removal,
        t.direction? = some direction ∧ Opened b d.serial t command removal h₁ ∧
        Used c.tunnel b t direction removal h₁ ran ∧
        ∀ code files' h', i.run codec env files h = .ok (code, files') h' →
          ∃ connection h₂ h₃, SameWorld h₁ h₂ ∧
            awaitConnection c.tunnel t direction h₂ = .ok connection h₃ ∧
            code = waitCode connection := by
  intro b forceForward ran
  have concluded := run_loaded task loaded h
  have selected :
      (Command.tunnel given? range? force).run c b (Act.after (announce b) h) = ran := by
    simp only [Command.run, ranged, withDevice, selecting]
    rw [Act.bind_apply, chosen]
  rw [selected] at concluded
  have world : SameWorld (Act.after (runTunnel c.tunnel b d.serial range forceForward) h₀)
      (Act.after (i.run codec env files) h) := Concluded.sameWorld concluded
  rw [Host.interrupted, world.tokens] at never
  have obeyed : (Act.after (announce b) h).Obeyed := ⟨endless, fun twice => by
    have few : (Act.after (announce b) h).requests ≤ 1 := few
    omega⟩
  have came := patient_choose b workToken selector _ obeyed
  rw [chosen] at came
  have ended := runTunnel_ends came never
  refine ⟨concluded, ?_⟩
  generalize establish _ _ _ _ _ _ _ = opening at ended ⊢
  cases opening with
  | error halt h₁ => exact ended
  | ok result h₁ =>
    obtain ⟨misuse | cause | ⟨⟩, t⟩ := result
    · exact ended
    · exact ended
    · obtain ⟨direction, command, removal, directed, opened, used⟩ := ended
      exact ⟨direction, command, removal, directed, opened, used, fun code files' h' returned =>
        used.exitCode (returned ▸ concluded)⟩

/-- One device is attached, and the user asks to stop once the tunnel is open. -/
def impatient : Host where
  backend _ argv :=
    if argv = ["adb", "devices", "-l"] then
      { output := { bytes := "List of devices attached\nphone device\n".toUTF8.toList } }
    else {}
  cues := [.line "tunnel open"]

def plainTunnel : Invocation :=
  { config? := some "adbtun.toml", task := .command (.tunnel none none false) }

/-- The program is stopped while it waits, removes the tunnel and ends with success. -/
theorem tunnel_removed_impatient : ∃ h₀ h₁ h' r,
    establish { socket := "adbtun" } {} workToken "phone" ⟨27183, 27199, by decide, by decide⟩
        false h₀ =
      .ok (.ok (.ok ()), ({ socket := "adbtun" } : Tunnel).through (.reverse 27183 0)) h₁ ∧
    plainTunnel.run Toml.codec {} {} impatient = .ok (0, {}) h' ∧ h'.commands = r :: h₁.commands ∧
    r.argv = ["adb", "-s", "phone", "reverse", "--remove", "localabstract:adbtun"] ∧
    h'.isListening 27183 = false := by
  let phone : Device := { serial := "phone", state := "device", selected := true }
  let choosing := ({} : Bridge).choose workToken .any
  let opening := establish { socket := "adbtun" } {} workToken "phone"
    ⟨27183, 27199, by decide, by decide⟩ false
  let h₀ := Act.after choosing (Act.after (announce {}) impatient)
  have chosen : choosing (Act.after (announce {}) impatient) = .ok (.ok phone) h₀ :=
    Act.of_returned? (by decide +kernel)
  have opened : opening h₀ =
      .ok (.ok (.ok ()), ({ socket := "adbtun" } : Tunnel).through (.reverse 27183 0))
      (Act.after opening h₀) := Act.of_returned? (by decide +kernel)
  have endpoint : ((Act.after opening h₀).sockets 0).endpoint = .loopback 27183 := by
    decide +kernel
  have returned : plainTunnel.run Toml.codec {} {} impatient =
      .ok (0, {}) (Act.after (plainTunnel.run Toml.codec {} {}) impatient) :=
    Act.of_returned? (by decide +kernel)
  have bridge : bridgeInForce {} plainTunnel {} = {} := by decide
  obtain ⟨concluded, ended⟩ := @tunnel_removed Toml.codec {} {} plainTunnel {} none none false .any
    ⟨27183, 27199, by decide, by decide⟩ phone impatient h₀ rfl (by decide +kernel)
    (by decide +kernel) rfl (by rwa [bridge]) (by decide) rfl (by decide +kernel)
  simp only [bridge, Bool.or_self] at concluded ended
  rw [show establish _ _ _ _ _ _ _ = _ from opened] at ended
  obtain ⟨direction, command, removal, -, ⟨-, a, registration, undo, -⟩, used, -⟩ := ended
  cases registration
  cases undo
  generalize running : plainTunnel.run Toml.codec {} {} impatient = result at concluded
  generalize runTunnel _ _ _ _ _ _ = ran at concluded used
  cases concluded with
  | halted => cases returned.symm.trans running
  | @returned x h₂ h' world =>
    cases used with
    | removed _ _ commands argv freed =>
      obtain ⟨port, bound, -, free⟩ := freed 0 rfl
      obtain rfl : 27183 = port := by simpa using endpoint.symm.trans bound
      obtain ⟨-, ended⟩ := EStateM.Result.ok.inj (returned.symm.trans running)
      exact ⟨h₀, _, h', _, opened, by rw [← running, returned, ended],
        world.commands.trans commands, argv,
        (isListening_congr world.taken world.sockets world.socketCount 27183).trans free⟩

/-- The same device, which connects, and a user who does not ask to stop. -/
def visited : Host where
  backend := impatient.backend
  visitors _ := [.ok { address? := some (.loopback 40000) }]

/-- A device that connects ends the wait, and then the tunnel is removed. -/
example :
    Act.returned? (plainTunnel.run Toml.codec {} {}) visited = some (0, {}) ∧
      (Act.after (plainTunnel.run Toml.codec {} {}) visited).printed =
        ("tunnel open (Reverse) between 127.0.0.1:27183 and localabstract:adbtun\n" ++
          "device connected from 127.0.0.1:40000\n").toUTF8.toList ∧
      (Act.after (plainTunnel.run Toml.codec {} {}) visited).commands.head?.map (·.argv) =
        some ["adb", "-s", "phone", "reverse", "--remove", "localabstract:adbtun"] := by
  decide +kernel

end run
end DebugBridge.CommandLine
