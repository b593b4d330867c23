import DebugBridge.Proofs.Bridge.Commands
import DebugBridge.Proofs.Choice
import DebugBridge.Proofs.CommandLine.Arguments
import DebugBridge.Proofs.CommandLine.Program
import DebugBridge.Proofs.Tunnel.Waiting
import DebugBridge.Toml.Codec

/-!
# Which device the program talks to

A command that concerns a device lists the devices first. Every command after that is addressed to
the one device that the selector in force means, apart from those that are about a network address;
and if there is no such device, there is no such command.
-/

namespace DebugBridge.CommandLine

open Host Cancel

def Command.needsUsb : Command → Bool
  | .tcpip .. => true
  | _ => false

/-- The arguments of a command that names the device first, or is about a network address. -/
def Addressed (b : Bridge) (serial : String) (argv : List String) : Prop :=
  (∃ arguments, argv = b.argv (onDevice serial arguments)) ∨
    ∃ address, argv = b.argv ["connect", address] ∨ argv = b.argv ["disconnect", address]

abbrev TalksTo (b : Bridge) (serial : String) {α : Type} (m : Act α) : Prop :=
  Act.Within (Adds (Addressed b serial)) m

section operations
variable {b : Bridge} {serial : String} {token : String}

theorem compositional_talksTo (b : Bridge) (serial : String) :
    Compositional fun m => TalksTo b serial m :=
  compositional_within tolerant_adds

theorem talksTo_action (a : Action) (arguments : List String)
    (own : a.arguments = onDevice serial arguments) : TalksTo b serial (b.act token a) :=
  within_request (r := .act a) (.inl ⟨arguments, congrArg b.argv own⟩)

theorem talksTo_property (name : String) : TalksTo b serial (b.property token serial name) :=
  within_request (r := .ask (.property serial name)) (.inl ⟨_, rfl⟩)

theorem talksTo_address : TalksTo b serial (b.address token serial) :=
  within_request (r := .ask (.route serial)) (.inl ⟨_, rfl⟩)

theorem talksTo_printLine (line : String) : TalksTo b serial (printLine line) :=
  Act.Silent.adds fun _ => rfl

theorem talksTo_enable (port interval : Nat) :
    TalksTo b serial (Wireless.enable b token serial port interval) :=
  (compositional_talksTo b serial).enable (within_sleep tolerant_adds token interval)
    (talksTo_property _) (talksTo_action _ _ rfl) talksTo_address

theorem talksTo_join (address : String) :
    TalksTo b serial (Wireless.connect b token address) :=
  (compositional_talksTo b serial).join
    (within_request (r := .act (.disconnect _)) (.inr ⟨_, .inr rfl⟩))
    (within_request (r := .ask (.connect _)) (.inr ⟨_, .inl rfl⟩))

theorem talksTo_establish (t : Tunnel) (range : PortRange) (forceForward : Bool) :
    TalksTo b serial (t.establish b token serial range forceForward) :=
  (compositional_talksTo b serial).establish (within_reachLatest tolerant_adds) t range forceForward
    talksTo_action fun port => (silent_listen token port).adds

theorem talksTo_close (t : Tunnel) : TalksTo b serial (t.close b token serial) :=
  (compositional_talksTo b serial).close (within_reachLatest tolerant_adds) t talksTo_action
    fun listener => within_netClose tolerant_adds fun h => by
      obtain ⟨sockets, e⟩ := closeSocket_eq listener h
      rw [e]
      exact adds_of_same rfl

theorem talksTo_awaitConnection (settings : Config.TunnelSettings) (t : Tunnel)
    (direction : Direction) : TalksTo b serial (awaitConnection settings t direction) :=
  Act.Silent.adds fun h =>
    (awaited_of_run (awaitConnection_awaited settings t direction h)).commands

end operations

section commands
variable {b : Bridge} {d : Device}

theorem talksTo_ip : TalksTo b d.serial (runIp b d) := by
  have rules := compositional_talksTo b d.serial
  refine rules.bind talksTo_address fun result => ?_
  split
  · exact rules.pure _
  · exact rules.pure _
  · exact rules.bind (talksTo_printLine _) fun _ => rules.pure _

theorem talksTo_tcpip (port : Nat) : TalksTo b d.serial (runTcpip b port d) := by
  have rules := compositional_talksTo b d.serial
  unfold runTcpip
  split
  · exact rules.bind (talksTo_printLine _) fun _ =>
      rules.bind (rules.note _ _) fun _ => rules.pure _
  · refine rules.bind (talksTo_enable port _) fun result => ?_
    split
    · exact rules.pure _
    · refine rules.bind (talksTo_join _) fun result => ?_
      split
      · exact rules.pure _
      · exact rules.bind (talksTo_printLine _) fun _ => rules.pure _

/-- A device that is not on USB is not switched. -/
theorem silent_tcpip {port : Nat} (elsewhere : d.attachment ≠ .usb) :
    Act.Silent (runTcpip b port d) := by
  intro h
  unfold runTcpip
  rw [if_pos elsewhere]
  rfl

theorem talksTo_tunnel (settings : Config.TunnelSettings) (range : PortRange)
    (forceForward : Bool) :
    TalksTo b d.serial (runTunnel settings b d.serial range forceForward) := by
  have rules := compositional_talksTo b d.serial
  have used (t : Tunnel) (direction : Direction) (port : Nat) :
      TalksTo b d.serial (useTunnel settings b d.serial t direction port) := by
    refine rules.bind (talksTo_printLine _) fun _ =>
      rules.bind (talksTo_awaitConnection settings t direction) fun connection => ?_
    have closed : TalksTo b d.serial (takeDown b d.serial t connection) := by
      refine rules.bind (talksTo_close t) fun result => ?_
      split
      · exact rules.bind (rules.note _ _) fun _ => rules.pure _
      · exact rules.pure _
    refine rules.bind (Act.Silent.adds fun h => ?_) fun _ => closed
    obtain ⟨stdout, reported⟩ := reportConnection_ok connection h
    rw [Act.after_ok reported]
  refine rules.bind (talksTo_establish _ range forceForward) fun result => ?_
  obtain ⟨opened, t⟩ := result
  dsimp only
  split
  · exact rules.pure _
  · exact used t _ _
  · exact rules.pure _

end commands

section directed
variable {c : Config} {b : Bridge} {given? : Option Selector} {selector : Selector}
  {usbOnly : Bool} {f : Device → Act (Except Failure Unit)} {h : Host}

/-- From the one host to the other the devices are listed first. Every later command is addressed to
the only device of the listing that the selector accepts, and there is none unless that device is
ready and, if need be, on USB. -/
structure Directed (b : Bridge) (selector : Selector) (usbOnly : Bool) (h h' : Host) : Prop where
  listed : Once workToken (b.argv ["devices", "-l"]) h (Act.after (b.devices workToken) h)
  addressed : ∃ later, h'.commands = later ++ (Act.after (b.devices workToken) h).commands ∧
    (later ≠ [] → ∃ devices d, Act.returned? (b.devices workToken) h = some (.ok devices) ∧
      devices.filter selector.accepts = [d] ∧ d.isReady = true ∧
      (usbOnly = true → d.attachment = .usb) ∧ ∀ c ∈ later, Addressed b d.serial c.argv)

/-- Nothing is issued after the devices were listed. -/
theorem directed_of_listed {h' : Host}
    (commands : h'.commands = (Act.after (b.devices workToken) h).commands) :
    Directed b selector usbOnly h h' where
  listed := request_once b workToken (.ask .devices) h
  addressed := ⟨[], commands, fun more => absurd rfl more⟩

theorem directed_of_withDevice (selecting : selectorInForce c given? = .ok selector)
    (talks : ∀ d, TalksTo b d.serial (f d))
    (idle : ∀ d, usbOnly = true → d.attachment ≠ .usb → Act.Silent (f d)) (h : Host) :
    Directed b selector usbOnly h (Act.after (withDevice c b given? f) h) := by
  have chosen := choose_ends b workToken selector h
  unfold withDevice
  simp only [selecting]
  cases listing : b.devices workToken h with
  | error halt h₁ =>
    rw [listing] at chosen
    rw [Act.after_bind_error chosen]
    exact directed_of_listed (by rw [Act.after_error listing])
  | ok x h₁ =>
    rw [listing] at chosen
    obtain ⟨events, chosen⟩ := chosen
    rw [Act.after_bind_ok chosen]
    cases found : chosenFrom selector x with
    | error cause => exact directed_of_listed (by rw [Act.after_ok listing]; rfl)
    | ok d =>
      obtain ⟨devices, only, rfl, matching, ready, rfl⟩ := chosenFrom_ok.mp found
      obtain ⟨later, commands, own⟩ := adds_of_run (talks _ { h₁ with events := events })
      refine ⟨request_once b workToken (.ask .devices) h, later, ?_, fun more => ?_⟩
      · rw [Act.after_ok listing]
        exact commands
      · refine ⟨devices, only, by rw [Act.returned?, listing], matching, ready, fun wanted => ?_,
          own⟩
        -- A device that is not on USB would have got nothing more.
        by_contra elsewhere
        have silent := idle { only with selected := true } wanted elsewhere
          { h₁ with events := events }
        exact more (List.self_eq_append_left.mp (silent.symm.trans commands))

/-- A command that concerns a device chooses it and then talks to it only. -/
theorem run_withDevice {command : Command} (concerns : command.device? = some given?)
    (ranged : ∃ range, c.portRange = .ok range) (b : Bridge) :
    ∃ f, command.run c b = withDevice c b given? f ∧ (∀ d, TalksTo b d.serial (f d)) ∧
      ∀ d, command.needsUsb = true → d.attachment ≠ .usb → Act.Silent (f d) := by
  have rules (d : Device) := compositional_talksTo b d.serial
  cases command with
  | devices => cases concerns
  | serialno => cases concerns
  | select own? =>
    obtain rfl := Option.some.inj concerns
    exact ⟨_, rfl, fun d => (rules d).bind (talksTo_printLine _) fun _ => (rules d).pure _, nofun⟩
  | ip own? =>
    obtain rfl := Option.some.inj concerns
    exact ⟨_, rfl, fun _ => talksTo_ip, nofun⟩
  | tunnel own? range? force =>
    obtain rfl := Option.some.inj concerns
    -- A tunnel settles its range before it chooses the device.
    obtain ⟨range, known⟩ : ∃ range, range?.elim c.portRange .ok = .ok range := by
      cases range? with
      | none => exact ranged
      | some range => exact ⟨range, rfl⟩
    exact ⟨fun d => runTunnel c.tunnel b d.serial range (force || c.tunnel.forceForward),
      by simp only [Command.run, known], fun _ => talksTo_tunnel _ _ _, nofun⟩
  | tcpip own? port =>
    obtain rfl := Option.some.inj concerns
    exact ⟨_, rfl, fun _ => talksTo_tcpip port, fun _ _ => silent_tcpip⟩
  | shell own? words =>
    obtain rfl := Option.some.inj concerns
    exact ⟨_, rfl, fun d => (rules d).bind (talksTo_action _ _ rfl) fun _ => (rules d).pure _,
      nofun⟩

/-- The port range of a configuration that was loaded is one. -/
theorem ranged_of_load {codec : Toml.Codec} {path? : Except ConfigError String}
    {files : Files}
    (loaded : path?.bind (Config.load codec files) = .ok c) : ∃ range, c.portRange = .ok range := by
  obtain ⟨path, -, loaded⟩ := ok_of_bind loaded
  have checked {c' : Config} (e : c'.portRange.map (fun _ => c') = .ok c) :
      ∃ range, c.portRange = .ok range := by
    obtain ⟨range, named, rfl⟩ := ok_of_map e
    exact ⟨range, named⟩
  unfold Config.load Config.ofContent at loaded
  split at loaded
  · cases loaded
  · exact checked loaded
  · split at loaded
    · cases loaded
    · unfold Config.ofDocument at loaded
      split at loaded
      · cases loaded
      · exact checked loaded

end directed

section run
variable {reader : Reader} {codec : Toml.Codec} {env : Environment} {files : Files}
  {arguments : List String} {i : Invocation} {command : Command} {given? : Option Selector}

/-- A run of the program with a command that concerns a device. Without a configuration, or without
a selector, nothing is issued; the selector is the one that the options of the command mean, or else
the configured one. Otherwise the devices are listed, and only the one that the selector means is
talked to. -/
theorem run_directed (parsed : Invocation.ofArguments reader env.config? arguments = .ok i)
    (task : i.task = .command command) (concerns : command.device? = some given?) (h : Host) :
    let final := Act.after (run reader codec env files arguments) h
    (∃ own, OwnOptions reader arguments own ∧ own.selector? = .ok given?) ∧
    match (env.configPath i.config?).bind (Config.load codec files) with
    | .error _ => final.commands = h.commands
    | .ok c =>
      match given?.elim c.selector .ok with
      | .error _ => final.commands = h.commands
      | .ok selector =>
        let b := bridgeInForce env i c
        Directed b selector command.needsUsb (Act.after (announce b) h) final := by
  intro final
  have reading : run reader codec env files arguments = i.run codec env files := by
    simp only [run, parsed]
  refine ⟨selector_of_arguments parsed task concerns, ?_⟩
  cases loaded : (env.configPath i.config?).bind (Config.load codec files) with
  | error e =>
    obtain ⟨h', ran, world⟩ := run_unloaded task loaded h
    have ended : final = h' := Act.after_ok (by rw [reading, ran])
    exact ended ▸ world.commands
  | ok c =>
    -- Reporting the result issues nothing, so what was issued is what the command issued.
    have same : final.commands = _ :=
      (congrArg (fun m => (Act.after m h).commands) reading).trans
        (run_loaded task loaded h).sameWorld.commands
    obtain ⟨f, ran, talks, idle⟩ :=
      run_withDevice concerns (ranged_of_load loaded) (bridgeInForce env i c)
    rw [ran] at same
    dsimp only
    rw [show given?.elim c.selector .ok = selectorInForce c given? by cases given? <;> rfl]
    cases selecting : selectorInForce c given? with
    | error e =>
      have refused : withDevice c (bridgeInForce env i c) given? f =
          pure (.error (.config e)) := by simp only [withDevice, selecting]
      rw [refused] at same
      exact same
    | ok selector =>
      obtain ⟨listed, addressed⟩ := directed_of_withDevice selecting talks idle
        (Act.after (announce (bridgeInForce env i c)) h)
      rw [← same] at addressed
      exact ⟨listed, addressed⟩

/-- A device is attached over USB and another over the network. -/
def pair : Host where
  backend _ argv :=
    if argv = ["adb", "devices", "-l"] then
      { output := { bytes :=
        "List of devices attached\nphone device usb:1-1\n10.0.0.2:5555 device\n".toUTF8.toList } }
    else {}

def shellArguments : List String := ["shell", "--config", "adbtun.toml", "-d", "--", "ls"]

/-- The program lists the devices and runs the command on the one that is on USB. -/
theorem run_directed_usb : ∃ listing command,
    (Act.after (run readArguments Toml.codec {} {} shellArguments) pair).commands =
      [command, listing] ∧
    listing.argv = ["adb", "devices", "-l"] ∧ Addressed {} "phone" command.argv := by
  let i : Invocation :=
    { config? := some "adbtun.toml", task := .command (.shell (some .usb) ["ls"]) }
  have loaded : (({} : Environment).configPath i.config?).bind (Config.load Toml.codec {}) =
      .ok {} := by decide +kernel
  have bridge : bridgeInForce {} i {} = {} := by decide
  obtain ⟨-, directed⟩ := @run_directed readArguments Toml.codec {} {} shellArguments i _ _
    (by decide +kernel) rfl rfl pair
  rw [loaded] at directed
  obtain ⟨⟨issued, commands, argv⟩, later, ended, addressed⟩ := directed
  rw [bridge] at commands argv ended addressed
  have calm : (Act.after (announce {}) pair).interrupted workToken = false := by decide
  rw [calm] at argv
  obtain ⟨listing, rfl, named⟩ := List.map_eq_singleton_iff.mp argv
  have alone : (Act.after (({} : Bridge).devices workToken)
      (Act.after (announce {}) pair)).commands = [listing] := commands
  rw [alone] at ended
  have two : (Act.after (run readArguments Toml.codec {} {} shellArguments)
      pair).commands.length = 2 := by decide +kernel
  rw [ended] at two
  obtain ⟨command, rfl⟩ := List.length_eq_one_iff.mp (show later.length = 1 by simpa using two)
  obtain ⟨devices, d, found, only, -, -, own⟩ := addressed (by simp)
  have listed : Act.returned? (({} : Bridge).devices workToken) (Act.after (announce {}) pair) =
      some (.ok [{ serial := "phone", state := "device" },
        { serial := "10.0.0.2:5555", state := "device" }]) := by decide +kernel
  obtain rfl := Except.ok.inj (Option.some.inj (found.symm.trans listed))
  obtain rfl : _ = d := List.singleton_inj.mp only
  exact ⟨listing, command, ended, named, own command (by simp)⟩

end run
end DebugBridge.CommandLine
