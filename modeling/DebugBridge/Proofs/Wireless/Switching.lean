import DebugBridge.Proofs.Bridge.Still

/-!
# How a device is switched to the network

The switch of a device is specified by the operations it does and what it returns. What each of them
returns may depend on all commands before it. A failure of the first query or of the restart ends
the switch; a failure of a poll is tolerated like any other value. Lists of operations hold the
latest first.
-/

namespace DebugBridge.Wireless

open Host

def portQuery (serial : String) : Request := .ask (.property serial portProperty)

def restart (serial : String) (port : Nat) : Request := .act (.tcpip serial port)

def routeQuery (serial : String) : Request := .ask (.route serial)

section spec
variable (b : Bridge) (serial : String) (port : Nat) (h₀ : Host)

/-- On which port the device says it listens, when it is asked after these operations. -/
def portAfter (done : List Request) : Except BridgeError String :=
  h₀.answerAfter b done (portQuery serial)

def restartAfter (done : List Request) : Except BridgeError Unit :=
  h₀.answerAfter b done (restart serial port)

/-- The address of the device, if it has one, when it is asked for after these operations. -/
def addressAfter (done : List Request) : Except BridgeError (Option String) :=
  h₀.answerAfter b done (routeQuery serial)

/-- What a switch makes of the answer to the question for the address. -/
def targetOf : Except BridgeError (Option String) → Except WirelessError String
  | .error e => .error (.bridge e)
  | .ok none => .error (.noAddress serial)
  | .ok (some address) => .ok s!"{address}:{port}"

/-- Waiting for the port: the polls left, the operations before and after, and what comes of it. -/
inductive Polling : Nat → List Request → List Request → Except WirelessError Unit → Prop
  | exhausted {done : List Request} : Polling 0 done done (.error (.restartTimeout serial port))
  | reported {left : Nat} {done : List Request} :
      portAfter b serial h₀ done = .ok (toString port) →
      Polling (left + 1) done (portQuery serial :: done) (.ok ())
  /-- Another value or a failure: the next poll follows. -/
  | tolerated {left : Nat} {done done' : List Request} {result : Except WirelessError Unit} :
      portAfter b serial h₀ done ≠ .ok (toString port) →
      Polling left (portQuery serial :: done) done' result → Polling (left + 1) done done' result

/-- Bringing the daemon to the port: the operations done, and what comes of it. -/
inductive Ensuring : List Request → Except WirelessError Unit → Prop
  | unanswered {e : BridgeError} : portAfter b serial h₀ [] = .error e →
      Ensuring [portQuery serial] (.error (.bridge e))
  | already : portAfter b serial h₀ [] = .ok (toString port) →
      Ensuring [portQuery serial] (.ok ())
  | refused {value : String} {e : BridgeError} :
      portAfter b serial h₀ [] = .ok value → value ≠ toString port →
      restartAfter b serial port h₀ [portQuery serial] = .error e →
      Ensuring [restart serial port, portQuery serial] (.error (.bridge e))
  | restarted {value : String} {done : List Request} {result : Except WirelessError Unit} :
      portAfter b serial h₀ [] = .ok value → value ≠ toString port →
      restartAfter b serial port h₀ [portQuery serial] = .ok () →
      Polling b serial port h₀ 40 [restart serial port, portQuery serial] done result →
      Ensuring done result

inductive Switching : List Request → Except WirelessError String → Prop
  | failed {done : List Request} {e : WirelessError} : Ensuring b serial port h₀ done (.error e) →
      Switching done (.error e)
  | ensured {done : List Request} : Ensuring b serial port h₀ done (.ok ()) →
      Switching (routeQuery serial :: done) (targetOf serial port (addressAfter b serial h₀ done))

def Elsewhere : Prop := ∃ value, portAfter b serial h₀ [] = .ok value ∧ value ≠ toString port

end spec

section runs
variable {b : Bridge} {serial : String} {port : Nat} {h₀ : Host}

theorem Polling.unique {left : Nat} {done done₁ done₂ : List Request}
    {r₁ r₂ : Except WirelessError Unit} (a : Polling b serial port h₀ left done done₁ r₁)
    (c : Polling b serial port h₀ left done done₂ r₂) : done₁ = done₂ ∧ r₁ = r₂ := by
  induction a with
  | exhausted =>
    cases c
    exact ⟨rfl, rfl⟩
  | reported found =>
    cases c with
    | reported => exact ⟨rfl, rfl⟩
    | tolerated other => exact absurd found other
  | tolerated other _ ih =>
    cases c with
    | reported found => exact absurd found other
    | tolerated _ further => exact ih further

theorem Ensuring.unique {done₁ done₂ : List Request} {r₁ r₂ : Except WirelessError Unit}
    (a : Ensuring b serial port h₀ done₁ r₁) (c : Ensuring b serial port h₀ done₂ r₂) :
    done₁ = done₂ ∧ r₁ = r₂ := by
  cases a with
  | unanswered failed => cases c <;> simp_all
  | already found => cases c <;> simp_all
  | refused first differs refused => cases c <;> simp_all
  | restarted first differs restarted polling =>
    cases c with
    | restarted _ _ _ polling' => exact polling.unique polling'
    | _ => simp_all

/-- The specification leaves no choice: it determines the operations and the result. -/
theorem Switching.unique {done₁ done₂ : List Request} {r₁ r₂ : Except WirelessError String}
    (a : Switching b serial port h₀ done₁ r₁) (c : Switching b serial port h₀ done₂ r₂) :
    done₁ = done₂ ∧ r₁ = r₂ := by
  cases a with
  | failed ensuring =>
    cases c with
    | failed ensuring' =>
      obtain ⟨rfl, same⟩ := ensuring.unique ensuring'
      exact ⟨rfl, congrArg Except.error (Except.error.inj same)⟩
    | ensured ensuring' => exact nomatch (ensuring.unique ensuring').2
  | ensured ensuring =>
    cases c with
    | failed ensuring' => exact nomatch (ensuring.unique ensuring').2
    | ensured ensuring' =>
      obtain ⟨rfl, -⟩ := ensuring.unique ensuring'
      exact ⟨rfl, rfl⟩

/-- Waiting only polls, at most as often as it may; if the port was not reported, as often as it
may. -/
theorem Polling.polls {left : Nat} {done done' : List Request} {result : Except WirelessError Unit}
    (polling : Polling b serial port h₀ left done done' result) :
    ∃ n ≤ left, done' = List.replicate n (portQuery serial) ++ done ∧
      (result ≠ .ok () → n = left) := by
  induction polling with
  | exhausted => exact ⟨0, Nat.le_refl 0, rfl, fun _ => rfl⟩
  | @reported left => exact ⟨1, Nat.succ_pos left, rfl, fun lost => absurd rfl lost⟩
  | tolerated _ _ ih =>
    obtain ⟨n, le, eq, all⟩ := ih
    refine ⟨n + 1, Nat.succ_le_succ le, ?_, fun lost => congrArg (· + 1) (all lost)⟩
    rw [eq, List.replicate_succ', List.append_assoc]
    rfl

/-- The poll that ends a successful wait has reported the port. -/
theorem Polling.found {left : Nat} {done done' : List Request}
    (polling : Polling b serial port h₀ left done done' (.ok ())) :
    ∃ before, done' = portQuery serial :: before ∧
      portAfter b serial h₀ before = .ok (toString port) := by
  generalize eq : (.ok () : Except WirelessError Unit) = result at polling
  induction polling with
  | exhausted => cases eq
  | reported found => exact ⟨_, rfl, found⟩
  | tolerated _ _ ih => exact ih eq

/-- A successful wait, or none, ends with the report of the port. -/
theorem Ensuring.found {done : List Request} (ensuring : Ensuring b serial port h₀ done (.ok ())) :
    ∃ before, done = portQuery serial :: before ∧
      portAfter b serial h₀ before = .ok (toString port) := by
  cases ensuring with
  | already found => exact ⟨[], rfl, found⟩
  | restarted _ _ _ polling => exact polling.found

/-- The daemon is restarted once if it listens elsewhere, and else not at all. -/
theorem Ensuring.restarts {done : List Request} {result : Except WirelessError Unit}
    (ensuring : Ensuring b serial port h₀ done result) :
    done.count (restart serial port) ≤ 1 ∧
      (restart serial port ∈ done ↔ Elsewhere b serial port h₀) := by
  have other : portQuery serial ≠ restart serial port := nofun
  have once : [restart serial port, portQuery serial].count (restart serial port) = 1 := by
    simp [other]
  cases ensuring with
  | unanswered failed => exact ⟨List.count_le_length, by simp [Elsewhere, failed, other.symm]⟩
  | already found => exact ⟨List.count_le_length, by simp [Elsewhere, found, other.symm]⟩
  | refused first differs =>
    exact ⟨Nat.le_of_eq once, fun _ => ⟨_, first, differs⟩, fun _ => by simp⟩
  | restarted first differs _ polling =>
    obtain ⟨n, -, rfl, -⟩ := polling.polls
    refine ⟨?_, fun _ => ⟨_, first, differs⟩, fun _ => by simp⟩
    rw [List.count_append, once]
    simp [List.count_replicate, other]

/-- The question for the address changes nothing about that. -/
theorem Switching.restarts {done : List Request} {result : Except WirelessError String}
    (switching : Switching b serial port h₀ done result) :
    done.count (restart serial port) ≤ 1 ∧
      (restart serial port ∈ done ↔ Elsewhere b serial port h₀) := by
  have other : routeQuery serial ≠ restart serial port := nofun
  cases switching with
  | failed ensuring => exact ensuring.restarts
  | ensured ensuring => simpa [other, other.symm] using ensuring.restarts

/-- What a device can be connected to is its address with the port that it reported right before it
was asked for the address. -/
theorem Switching.target {done : List Request} {target : String}
    (switching : Switching b serial port h₀ done (.ok target)) :
    ∃ before address, done = routeQuery serial :: portQuery serial :: before ∧
      portAfter b serial h₀ before = .ok (toString port) ∧
      addressAfter b serial h₀ (portQuery serial :: before) = .ok (some address) ∧
      target = s!"{address}:{port}" := by
  generalize eq : (.ok target : Except WirelessError String) = result at switching
  cases switching with
  | failed => cases eq
  | ensured ensuring =>
    obtain ⟨before, rfl, reported⟩ := ensuring.found
    cases answer : addressAfter b serial h₀ (portQuery serial :: before) with
    | error e => simp [answer, targetOf] at eq
    | ok address? =>
      cases address? with
      | none => simp [answer, targetOf] at eq
      | some address =>
        rw [answer] at eq
        exact ⟨before, address, rfl, reported, answer, Except.ok.inj eq⟩

end runs

section refinement
variable {b : Bridge} {token serial : String} {port : Nat} {h₀ : Host} (interval : Nat)
  (ends : ∀ before argv, (h₀.backend before argv).Ends)
include ends

/-- Waiting for the port follows its specification, poll by poll. -/
theorem awaitPort_follows (left : Nat) : ∀ {done : List Request} {h : Host},
    Along b token h₀ done h → ∃ done' result h', Polling b serial port h₀ left done done' result ∧
      awaitPort b token serial port interval left h = .ok result h' ∧
      Along b token h₀ done' h' := by
  induction left with
  | zero => exact fun along => ⟨_, _, _, .exhausted, rfl, along⟩
  | succ left ih =>
    intro done h along
    obtain ⟨h₁, slept, along₁⟩ := along.sleep interval
    obtain ⟨h₂, asked, along₂⟩ := along₁.run (portQuery serial) (ends _ _)
    change b.property token serial portProperty h₁ = .ok (portAfter b serial h₀ done) h₂ at asked
    unfold awaitPort
    simp only [Act.bind_apply, slept, if_true, asked]
    cases answer : portAfter b serial h₀ done with
    | ok value =>
      by_cases found : value = toString port
      · subst found
        simp only [if_true]
        exact ⟨_, _, h₂, .reported answer, rfl, along₂⟩
      · obtain ⟨done', result, h', polling, ran, along'⟩ := ih (along₂.write _)
        have other : portAfter b serial h₀ done ≠ .ok (toString port) := by
          rw [answer]
          exact fun same => found (Except.ok.inj same)
        simp only [found, if_false, Act.bind_apply, Act.note_apply]
        exact ⟨done', result, h', .tolerated other polling, ran, along'⟩
    | error e =>
      have regular : e.isInterrupted = false := Request.returns_regular _ (ends _ _) answer
      obtain ⟨done', result, h', polling, ran, along'⟩ := ih (along₂.write _)
      have other : portAfter b serial h₀ done ≠ .ok (toString port) := by
        rw [answer]
        exact nofun
      simp only [regular, Bool.false_eq_true, if_false, Act.bind_apply, Act.note_apply]
      exact ⟨done', result, h', .tolerated other polling, ran, along'⟩

/-- Bringing the daemon to the port follows its specification. -/
theorem ensurePort_follows {h : Host} (along : Along b token h₀ [] h) :
    ∃ done result h', Ensuring b serial port h₀ done result ∧
      ensurePort b token serial port interval h = .ok result h' ∧ Along b token h₀ done h' := by
  obtain ⟨h₁, asked, along₁⟩ := along.run (portQuery serial) (ends _ _)
  change b.property token serial portProperty h = .ok (portAfter b serial h₀ []) h₁ at asked
  unfold ensurePort
  simp only [Act.bind_apply, asked]
  cases answer : portAfter b serial h₀ [] with
  | error e => exact ⟨_, _, h₁, .unanswered answer, rfl, along₁⟩
  | ok value =>
    by_cases found : value = toString port
    · subst found
      simp only [if_true, Act.bind_apply, Act.note_apply]
      exact ⟨_, _, _, .already answer, rfl, along₁.write _⟩
    · let h₂ := h₁.note .info s!"enabling TCP/IP mode on port {port}"
      have along₂ : Along b token h₀ [portQuery serial] h₂ := along₁.write _
      obtain ⟨h₃, acted, along₃⟩ := along₂.run (restart serial port) (ends _ _)
      change b.act token (.tcpip serial port) h₂ =
        .ok (restartAfter b serial port h₀ [portQuery serial]) h₃ at acted
      simp only [found, if_false, Act.bind_apply, Act.note_apply]
      rw [show b.act token (.tcpip serial port) (h₁.note .info _) = _ from acted]
      cases restarted : restartAfter b serial port h₀ [portQuery serial] with
      | error e => exact ⟨_, _, h₃, .refused answer found restarted, rfl, along₃⟩
      | ok _ =>
        obtain ⟨done, result, h', polling, ran, along'⟩ :=
          awaitPort_follows interval ends pollAttempts along₃
        exact ⟨done, result, h', .restarted answer found restarted polling, ran, along'⟩

/-- A whole switch follows its specification. -/
theorem enable_runs {h : Host} (along : Along b token h₀ [] h) :
    ∃ done result h', Switching b serial port h₀ done result ∧
      enable b token serial port interval h = .ok result h' ∧ Along b token h₀ done h' := by
  obtain ⟨done, result, h₁, ensuring, ensured, along₁⟩ :=
    @ensurePort_follows b token serial port h₀ interval ends h along
  unfold enable
  rw [Act.bind_apply, ensured]
  cases result with
  | error e => exact ⟨done, _, h₁, .failed ensuring, rfl, along₁⟩
  | ok _ =>
    obtain ⟨h₂, asked, along₂⟩ := along₁.run (routeQuery serial) (ends _ _)
    change b.address token serial h₁ = .ok (addressAfter b serial h₀ done) h₂ at asked
    refine ⟨_, _, h₂, .ensured ensuring, ?_, along₂⟩
    simp only [Act.bind_apply, asked]
    cases addressAfter b serial h₀ done with
    | error e => rfl
    | ok address? => cases address? <;> rfl

end refinement

/-- Without interrupts, and as long as the clock can show when a poll is due, a switch always
returns, does exactly the operations of its specification and returns what that says. The daemon is
restarted at most once, and exactly if the device said at first that it listens elsewhere; and the
device is reported to be switched only right after it reported the port itself. -/
theorem enable_follows (b : Bridge) (token serial : String) (port interval : Nat) (h : Host)
    (still : Still token h) (endless : h.clockEnd? = none)
    (ends : ∀ before argv, (h.backend before argv).Ends) :
    ∃ done result h', Switching b serial port h done result ∧
      enable b token serial port interval h = .ok result h' ∧
      h'.commands.map (·.argv) = b.argvs done ++ h.commands.map (·.argv) ∧
      done.count (restart serial port) ≤ 1 ∧
      (restart serial port ∈ done ↔ Elsewhere b serial port h) ∧
      ∀ target, result = .ok target →
        ∃ before address, done = routeQuery serial :: portQuery serial :: before ∧
          portAfter b serial h before = .ok (toString port) ∧
          addressAfter b serial h (portQuery serial :: before) = .ok (some address) ∧
          target = s!"{address}:{port}" := by
  obtain ⟨done, result, h', switching, ran, along⟩ :=
    @enable_runs b token serial port h interval ends h (.start still endless)
  refine ⟨done, result, h', switching, ran, along.commands, switching.restarts.1,
    switching.restarts.2, ?_⟩
  rintro target rfl
  exact switching.target

def wirelessRoute : String := "192.168.0.0/24 dev wlan0 proto kernel scope link src 192.168.0.7\n"

/-- A host with a device that listens on no port yet, and that fails to answer the first poll after
its restart. -/
def restarting : Host where
  backend before _ := match before.length with
    | 0 => { output := { bytes := Utf8.encode "0\n" } }
    | 1 => {}
    | 2 => { fate := .exits (.code 1) }
    | 3 => { output := { bytes := Utf8.encode "5555\n" } }
    | _ => { output := { bytes := Utf8.encode wirelessRoute } }

/-- The failure is tolerated, and the second poll ends the wait. -/
theorem enable_follows_second :
    Still "work" restarting ∧ restarting.clockEnd? = none ∧
      (∀ before argv, (restarting.backend before argv).Ends) ∧
      ∃ h', enable {} "work" "phone" 5555 0 restarting = .ok (.ok "192.168.0.7:5555") h' ∧
        h'.commands.map (·.argv) = ({} : Bridge).argvs [routeQuery "phone", portQuery "phone",
          portQuery "phone", restart "phone" 5555, portQuery "phone"] := by
  have still : Still "work" restarting := ⟨rfl, rfl, rfl, rfl⟩
  have ends : ∀ before argv, (restarting.backend before argv).Ends := by
    intro before argv
    unfold restarting
    dsimp only
    split <;> exact ⟨by simp, by simp⟩
  obtain ⟨done, result, h', switching, ran, commands, -⟩ :=
    enable_follows {} "work" "phone" 5555 0 restarting still rfl ends
  have expected : Switching {} "phone" 5555 restarting [routeQuery "phone", portQuery "phone",
      portQuery "phone", restart "phone" 5555, portQuery "phone"]
      (targetOf "phone" 5555 (.ok (some "192.168.0.7"))) := by
    have address : addressAfter {} "phone" restarting [portQuery "phone", portQuery "phone",
        restart "phone" 5555, portQuery "phone"] = .ok (some "192.168.0.7") := by decide +kernel
    have first : portAfter {} "phone" restarting [] = .ok "0" := by decide +kernel
    rw [← address]
    exact .ensured (.restarted first (by decide) (by decide +kernel)
      (.tolerated (by decide +kernel) (.reported (by decide +kernel))))
  obtain ⟨rfl, rfl⟩ := switching.unique expected
  exact ⟨still, rfl, ends, h', ran, commands.trans (List.append_nil _)⟩

end DebugBridge.Wireless
