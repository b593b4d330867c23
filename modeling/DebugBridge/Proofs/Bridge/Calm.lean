import DebugBridge.Proofs.Bridge.Verdict
import DebugBridge.Proofs.Host.Calm

/-!
# Actions without interrupts

Where no strike is set and no command runs until it is killed, every action returns the verdict on
the fate of its command, and touches no socket.
-/

namespace DebugBridge

open Host Cancel

theorem conclude_calm {child : Nat} {o : Outcome} {h : Host} (calm : h.strikes = [])
    (ended : (h.children child).outcome? = some o) (token : String) :
    ∃ h', conclude token child h = .ok o h' ∧ h'.commands = h.commands ∧ Calmly h h' ∧
      h'.sockets = h.sockets ∧ h'.socketCount = h.socketCount := by
  have waiting := calmly_record child .wait h
  have disarming := calmly_updateToken (h := h.record child .wait) token Token.disarm
    (Token.interrupted_disarm _)
  have reaping := calmly_record child .reap ((h.record child .wait).updateToken token Token.disarm)
  refine ⟨((h.record child .wait).updateToken token Token.disarm).record child .reap, ?_, rfl,
    (waiting.trans disarming).trans reaping, rfl, rfl⟩
  unfold conclude
  rw [Act.bind_apply, wait_calm calm ended]
  simp only [Bool.false_eq_true, if_false, disarm, Act.bind_apply, Act.modify_apply]
  rw [wait_calm (h := (h.record child .wait).updateToken token _) calm ended]
  rfl

def fateVerdict (program name : String) (fate : Fate) : Except BridgeError Unit :=
  match fate with
  | .exits o => verdict name o
  | .missing => .error (.spawn name (.missing program))
  | .refused cause => .error (.spawn name (.failed program cause))
  | .hangs => .error .interrupted

theorem verdict_eq_ok {name : String} {o : Outcome} : verdict name o = .ok () ↔ o = .code 0 := by
  cases o with
  | unknown => simp [verdict]
  | code n => by_cases zero : n = 0 <;> simp [verdict, zero]

theorem fateVerdict_eq_ok {program name : String} {fate : Fate} :
    fateVerdict program name fate = .ok () ↔ fate = .exits (.code 0) := by
  cases fate <;> simp [fateVerdict, verdict_eq_ok]

theorem fateVerdict_unstarted {program name : String} {fate : Fate} {cause : SpawnError}
    (unstarted : fate.spawnError? program = some cause) :
    fateVerdict program name fate = .error (.spawn name cause) := by
  cases fate with
  | missing => obtain rfl := Option.some.inj unstarted; rfl
  | refused fault => obtain rfl := Option.some.inj unstarted; rfl
  | exits o => simp [Fate.spawnError?] at unstarted
  | hangs => simp [Fate.spawnError?] at unstarted

/-- Without interrupts no command counts as cancelled. -/
theorem isInterrupted_fateVerdict {program name : String} {fate : Fate} {e : BridgeError}
    (ends : fate ≠ .hangs) (failed : fateVerdict program name fate = .error e) :
    e.isInterrupted = false := by
  cases fate with
  | hangs => exact absurd rfl ends
  | missing => obtain rfl := Except.error.inj failed; rfl
  | refused cause => obtain rfl := Except.error.inj failed; rfl
  | exits o =>
    cases o with
    | unknown => obtain rfl := Except.error.inj failed; rfl
    | code n =>
      by_cases zero : n = 0
      · simp [fateVerdict, verdict, zero] at failed
      · simp only [fateVerdict, verdict, zero, if_false] at failed
        obtain rfl := Except.error.inj failed
        rfl

theorem spawn_refused {b : Bridge} {arguments : List String} {cause : SpawnError} {h : Host}
    (calm : h.strikes = [])
    (refused : (h.replyTo (b.argv arguments)).fate.spawnError? b.executable = some cause)
    (mode : Mode) : spawn (b.argv arguments) mode h =
      .ok (.error cause) { h with commands := ⟨b.argv arguments, mode, none⟩ :: h.commands } := by
  have started : h.start (b.argv arguments) mode = _ := start_refused refused mode
  have struck := strike_nil
    (h := { h with commands := ⟨b.argv arguments, mode, none⟩ :: h.commands }) calm
    h.commands.length .spawn
  simp only [spawn, Act.bind_apply, Act.get_apply, Act.modifyGet_apply, Act.modify_apply,
    Act.pure_apply, started]
  exact congrArg _ struck

/-- Without interrupts a command that can be started runs as a child of its own. -/
theorem spawn_started {b : Bridge} {arguments : List String} {h : Host} (calm : h.strikes = [])
    (started : (h.replyTo (b.argv arguments)).fate.spawnError? b.executable = none) (mode : Mode) :
    ∃ h', spawn (b.argv arguments) mode h =
        .ok (.ok (h.childCount, (h.replyTo (b.argv arguments)).output)) h' ∧
      h'.commands = ⟨b.argv arguments, mode, some h.childCount⟩ :: h.commands ∧ Calmly h h' ∧
      h'.sockets = h.sockets ∧ h'.socketCount = h.socketCount ∧
      (h'.children h.childCount).outcome? =
        (h.replyTo (b.argv arguments)).fate.outcome? := by
  obtain ⟨pid, stdout, e⟩ := start_child started mode
  change h.start (b.argv arguments) mode = _ at e
  refine ⟨(h.start (b.argv arguments) mode).2, ?_, ?_⟩
  · have struck := strike_nil (h := (h.start (b.argv arguments) mode).2) (by rw [e]; exact calm)
      h.commands.length .spawn
    simp only [spawn, Act.bind_apply, Act.get_apply, Act.modifyGet_apply, Act.modify_apply,
      Act.pure_apply, struck]
    rw [e]
    rfl
  · rw [e]
    have calmly : Calmly h { h with
        commands := ⟨b.argv arguments, mode, some h.childCount⟩ :: h.commands } :=
      ⟨rfl, rfl, rfl, rfl, fun _ => rfl⟩
    exact ⟨rfl, ⟨calmly.backend, calmly.strikes, calmly.taken, calmly.supply, calmly.flags⟩, rfl,
      rfl, congrArg Child.outcome? (assign_same _ _ _)⟩

/-- A child that has ended is waited for at once, and its outcome is the verdict. -/
theorem supervise_calm (name : String) {token : String} {child : Nat} {o : Outcome} {h : Host}
    (calm : h.strikes = []) (idle : h.interrupted token = false)
    (ended : (h.children child).outcome? = some o) :
    ∃ h', Bridge.supervise token child (return ()) (fun outcome _ => judge name outcome) h =
        .ok (verdict name o) h' ∧
      h'.commands = h.commands ∧ Calmly h h' ∧ h'.sockets = h.sockets ∧
      h'.socketCount = h.socketCount := by
  obtain ⟨events, armed⟩ := arm_idle (r := .process child) idle
  have begun : Calmly h { h with events := events } := ⟨rfl, rfl, rfl, rfl, fun _ => rfl⟩
  have arming := calmly_updateToken (h := { h with events := events }) token
    (fun t => (t.arm (.process child)).2) (Token.interrupted_arm _ _)
  obtain ⟨h₁, concluded, commands, concluding, sockets, socketCount⟩ := conclude_calm
    (h := ({ h with events := events } : Host).updateToken token
      fun t => (t.arm (.process child)).2) calm ended token
  have calmly := (begun.trans arming).trans concluding
  obtain ⟨events', judged⟩ := judge_ok name o h₁
  have idle₁ : h₁.interrupted token = false := (calmly.flags token).trans idle
  unfold Bridge.supervise
  rw [Act.bind_apply, armed]
  simp only [if_true]
  rw [Act.bind_apply, Act.pure_apply]
  simp only
  rw [Act.bind_apply, concluded]
  simp only [wasCancelled, Act.bind_apply, Act.isInterrupted_apply, Act.pure_apply, idle₁,
    Bool.and_false, Bool.false_eq_true, if_false]
  exact ⟨_, judged, commands,
    ⟨calmly.backend, calmly.strikes, calmly.taken, calmly.supply, calmly.flags⟩, sockets,
    socketCount⟩

/-- Without interrupts an action runs its command, returns the verdict on it and leaves the sockets
alone. -/
theorem act_calm (b : Bridge) (token : String) (a : Action) {h : Host} (calm : h.strikes = [])
    (idle : h.interrupted token = false)
    (ends : (h.replyTo (b.argv a.arguments)).fate ≠ .hangs) :
    ∃ h' child?,
      b.act token a h =
        .ok (fateVerdict b.executable a.name (h.replyTo (b.argv a.arguments)).fate) h' ∧
      h'.commands = ⟨b.argv a.arguments, a.mode, child?⟩ :: h.commands ∧ Calmly h h' ∧
      h'.sockets = h.sockets ∧ h'.socketCount = h.socketCount := by
  unfold Bridge.act
  obtain ⟨text, started⟩ := issue_idle b token a.arguments a.mode _
  rw [started h idle, Act.bind_apply]
  cases refused : (h.replyTo (b.argv a.arguments)).fate.spawnError? b.executable with
  | some cause =>
    obtain ⟨events', reported⟩ := reportUnstarted_ok a.name (b.argv a.arguments) cause
      { h.note .debug text with
        commands := ⟨b.argv a.arguments, a.mode, none⟩ :: (h.note .debug text).commands }
    rw [spawn_refused (h := h.note .debug text) calm refused]
    simp only [Act.bind_apply, reported, Act.pure_apply]
    rw [fateVerdict_unstarted refused]
    exact ⟨_, none, rfl, rfl, ⟨rfl, rfl, rfl, rfl, fun _ => rfl⟩, rfl, rfl⟩
  | none =>
    obtain ⟨h₁, spawned, commands, calmly, sockets, socketCount, outcome⟩ :=
      spawn_started (h := h.note .debug text) calm refused a.mode
    have idle₁ : h₁.interrupted token = false := (calmly.flags token).trans idle
    obtain ⟨o, fate⟩ : ∃ o, (h.replyTo (b.argv a.arguments)).fate = .exits o := by
      cases fate : (h.replyTo (b.argv a.arguments)).fate with
      | exits o => exact ⟨o, rfl⟩
      | hangs => exact absurd fate ends
      | missing => simp [fate, Fate.spawnError?] at refused
      | refused cause => simp [fate, Fate.spawnError?] at refused
    obtain ⟨h₂, tended, commands₂, calmly₂, sockets₂, socketCount₂⟩ :=
      supervise_calm a.name (calmly.strikes.trans calm) idle₁
        (outcome.trans (congrArg Fate.outcome? fate))
    rw [spawned]
    refine ⟨h₂, some h.childCount, ?_, commands₂.trans commands, ?_, sockets₂.trans sockets,
      socketCount₂.trans socketCount⟩
    · rw [fate]
      exact tended
    · exact ⟨calmly₂.backend.trans calmly.backend, calmly₂.strikes.trans calmly.strikes,
        calmly₂.taken.trans calmly.taken, calmly₂.supply.trans calmly.supply,
        fun name => (calmly₂.flags name).trans (calmly.flags name)⟩

end DebugBridge
