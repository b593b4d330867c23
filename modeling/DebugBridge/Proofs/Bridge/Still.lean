import DebugBridge.Proofs.Bridge.Commands
import DebugBridge.Proofs.Cancel.Effect
import DebugBridge.Proofs.Cancel.Operations

/-!
# Operations that nobody interrupts

Where nothing is going to happen by itself, an operation whose command ends returns what the reply
to its command says, issues that command and nothing else, and leaves the host such that again
nothing is going to happen by itself. What an operation returns may depend on all commands before
it, so a run of several is known by the operations done so far. Lists of operations hold the latest
first.
-/

namespace DebugBridge

open Host

/-- The command does not run until it is killed, and its output has an end. -/
structure Reply.Ends (reply : Reply) : Prop where
  fate : reply.fate ≠ .hangs
  output : reply.output.ending ≠ .held

namespace Request
variable {b : Bridge} {token : String}

/-- What an operation returns when nobody interrupts it and this is the reply to its command. -/
def returns (r : Request) (program : String) (reply : Reply) : Except BridgeError r.Value :=
  match reply.fate with
  | .exits o => r.result reply.output o
  | .missing => .error (.spawn r.name (.missing program))
  | .refused cause => .error (.spawn r.name (.failed program cause))
  | .hangs => .error .interrupted

theorem returns_unstarted (r : Request) {program : String} {reply : Reply} {cause : SpawnError}
    (unstarted : reply.fate.spawnError? program = some cause) :
    r.returns program reply = .error (.spawn r.name cause) := by
  unfold returns
  cases fate : reply.fate <;> simp [fate, Fate.spawnError?] at unstarted <;> rw [← unstarted]

theorem returns_outcome (r : Request) (program : String) {reply : Reply} {o : Outcome}
    (outcome : reply.fate.outcome? = some o) :
    r.returns program reply = r.result reply.output o := by
  unfold returns
  cases fate : reply.fate <;> simp [fate, Fate.outcome?] at outcome
  rw [← outcome]

theorem not_stuck (r : Request) {reply : Reply} (ends : reply.Ends) : ¬ r.Stuck reply.output := by
  cases r with
  | act a => exact id
  | ask q => exact fun stuck => ends.output stuck.1

/-- A failure that nobody brought about is no cancellation. -/
theorem returns_regular (r : Request) {program : String} {reply : Reply} {e : BridgeError}
    (ends : reply.Ends) (failed : r.returns program reply = .error e) :
    e.isInterrupted = false := by
  have regular : r.returns program reply ≠ .error .interrupted := by
    unfold returns
    cases fate : reply.fate with
    | exits o => exact result_ne_interrupted reply.output o r
    | hangs => exact absurd fate ends.fate
    | missing => simp
    | refused cause => simp
  cases e with
  | interrupted => exact absurd failed regular
  | _ => rfl

/-- What is passed on to operations is passed on to each request. -/
theorem compositional {Q : {α : Type} → Act α → Prop} (rules : Compositional Q)
    (acts : ∀ a, Q (b.act token a)) (asks : ∀ q, Q (b.ask token q)) (r : Request) :
    Q (r.run b token) := by
  cases r with
  | act a => exact acts a
  | ask q =>
    cases q with
    | connect address => exact rules.connect (asks _)
    | property serial name => exact rules.map _ (asks _)
    | serialNumber => exact rules.map _ (asks _)
    | devices => exact rules.devices (asks _)
    | route serial => exact rules.address (asks _)

end Request

section still
variable {b : Bridge} {token : String} (r : Request) {h : Host}

theorem run_keeps_still (still : Still token h) : Still token (Act.after (r.run b token) h) :=
  still_after (fun _ => Request.compositional (compositional_heeds _) (follows_act b)
    (follows_ask b) r) still

theorem run_undisturbed (h : Host) : Undisturbed h (Act.after (r.run b token) h) :=
  undisturbed_of_commanding (Request.compositional
    (compositional_within (tolerant_commanding token)) (within_act b) (within_ask b) r h)

/-- An operation that nobody interrupts returns what the reply to its command says. -/
theorem run_still (still : Still token h) (ends : (h.replyTo (b.argv r.arguments)).Ends) :
    ∃ h', r.run b token h =
      .ok (r.returns b.executable (h.replyTo (b.argv r.arguments))) h' := by
  have after := run_keeps_still (b := b) r still
  cases failed : (h.replyTo (b.argv r.arguments)).fate.spawnError? b.executable with
  | some cause =>
    obtain ⟨h', run⟩ := run_failed r still.idle failed
    exact ⟨h', by rw [run, r.returns_unstarted failed]⟩
  | none =>
    have unstruck : h.struckAt token h.commands.length .spawn = false := by
      simp [struckAt, still.strikes]
    -- A command that was started and does not hang comes to an outcome by itself.
    obtain ⟨o, outcome⟩ : ∃ o, (h.replyTo (b.argv r.arguments)).fate.outcome? = some o := by
      cases fate : (h.replyTo (b.argv r.arguments)).fate with
      | exits o => exact ⟨o, rfl⟩
      | hangs => exact absurd fate ends.fate
      | missing => simp [fate, Fate.spawnError?] at failed
      | refused cause => simp [fate, Fate.spawnError?] at failed
    obtain ⟨h', run⟩ := run_ends (b := b) r still.idle outcome unstruck (r.not_stuck ends)
    rw [Act.after_ok run] at after
    exact ⟨h', by rw [run, after.idle, Bool.and_false, r.returns_outcome b.executable outcome]; rfl⟩

end still

def Bridge.argvs (b : Bridge) (done : List Request) : List (List String) :=
  done.map fun r => b.argv r.arguments

def Host.replyAfter (b : Bridge) (h₀ : Host) (done : List Request) (r : Request) : Reply :=
  h₀.backend (b.argvs done ++ h₀.commands.map (·.argv)) (b.argv r.arguments)

def Host.answerAfter (b : Bridge) (h₀ : Host) (done : List Request) (r : Request) :
    Except BridgeError r.Value :=
  r.returns b.executable (h₀.replyAfter b done r)

/-- These operations were done on the host since it was `h₀`, nobody interrupts, and the clock never
comes to an end. -/
structure Host.Along (b : Bridge) (token : String) (h₀ : Host) (done : List Request) (h : Host) :
    Prop where
  still : Still token h
  endless : h.clockEnd? = none
  backend : h.backend = h₀.backend
  commands : h.commands.map (·.argv) = b.argvs done ++ h₀.commands.map (·.argv)

namespace Host.Along
variable {b : Bridge} {token : String} {h₀ h : Host} {done : List Request}

theorem start (still : Still token h₀) (endless : h₀.clockEnd? = none) : Along b token h₀ [] h₀ :=
  ⟨still, endless, rfl, rfl⟩

/-- What is written does not matter. -/
theorem write (along : Along b token h₀ done h) (events : List Event) :
    Along b token h₀ done { h with events := events } :=
  ⟨⟨along.still.strikes, along.still.alarms, along.still.cues, along.still.idle⟩,
    along.endless, along.backend, along.commands⟩

/-- A sleep is not disturbed. -/
theorem sleep (along : Along b token h₀ done h) (duration : Nat) :
    ∃ h', DebugBridge.sleep token duration h = .ok true h' ∧ Along b token h₀ done h' :=
  ⟨_, sleep_still along.still (by simp [shows, along.endless]),
    ⟨along.still.strikes, along.still.alarms, along.still.cues, along.still.idle⟩, along.endless,
    along.backend, along.commands⟩

/-- The next operation returns what is expected after those done so far. -/
theorem run (along : Along b token h₀ done h) (r : Request) (ends : (h₀.replyAfter b done r).Ends) :
    ∃ h', r.run b token h = .ok (h₀.answerAfter b done r) h' ∧ Along b token h₀ (r :: done) h' := by
  have reply : h.replyTo (b.argv r.arguments) = h₀.replyAfter b done r := by
    unfold replyTo replyAfter
    rw [along.backend, along.commands]
  obtain ⟨h', run⟩ := run_still (b := b) r along.still (reply ▸ ends)
  have still := run_keeps_still (b := b) r along.still
  have same : Undisturbed h (Act.after (r.run b token) h) := run_undisturbed r h
  obtain ⟨issued, commands, argv⟩ := request_once b token r h
  rw [Act.after_ok run] at still same commands
  rw [reply] at run
  refine ⟨h', run, still, same.clockEnd?.trans along.endless,
    same.backend.trans along.backend, ?_⟩
  rw [commands, List.map_append, argv, along.commands]
  simp [along.still.idle, Bridge.argvs]

end Host.Along
end DebugBridge
