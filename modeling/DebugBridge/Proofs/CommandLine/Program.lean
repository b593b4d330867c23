import DebugBridge.CommandLine.Program
import DebugBridge.Proofs.Host.Calls

/-!
# What the program makes of a command

Once the configuration is loaded, the program issues no command but those of the command that it
runs, and its exit code says whether that failed; being asked to stop is no failure.
-/

namespace DebugBridge.CommandLine

open Host

def exitCode : Except Failure Unit → Nat
  | .ok () => 0
  | .error f => if f.isInterrupted then 0 else 1

variable {codec : Toml.Codec} {env : Environment} {files : Files} {i : Invocation}
  {command : Command} {h : Host}

/-- Lines that are complained about stand on standard error in their order. -/
theorem complain_all (lines : List String) (h : Host) :
    lines.forM complain h = .ok () { h with stderr := lines.reverse ++ h.stderr } := by
  induction lines generalizing h with
  | nil => rfl
  | cons line rest ih =>
    refine (ih { h with stderr := line :: h.stderr }).trans ?_
    simp only [List.reverse_cons, List.append_assoc, List.singleton_append]

theorem conclude_ok (x : Except Failure Unit) (h : Host) : ∃ stderr,
    conclude x h = .ok (if x.isOk then 0 else 1) { h with stderr := stderr } := by
  cases x with
  | ok => exact ⟨h.stderr, rfl⟩
  | error f => exact ⟨_, by simp only [conclude, Act.bind_apply, complain_all]; rfl⟩

theorem settle_ok (b : Bridge) (x : Except Failure Unit) (h : Host) : ∃ y events,
    settle b x h = .ok y { h with events := events } ∧
      (if y.isOk then 0 else 1) = exitCode x := by
  cases x with
  | ok => exact ⟨.ok (), h.events, rfl, rfl⟩
  | error f =>
    cases interrupted : f.isInterrupted with
    | true =>
      have run : settle b (.error f) =
          (do note .info "interrupted"; return .ok () : Act (Except Failure Unit)) := by
        simp only [settle, interrupted, if_true]
      exact ⟨.ok (), _, congrFun run h, by simp [exitCode, interrupted, Except.isOk, Except.toBool]⟩
    | false =>
      have run : settle b (.error f) = (return .error (withHint b f)) := by
        simp only [settle, interrupted, Bool.false_eq_true, if_false]
      exact ⟨_, h.events, congrFun run h,
        by simp [exitCode, interrupted, Except.isOk, Except.toBool]⟩

theorem run_unloaded {e : ConfigError} (task : i.task = .command command)
    (unloaded : (env.configPath i.config?).bind (Config.load codec files) = .error e) (h : Host) :
    ∃ h', i.run codec env files h = .ok (1, files) h' ∧ SameWorld h h' := by
  obtain ⟨stderr, concluded⟩ :=
    conclude_ok (.error (.during "could not load configuration" (.config e))) h
  refine ⟨{ h with stderr := stderr }, ?_, by constructor <;> rfl⟩
  simp only [Invocation.run, task, runConfigured, unloaded, Act.bind_apply, Act.pure_apply,
    concluded]
  rfl

/-- How the program ends with a command. -/
inductive Concluded (files : Files) :
    EStateM.Result Halt Host (Except Failure Unit) → EStateM.Result Halt Host (Nat × Files) → Prop
  | halted {halt : Halt} {h : Host} : Concluded files (.error halt h) (.error halt h)
  | returned {x : Except Failure Unit} {h h' : Host} : SameWorld h h' →
      Concluded files (.ok x h) (.ok (exitCode x, files) h')

theorem Concluded.sameWorld {m : Act (Except Failure Unit)} {m' : Act (Nat × Files)} {h₁ : Host}
    (concluded : Concluded files (m h₁) (m' h)) : SameWorld (Act.after m h₁) (Act.after m' h) := by
  unfold Act.after
  generalize m h₁ = ran at concluded
  generalize m' h = result at concluded
  cases concluded with
  | halted => exact .refl _
  | returned world => exact world

/-- Once the configuration is loaded, the program says which bridge it uses and runs the command. -/
theorem run_announced {c : Config} (task : i.task = .command command)
    (loaded : (env.configPath i.config?).bind (Config.load codec files) = .ok c) (h : Host) :
    i.run codec env files h = (do
      let x ← command.run c (bridgeInForce env i c)
      return (← conclude (← settle (bridgeInForce env i c) x), files) : Act (Nat × Files))
        (Act.after (announce (bridgeInForce env i c)) h) := by
  have announced : announce (bridgeInForce env i c) h =
      .ok () (Act.after (announce (bridgeInForce env i c)) h) := rfl
  simp only [Invocation.run, task, runConfigured, loaded, bind_assoc]
  rw [Act.bind_apply, announced]

/-- Once the configuration is loaded, the program ends as the command does. -/
theorem run_loaded {c : Config} (task : i.task = .command command)
    (loaded : (env.configPath i.config?).bind (Config.load codec files) = .ok c) (h : Host) :
    Concluded files
      (command.run c (bridgeInForce env i c) (Act.after (announce (bridgeInForce env i c)) h))
      (i.run codec env files h) := by
  rw [run_announced task loaded, Act.bind_apply]
  cases command.run c (bridgeInForce env i c)
    (Act.after (announce (bridgeInForce env i c)) h) with
  | error halt h' => exact .halted
  | ok x h₁ =>
    obtain ⟨y, events, e, code⟩ := settle_ok (bridgeInForce env i c) x h₁
    obtain ⟨stderr, e'⟩ := conclude_ok y { h₁ with events := events }
    simp only [Act.bind_apply, e, e', Act.pure_apply, code]
    exact .returned (by constructor <;> rfl)

end DebugBridge.CommandLine
