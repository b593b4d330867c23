import DebugBridge.Proofs.Composition
import DebugBridge.Proofs.Host.Calls

/-!
# The course of bridge commands

A bridge command starts at most one child, and only through a token that is not interrupted; from
then on it only looks after that child. The operations made of several commands are sequences of
such steps.
-/

namespace DebugBridge

open Host

section attending
variable {R : Host → Host → Prop} {child : Nat}

theorem within_readAnswer (receptive : Receptive child R) (q : Query) (output : Output) :
    Act.Within R (readAnswer q child output) :=
  (compositional_within receptive.toTolerant).readAnswer (within_readOutput receptive output _)
    (within_drainOutput receptive output)

theorem within_readAll (attentive : Attentive child R) (q : Query) (output : Output) :
    Act.Within R (readAll q child output) :=
  (compositional_within attentive.toTolerant).readAll
    (within_readAnswer attentive.toReceptive q output) (within_kill attentive)

end attending

section tending
variable {token : String} {child : Nat}

theorem within_conclude : Act.Within (Tending token child) (conclude token child) :=
  (compositional_within (tolerant_tending token child)).conclude within_wait within_disarm

theorem within_abandon : Act.Within (Tending token child) (abandon child) := by
  refine Act.within_bind (within_kill (attentive_tending token child)) fun fault => ?_
  have reaped : Act.Within (Tending token child) (do let _ ← wait child true) :=
    Act.within_bind (within_wait true) fun _ => Act.within_pure _
  cases fault with
  | none => exact reaped
  | some cause =>
    exact Act.within_bind Act.within_get fun _ =>
      Act.within_bind (within_note (tolerant_tending token child) _ _) fun _ => reaped

end tending

/-- To look after a child is to take such steps, if that is true of what is done meanwhile and in
the end. -/
theorem within_supervise {α β : Type} {token : String} {child : Nat} {meanwhile : Act β}
    {finish : Outcome → β → Act (Except BridgeError α)}
    (first : Act.Within (Tending token child) meanwhile)
    (last : ∀ outcome result, Act.Within (Tending token child) (finish outcome result)) :
    Act.Within (Tending token child) (Bridge.supervise token child meanwhile finish) :=
  (compositional_within (tolerant_tending token child)).supervise within_arm within_abandon first
    within_conclude last

section commands
variable {α : Type} {token : String}

/-- Through an interrupted token nothing is issued. -/
theorem issue_refused {b : Bridge} {arguments : List String} {mode : Mode} {h : Host}
    (raised : h.interrupted token = true)
    (proceed : Except SpawnError (Nat × Output) → Act (Except BridgeError α)) :
    b.issue token arguments mode proceed h = .ok (.error .interrupted) h := by
  simp only [Bridge.issue, Act.bind_apply, Act.isInterrupted_apply, raised, if_true,
    Act.pure_apply]

/-- Through another token one command is handed to the system. -/
theorem issue_idle (b : Bridge) (token : String) (arguments : List String) (mode : Mode)
    (proceed : Except SpawnError (Nat × Output) → Act (Except BridgeError α)) :
    ∃ text, ∀ h : Host, h.interrupted token = false → b.issue token arguments mode proceed h =
      (spawn (b.argv arguments) mode >>= proceed) (h.note .debug text) := by
  refine ⟨s!"execute: {Rendering.render (b.argv arguments) commandCapacity}", fun h idle => ?_⟩
  unfold Bridge.issue
  rw [Act.bind_apply, Act.isInterrupted_apply]
  simp only [idle, Bool.false_eq_true, if_false]
  rw [Act.bind_apply, Act.note_apply]

/-- What follows once the token was found not to be interrupted may start one command. -/
theorem spawn_course {β : Type} {argv : List String} {mode : Mode}
    {f : Except SpawnError (Nat × Output) → Act β} (rest : ∀ r, Act.Within (Commanding token) (f r))
    {h : Host} (idle : h.interrupted token = false) :
    Relation.ReflTransGen (Commanding token) h (Act.after (spawn argv mode >>= f) h) := by
  have started : Relation.ReflTransGen (Commanding token) h
      (((h.start argv mode).2).strike h.commands.length .spawn) :=
    .head (.start argv mode idle) (strike_within (tolerant_commanding token) _ _ _)
  have eq : spawn argv mode h =
      .ok (h.start argv mode).1 (((h.start argv mode).2).strike h.commands.length .spawn) := rfl
  rw [Act.after_bind_ok eq]
  exact started.trans (rest _ _)

theorem within_issue (b : Bridge) (arguments : List String) (mode : Mode)
    {proceed : Except SpawnError (Nat × Output) → Act (Except BridgeError α)}
    (rest : ∀ r, Act.Within (Commanding token) (proceed r)) :
    Act.Within (Commanding token) (b.issue token arguments mode proceed) := by
  intro h
  cases idle : h.interrupted token with
  | true => rw [Act.after_ok (issue_refused idle proceed)]
  | false =>
    obtain ⟨text, issued⟩ := issue_idle b token arguments mode proceed
    have noted := (tolerant_commanding token).write h (h.note .debug text) (by constructor <;> rfl)
    unfold Act.after
    rw [issued h idle]
    exact .head noted (spawn_course rest idle)

theorem within_act (b : Bridge) (a : Action) : Act.Within (Commanding token) (b.act token a) := by
  have rules := compositional_within (tolerant_commanding token)
  refine within_issue b a.arguments a.mode fun r => ?_
  cases r with
  | error cause =>
    exact rules.map _ (rules.reportUnstarted _ _ _)
  | ok started =>
    exact (within_supervise (Act.within_pure ()) fun outcome _ =>
      (compositional_within (tolerant_tending token started.1)).judge a.name outcome).commanding

theorem within_ask (b : Bridge) (q : Query) : Act.Within (Commanding token) (b.ask token q) := by
  have rules := compositional_within (tolerant_commanding token)
  refine within_issue b q.arguments .capture fun r => ?_
  cases r with
  | error cause =>
    exact rules.map _ (rules.reportUnstarted _ _ _)
  | ok started =>
    exact (within_supervise (within_readAll (attentive_tending token started.1) q started.2)
      fun outcome result =>
        (compositional_within (tolerant_tending token started.1)).answer q outcome
          result).commanding

end commands
end DebugBridge
