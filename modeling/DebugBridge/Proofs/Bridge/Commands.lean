import DebugBridge.Proofs.Bridge.Request
import DebugBridge.Proofs.Host.Listening

/-!
# Which commands are issued

A bridge operation issues its own command and no other, and through an interrupted token none at
all. So what is known of the arguments of each operation is known of every command of an activity
that is made of operations.
-/

namespace DebugBridge

open Host

def Act.Silent {α : Type} (m : Act α) : Prop := ∀ h, (Act.after m h).commands = h.commands

theorem Act.Notes.silent {α : Type} {m : Act α} (notes : Act.Notes m) : Act.Silent m :=
  fun h => (Act.after_notes notes h).commands

/-- Nothing is issued while a child is looked after. -/
theorem silent_of_tending {α : Type} {m : Act α} {child : Nat} (token : String)
    (tended : Act.Within (Tending token child) m) : Act.Silent m :=
  fun h => (quiet_of_tended (tended h)).commands

theorem silent_listen (token : String) (port : Nat) : Act.Silent (Net.listen token port) := by
  intro h
  have ended := listened token port h
  unfold Act.after
  generalize Net.listen token port h = result at ended
  cases ended with
  | denied => exact commands_opened _ h
  | refused _ more => exact more.commands
  | opened _ _ more => exact more.commands
  | failed _ _ more => exact more.commands

section issue
variable {α : Type} {b : Bridge} {token : String} {arguments : List String} {mode : Mode}
  {proceed : Except SpawnError (Nat × Output) → Act (Except BridgeError α)}

/-- Of two hosts the later one has issued this command, unless the token was interrupted. -/
def Host.Once (token : String) (argv : List String) (h h' : Host) : Prop :=
  ∃ issued, h'.commands = issued ++ h.commands ∧
    issued.map (·.argv) = if h.interrupted token then [] else [argv]

theorem issue_once (silent : ∀ r, Act.Silent (proceed r)) (h : Host) :
    Once token (b.argv arguments) h (Act.after (b.issue token arguments mode proceed) h) := by
  cases idle : h.interrupted token with
  | true => exact ⟨[], by rw [Act.after_ok (issue_refused idle proceed)]; rfl, by simp [idle]⟩
  | false =>
    obtain ⟨text, issued⟩ := issue_idle b token arguments mode proceed
    have handed := spawned b arguments mode (h.note .debug text)
    have run : Act.after (b.issue token arguments mode proceed) h =
        Act.after (spawn (b.argv arguments) mode >>= proceed) (h.note .debug text) := by
      unfold Act.after
      rw [issued h idle]
    rw [run]
    generalize e : spawn (b.argv arguments) mode (h.note .debug text) = result at handed
    cases handed with
    | failed commands =>
      exact ⟨[_], by rw [Act.after_bind_ok e, silent, commands]; rfl, by simp [idle]⟩
    | started commands =>
      exact ⟨[_], by rw [Act.after_bind_ok e, silent, commands]; rfl, by simp [idle]⟩

theorem act_once (b : Bridge) (token : String) (a : Action) (h : Host) :
    Once token (b.argv a.arguments) h (Act.after (b.act token a) h) := by
  refine issue_once (fun started => ?_) h
  cases started with
  | error cause =>
    exact Act.Notes.silent
      (Act.compositional_notes.map _ (Act.compositional_notes.reportUnstarted _ _ cause))
  | ok started =>
    exact silent_of_tending token (within_supervise (Act.within_pure ()) fun outcome _ =>
      (compositional_within (tolerant_tending token started.1)).judge a.name outcome)

theorem ask_once (b : Bridge) (token : String) (q : Query) (h : Host) :
    Once token (b.argv q.arguments) h (Act.after (b.ask token q) h) := by
  refine issue_once (fun started => ?_) h
  cases started with
  | error cause =>
    exact Act.Notes.silent
      (Act.compositional_notes.map _ (Act.compositional_notes.reportUnstarted _ _ cause))
  | ok started =>
    exact silent_of_tending token
      (within_supervise (within_readAll (attentive_tending token started.1) q started.2)
        fun outcome result =>
          (compositional_within (tolerant_tending token started.1)).answer q outcome result)

/-- Every operation issues its own command, once. -/
theorem request_once (b : Bridge) (token : String) (r : Request) (h : Host) :
    Once token (b.argv r.arguments) h (Act.after (r.run b token) h) := by
  cases r with
  | act a => exact act_once b token a h
  | ask q =>
    obtain ⟨f, e, reads⟩ := query_eq b token q
    -- Reading the answer only writes events.
    have silent (x : Except BridgeError String) : Act.Silent (f x) :=
      Act.Notes.silent fun h => ⟨_, reads x h⟩
    change Once token _ h (Act.after (b.query token q) h)
    obtain ⟨issued, commands, argv⟩ := ask_once b token q h
    refine ⟨issued, ?_, argv⟩
    rw [← commands, e]
    cases run : b.ask token q h with
    | ok x h₁ => rw [Act.after_bind_ok run, silent, Act.after_ok run]
    | error halt h₁ => rw [Act.after_bind_error run, Act.after_error run]

/-- Through a token that is not interrupted an operation issues one command. -/
theorem request_issues {r : Request} {x : Except BridgeError r.Value} {h h' : Host}
    (idle : h.interrupted token = false) (ran : r.run b token h = .ok x h') :
    h'.commands.length = h.commands.length + 1 := by
  obtain ⟨issued, commands, argv⟩ := request_once b token r h
  rw [idle] at argv
  have one : issued.length = 1 := by simpa using congrArg List.length argv
  rw [Act.after_ok ran] at commands
  rw [commands, List.length_append, one, Nat.add_comm]

end issue

namespace Host
variable {P : List String → Prop}

/-- Only commands whose arguments satisfy the condition were issued. -/
def Adds (P : List String → Prop) (h h' : Host) : Prop :=
  ∃ later, h'.commands = later ++ h.commands ∧ ∀ c ∈ later, P c.argv

theorem adds_of_same {h h' : Host} (commands : h'.commands = h.commands) : Adds P h h' :=
  ⟨[], commands, by simp⟩

theorem Adds.trans {h₁ h₂ h₃ : Host} (a : Adds P h₁ h₂) (b : Adds P h₂ h₃) : Adds P h₁ h₃ := by
  obtain ⟨first, commands, holds⟩ := a
  obtain ⟨later, commands', holds'⟩ := b
  refine ⟨later ++ first, by rw [commands', commands, List.append_assoc], fun c mem => ?_⟩
  exact (List.mem_append.mp mem).elim (holds' c) (holds c)

theorem adds_of_run {h h' : Host} (run : Relation.ReflTransGen (Adds P) h h') : Adds P h h' := by
  induction run with
  | refl => exact adds_of_same rfl
  | tail _ step ih => exact ih.trans step

theorem tolerant_adds : Tolerant (Adds P) :=
  ⟨fun _ _ world => adds_of_same world.commands,
    fun name h => adds_of_same (quiet_interrupt name h).commands⟩

end Host

section adds
variable {P : List String → Prop} {b : Bridge} {token : String}

theorem Act.Silent.adds {α : Type} {m : Act α} (silent : Act.Silent m) : Act.Within (Adds P) m :=
  fun h => .single (adds_of_same (silent h))

/-- An operation whose own command satisfies the condition. -/
theorem within_request {r : Request} (own : P (b.argv r.arguments)) :
    Act.Within (Adds P) (r.run b token) := by
  intro h
  obtain ⟨issued, commands, argv⟩ := request_once b token r h
  refine .single ⟨issued, commands, fun c mem => ?_⟩
  have mem := List.mem_map_of_mem (f := (·.argv)) mem
  rw [argv] at mem
  split at mem
  · simp at mem
  · rw [List.mem_singleton.mp mem]
    exact own

end adds
end DebugBridge
