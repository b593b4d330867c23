import DebugBridge.Proofs.Host.Composition
import DebugBridge.Proofs.Host.Course

/-!
# Which steps a call takes

Every call on the host, whatever it returns and whether or not it returns, is made of the steps that
its course allows.
-/

namespace DebugBridge

namespace Act
variable {α β : Type} {m : Act α} {f : α → Act β}

/-- An activity that only writes diagnostics, and returns. -/
def Notes (m : Act α) : Prop := ∀ h, ∃ a events, m h = .ok a { h with events := events }

theorem notes_pure (a : α) : Notes (pure a : Act α) := fun h => ⟨a, h.events, rfl⟩

theorem notes_note (severity : Severity) (text : String) : Notes (note severity text) :=
  fun _ => ⟨(), _, rfl⟩

theorem notes_noteAll (events : List Event) : Notes (noteAll events) := fun _ => ⟨(), _, rfl⟩

theorem notes_bind (first : Notes m) (rest : ∀ a, Notes (f a)) : Notes (m >>= f) := by
  intro h
  obtain ⟨a, events, e⟩ := first h
  obtain ⟨a', events', e'⟩ := rest a { h with events := events }
  exact ⟨a', events', by rw [bind_apply, e]; exact e'⟩

/-- Only writing diagnostics is passed on. -/
theorem compositional_notes : Compositional fun m => Notes m where
  pure := notes_pure
  bind := notes_bind
  isInterrupted _ h := ⟨_, h.events, rfl⟩
  note := notes_note
  noteAll := notes_noteAll

/-- The host after diagnostics is the same world. -/
theorem after_notes (notes : Notes m) (h : Host) : Host.SameWorld h (after m h) := by
  obtain ⟨a, events, e⟩ := notes h
  rw [after_ok e]
  constructor <;> rfl

theorem Notes.within {R : Host → Host → Prop} (tolerant : Host.Tolerant R) (notes : Notes m) :
    Within R m :=
  fun h => .single (tolerant.write _ _ (after_notes notes h))

end Act

/-- To be blocked is to take the steps of whatever wakes. -/
theorem within_blockWith_of_wakes {R : Host → Host → Prop}
    (wakes : ∀ h h' : Host, h.wake? none = some (.ok h') → Relation.ReflTransGen R h h')
    (ready : Host → Bool) (fuel : Nat) :
    Act.Within (α := Unit) R fun h => h.blockWith ready fuel := by
  intro h
  have run := Host.blocked_blockWith ready fuel h
  dsimp only [Act.after]
  generalize h.blockWith ready fuel = result at run ⊢
  induction run with
  | ready => exact .refl
  | forever => exact .refl
  | exit => exact .refl
  | woken _ w _ ih => exact (wakes _ _ w).trans ih

/-- To sleep is to take the steps of whatever wakes, and to let time pass. -/
theorem within_dozeWith_of_wakes {R : Host → Host → Prop} {deadline : Nat}
    (wakes : ∀ h h' : Host, h.wake? (some deadline) = some (.ok h') → Relation.ReflTransGen R h h')
    (passes : ∀ (h : Host) clock, R h { h with clock := clock }) (token : String) (fuel : Nat) :
    Act.Within (α := Bool) R fun h => h.dozeWith token deadline fuel := by
  intro h
  have run := Host.dozed_dozeWith token deadline fuel h
  dsimp only [Act.after]
  generalize h.dozeWith token deadline fuel = result at run ⊢
  induction run with
  | interrupted => exact .refl
  | elapsed => exact .single (passes _ _)
  | exit => exact .refl
  | woken w _ ih => exact (wakes _ _ w).trans ih

/-- A sleep begins, unless the clock cannot show its end. -/
theorem within_sleep_of_wakes {R : Host → Host → Prop} {duration : Nat}
    (wakes : ∀ deadline (h h' : Host), h.wake? (some deadline) = some (.ok h') →
      Relation.ReflTransGen R h h')
    (begins : ∀ h : Host, R h (h.undertake (.nap duration)))
    (passes : ∀ (h : Host) clock, R h { h with clock := clock }) (token : String) :
    Act.Within R (sleep token duration) := by
  intro h
  cases shown : h.shows (h.clock + duration) with
  | false =>
    rw [Act.after_error (Host.sleep_panicked shown token)]
    exact .single (begins h)
  | true =>
    have run := within_dozeWith_of_wakes (wakes (h.clock + duration)) passes token h.pending
      (h.undertake (.nap duration))
    unfold sleep
    simp only [Act.after, shown, if_true]
    exact .head (begins h) run

section strikes
variable (point : Host.Point) {h : Host}

/-- Before the first command there is no moment after the latest one. -/
theorem reachLatest_unissued (unissued : h.commands = []) :
    reachLatest point h = .ok () h := by
  unfold reachLatest
  rw [Act.modify_apply, unissued]

theorem reachLatest_issued {c : Host.Command} {earlier : List Host.Command}
    (latest : h.commands = c :: earlier) :
    reachLatest point h = .ok () (h.strike earlier.length point) := by
  unfold reachLatest
  rw [Act.modify_apply, latest]

end strikes

section activities
variable {R : Host → Host → Prop} (tolerant : Host.Tolerant R)
include tolerant

theorem within_note (severity : Severity) (text : String) : Act.Within R (note severity text) :=
  Act.within_modify fun _ => tolerant.write _ _ (by constructor <;> rfl)

theorem within_noteAll (events : List Event) : Act.Within R (noteAll events) :=
  Act.within_modify fun _ => tolerant.write _ _ (by constructor <;> rfl)

/-- Taking steps of a tolerant relation is passed on. -/
theorem compositional_within : Compositional fun m => Act.Within R m where
  pure := Act.within_pure
  bind := Act.within_bind
  isInterrupted := Act.within_isInterrupted
  note := within_note tolerant
  noteAll := within_noteAll tolerant

theorem within_blockWith (ready : Host → Bool) (fuel : Nat) :
    Act.Within (α := Unit) R fun h => h.blockWith ready fuel :=
  within_blockWith_of_wakes (fun _ _ => Host.wake_within tolerant) ready fuel

theorem within_blockUntil (ready : Host → Bool) : Act.Within R (blockUntil ready) :=
  fun h => within_blockWith tolerant ready h.pending h

theorem within_dozeWith (token : String) (deadline fuel : Nat) :
    Act.Within (α := Bool) R fun h => h.dozeWith token deadline fuel :=
  within_dozeWith_of_wakes (fun _ _ => Host.wake_within tolerant)
    (fun _ _ => tolerant.write _ _ (by constructor <;> rfl)) token fuel

/-- The strikes of a moment happen, if there are any. -/
theorem within_reach (child : Nat) (point : Host.Point) : Act.Within R (reach child point) := by
  intro h
  unfold reach
  rw [Act.after_ok (Act.modify_apply _ h)]
  split
  · exact Host.strike_within tolerant _ _ _
  · exact .refl

theorem within_reachLatest (point : Host.Point) : Act.Within R (reachLatest point) := by
  intro h
  unfold reachLatest
  rw [Act.after_ok (Act.modify_apply _ h)]
  split
  · exact .refl
  · exact Host.strike_within tolerant _ _ _

theorem within_sleep (token : String) (duration : Nat) : Act.Within R (sleep token duration) :=
  within_sleep_of_wakes (fun _ _ _ => Host.wake_within tolerant)
    (fun _ => tolerant.write _ _ (by constructor <;> rfl))
    (fun _ _ => tolerant.write _ _ (by constructor <;> rfl)) token

theorem within_answer : Act.Within R (modifyGet Host.answer : Act (Option Fault)) :=
  Act.within_modifyGet fun _ => tolerant.write _ _ (by constructor <;> rfl)

theorem within_dial (socket port : Nat) (meets : ∀ peer h, R h (Host.meet socket peer h)) :
    Act.Within R (Net.dial socket port) :=
  (compositional_within tolerant).dial
    (Act.within_modify fun _ => tolerant.write _ _ (by constructor <;> rfl))
    (fun h => Host.elapse_within tolerant Net.connectTime h) Act.within_get
    fun peer => Act.within_modify (meets peer)

/-- To take from a socket what it holds is to wait until it is ready. -/
theorem within_taking {α : Type} {ready : Host → Bool} {take : Host → α × Host}
    (takes : ∀ h, R h (take h).2) :
    Act.Within R (do
      blockUntil ready
      modifyGet take : Act α) :=
  Act.within_bind (within_blockUntil tolerant ready) fun _ => Act.within_modifyGet takes

/-- The port is bound, and then the strikes of that moment happen. -/
theorem within_claimPort {socket port : Nat} (binds : ∀ h, R h (Host.bindTo socket port h).2) :
    Act.Within R (Net.claimPort socket port) :=
  (compositional_within tolerant).claimPort (Act.within_modifyGet binds) fun h =>
    Host.strike_within tolerant h.commands.length .listen h

theorem within_awaitEnd (child : Nat) : Act.Within R (awaitEnd child) :=
  within_blockUntil tolerant _

theorem within_awaitEnding (child : Nat) (ending : Ending) :
    Act.Within R (awaitEnding child ending) :=
  (compositional_within tolerant).awaitEnding ending (within_awaitEnd tolerant child)
    (within_blockUntil tolerant _)

/-- A wait is within a relation that allows for the call. -/
theorem within_waiting {child : Nat} {reap : Bool}
    (called : Act.Within R (callChild child (if reap then .reap else .wait))) :
    Act.Within R (wait child reap) := by
  have ended : Act.Within R (do
      awaitEnd child
      return ((← get).children child).outcome?.getD .unknown) :=
    Act.within_bind (within_awaitEnd tolerant child) fun _ => Act.within_map Act.within_get
  refine Act.within_bind called fun _ =>
    Act.within_bind (within_reach tolerant child .wait) fun _ => ?_
  cases reap with
  | false => exact ended
  | true => exact Act.within_bind (within_reach tolerant child .reap) fun _ => ended

theorem within_netClose {listener : Nat} (closes : ∀ h, R h (Host.closeSocket listener h)) :
    Act.Within R (Net.close listener) :=
  Act.within_bind Act.within_get fun _ => Act.within_bind (within_note tolerant _ _) fun _ =>
    Act.within_modify closes

end activities

section attending
variable {R : Host → Host → Prop} {child : Nat}

theorem within_kill (attentive : Host.Attentive child R) : Act.Within R (kill child) :=
  Act.within_modifyGet attentive.kill

variable (receptive : Host.Receptive child R)
include receptive

theorem within_read : Act.Within R (callChild child .read) := Act.within_modify receptive.read

theorem within_readOutput (output : Output) (limit : Nat) :
    Act.Within R (readOutput child output limit) :=
  (compositional_within receptive.toTolerant).readOutput (within_read receptive)
    (within_reach receptive.toTolerant child _) (within_awaitEnding receptive.toTolerant child _)

theorem within_drainOutput (output : Output) : Act.Within R (drainOutput child output) :=
  (compositional_within receptive.toTolerant).drainOutput (within_read receptive)
    (within_reach receptive.toTolerant child _) (within_awaitEnding receptive.toTolerant child _)

end attending

/-- Arming is refused by an interrupted token. -/
theorem arm_interrupted {token : String} {r : Cancel.Resource} {h : Host}
    (raised : h.interrupted token = true) : arm token r h = .ok false h := by
  have raised : (h.tokens token).interrupted = true := raised
  simp [arm, Act.bind_apply, Act.get_apply, Act.pure_apply, raised]

/-- What arming a token reports: whether it held something already. -/
def Host.rearming (token : String) (h : Host) : List Event :=
  if (h.tokens token).armed.isSome then
    [⟨.warn, "interruptor armed twice without disarm; replacing resource"⟩]
  else []

def Host.armedWith (token : String) (r : Cancel.Resource) (h : Host) : Host :=
  ({ h with events := h.rearming token ++ h.events } : Host).updateToken token
    fun t => (t.arm r).2

theorem arm_apply {token : String} {r : Cancel.Resource} {h : Host}
    (idle : h.interrupted token = false) : arm token r h = .ok true (h.armedWith token r) := by
  have idle : (h.tokens token).interrupted = false := idle
  unfold Host.armedWith Host.rearming
  cases e : (h.tokens token).armed.isSome with
  | true =>
    simp only [arm, Act.bind_apply, Act.get_apply, Act.pure_apply, Act.note_apply,
      Act.modify_apply, idle, e, Bool.false_eq_true, if_true, if_false]
    rfl
  | false =>
    simp only [arm, Act.bind_apply, Act.get_apply, Act.pure_apply, Act.modify_apply, idle, e,
      Bool.false_eq_true, if_false]
    rfl

theorem arm_idle {token : String} {r : Cancel.Resource} {h : Host}
    (idle : h.interrupted token = false) :
    ∃ events, arm token r h =
      .ok true (({ h with events := events } : Host).updateToken token fun t => (t.arm r).2) :=
  ⟨_, arm_apply idle⟩

section arming
variable {α : Type} {R : Host → Host → Prop} {token : String}

theorem within_arming {r : Cancel.Resource} (tolerant : Host.Tolerant R)
    (step : ∀ h : Host, h.interrupted token = false →
      R h (h.updateToken token fun t => (t.arm r).2)) : Act.Within R (arm token r) := by
  intro h
  cases e : h.interrupted token with
  | true => rw [Act.after_ok (arm_interrupted e)]
  | false =>
    obtain ⟨events, eq⟩ := arm_idle (r := r) e
    rw [Act.after_ok eq]
    exact .tail (.single (tolerant.write _ _ (by constructor <;> rfl))) (step _ e)

end arming

section tending
variable {token : String} {child : Nat}

theorem within_arm : Act.Within (Host.Tending token child) (arm token (.process child)) :=
  within_arming (Host.tolerant_tending token child) fun _ => .arm

theorem within_disarm : Act.Within (Host.Tending token child) (disarm token) :=
  Act.within_modify .disarm

theorem within_callChild (c : Call) : Act.Within (Host.Tending token child) (callChild child c) :=
  Act.within_modify (.call c)

theorem within_wait (reap : Bool) : Act.Within (Host.Tending token child) (wait child reap) :=
  within_waiting (Host.tolerant_tending token child) (within_callChild _)

end tending

section steps
variable {α : Type} {token : String}

/-- Looking after a child is part of a command. -/
theorem Act.Within.commanding {child : Nat} {m : Act α}
    (tended : Act.Within (Host.Tending token child) m) : Act.Within (Host.Commanding token) m :=
  tended.mono fun _ _ => .tend

/-- A command is part of an operation. -/
theorem Act.Within.step {m : Act α} (command : Act.Within (Host.Commanding token) m) :
    Act.Within (Host.Step token) m :=
  command.mono fun _ _ => .command

theorem within_armSocket (socket : Nat) :
    Act.Within (Host.Step token) (arm token (.socket socket)) :=
  within_arming (Host.tolerant_step token) fun _ => .armSocket socket

theorem within_disarmSocket : Act.Within (Host.Step token) (disarm token) :=
  Act.within_modify fun h => .command (.tend (show Host.Tending token 0 h _ from .disarm h))

theorem within_armed {socket : Nat} {operation : String} {endpoint : Host.Endpoint}
    {call : Act (Except Fault α)} (called : Act.Within (Host.Step token) call) :
    Act.Within (Host.Step token) (armed token socket operation endpoint call) :=
  (compositional_within (Host.tolerant_step token)).armed
    (within_answer (Host.tolerant_step token)) (within_armSocket socket) within_disarmSocket called

theorem within_listen (port : Nat) : Act.Within (Host.Step token) (Net.listen token port) := by
  have tolerant := Host.tolerant_step token
  exact (compositional_within tolerant).listen (within_answer tolerant)
    (Act.within_modifyGet .openSocket) fun socket =>
      within_armed (within_claimPort tolerant (.bind socket port))

end steps

section waiting

open Host

theorem blockUntil_ready {ready : Host → Bool} {h : Host} (e : ready h = true) :
    blockUntil ready h = .ok () h := by
  unfold blockUntil
  cases h.pending <;> simp [blockWith, e]

/-- Whether a blocked activity has returned says whether its condition holds. -/
theorem blockUntil_cases (ready : Host → Bool) (h : Host) :
    (∃ h', blockUntil ready h = .ok () h' ∧ ready h' = true) ∨
      ∃ halt h', blockUntil ready h = .error halt h' ∧ ready h' = false := by
  have run := blocked_blockUntil ready h
  generalize blockUntil ready h = result at run ⊢
  induction run with
  | @ready h e => exact .inl ⟨h, rfl, e⟩
  | @forever h e => exact .inr ⟨.forever, h, rfl, e⟩
  | @exit h halt e => exact .inr ⟨halt, h, rfl, e⟩
  | woken _ _ _ ih => exact ih

/-- A sleep says whether its token was interrupted in the end. -/
theorem sleep_awake {token : String} {duration : Nat} {h h' : Host} {awake : Bool}
    (slept : sleep token duration h = .ok awake h') : h'.interrupted token = !awake := by
  have shown : h.shows (h.clock + duration) = true := by
    cases shown : h.shows (h.clock + duration) with
    | true => rfl
    | false =>
      rw [sleep_panicked shown] at slept
      cases slept
  have run := dozed_sleep shown token
  rw [slept] at run
  generalize result : (EStateM.Result.ok awake h' : EStateM.Result Halt Host Bool) = r at run
  generalize h.undertake (.nap duration) = begun at run
  induction run with
  | interrupted e =>
    cases result
    exact e
  | elapsed e =>
    cases result
    exact e
  | exit => cases result
  | woken _ _ ih => exact ih result

/-- A wait blocks only once all strikes of its moment have happened. -/
theorem wait_reached (child : Nat) (reap : Bool) (h : Host) :
    ∃ h₁, wait child reap h = (do
      awaitEnd child
      return ((← get).children child).outcome?.getD .unknown : Act Outcome) h₁ := by
  cases reap <;> exact ⟨_, rfl⟩

theorem wait_cases (child : Nat) (reap : Bool) (h : Host) :
    (∃ o h', wait child reap h = .ok o h' ∧ (h'.children child).outcome? = some o) ∨
      ∃ halt h', wait child reap h = .error halt h' ∧ (h'.children child).outcome? = none := by
  obtain ⟨h₁, called⟩ := wait_reached child reap h
  rw [called, Act.bind_apply]
  unfold awaitEnd
  obtain ⟨h₂, e, ended⟩ | ⟨halt, h₂, e, running⟩ :=
    blockUntil_cases (fun h => (h.children child).hasEnded) h₁
  · obtain ⟨o, outcome⟩ := Option.isSome_iff_exists.mp ended
    exact .inl ⟨o, h₂, by simp [e, Act.bind_apply, Act.get_apply, Act.pure_apply, outcome], outcome⟩
  · exact .inr ⟨halt, h₂, by simp [e], by simpa [Child.hasEnded] using running⟩

end waiting
end DebugBridge
