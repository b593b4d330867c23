import DebugBridge.Proofs.Host.Calls

/-!
# The custody of a child

While a token is armed with a child, an interrupt of the token kills the child. A child that no
token is armed with is out of everybody's reach: whatever happens, nothing is asked of it. So from
its start to its release a child passes through a few states, and whatever happens by itself leaves
each of them as it is.
-/

namespace DebugBridge
namespace Host

open Cancel Relation

/-- How things stood when a call was made. Who reads or waits can be woken: an interrupt of the
token would kill the child, or the child has ended. Only a child that has ended is released. -/
def Occasion.Guarded (token : String) (o : Occasion) : Prop :=
  match o.call with
  | .kill => True
  | .read | .wait => (o.tokens token).armed = some (.process o.child) ∨ o.before.hasEnded = true
  | .reap => o.before.hasEnded = true

/-- No token is armed with the child. -/
def Loose (child : Nat) (h : Host) : Prop :=
  ∀ name, (h.tokens name).armed ≠ some (.process child)

/-- A child that no token is armed with was left alone. -/
structure Spared (child : Nat) (h h' : Host) : Prop where
  loose : Loose child h'
  childCount : h.childCount ≤ h'.childCount
  state : h'.children child = h.children child
  occasions : h'.occasionsOn child = h.occasionsOn child

/-- A child is left alone if no token is armed with it. -/
def Spares (child : Nat) (h h' : Host) : Prop := Loose child h → Spared child h h'

section interrupt
variable {name : String} {child : Nat} {h : Host}

theorem tokens_interrupt (name : String) (h : Host) :
    (h.interrupt name).tokens = assign h.tokens name { interrupted := true } := by
  obtain ⟨events, e⟩ := interrupt_eq name h
  rw [e]
  unfold cut
  split
  · exact tokens_emptied name h
  · obtain ⟨sockets, shut⟩ := shutDown_eq _ (h.emptied name)
    rw [shut]
    exact tokens_emptied name h
  · exact tokens_emptied name h

/-- An interrupt of a token that is not armed with the child leaves the child alone. -/
theorem interrupt_other (other : (h.tokens name).armed ≠ some (.process child)) :
    (h.interrupt name).children child = h.children child ∧
      (h.interrupt name).occasionsOn child = h.occasionsOn child := by
  obtain ⟨events, e⟩ := interrupt_eq name h
  rw [e]
  unfold cut
  split
  · exact ⟨rfl, rfl⟩
  · obtain ⟨sockets, shut⟩ := shutDown_eq _ (h.emptied name)
    rw [shut]
    exact ⟨rfl, rfl⟩
  · next id armed =>
    have ne : child ≠ id := fun same => other (same ▸ armed)
    exact ⟨assign_other _ ne, occasionsOn_record_other .kill _ (Ne.symm ne)⟩

/-- An interrupt of a token that is armed with the child kills the child. -/
theorem interrupt_armed (armed : (h.tokens name).armed = some (.process child)) :
    (h.interrupt name).children child = (h.children child).kill ∧
      ∃ o, o.call = .kill ∧ (h.interrupt name).occasionsOn child = o :: h.occasionsOn child := by
  obtain ⟨events, e⟩ := interrupt_eq name h
  rw [e]
  unfold cut
  rw [armed]
  exact ⟨assign_same _ _ _, _, rfl, occasionsOn_record_same child .kill _⟩

end interrupt

section spares
variable {token : String} {child : Nat} {h h' h'' : Host}

theorem Spares.trans (a : Spares child h h') (b : Spares child h' h'') : Spares child h h'' := by
  intro loose
  have first := a loose
  have second := b first.loose
  exact ⟨second.loose, Nat.le_trans first.childCount second.childCount,
    second.state.trans first.state, second.occasions.trans first.occasions⟩

theorem Spares.refl (child : Nat) (h : Host) : Spares child h h :=
  fun loose => ⟨loose, Nat.le_refl _, rfl, rfl⟩

theorem spares_of_run (run : ReflTransGen (Spares child) h h') : Spares child h h' := by
  induction run with
  | refl => exact Spares.refl child h
  | tail _ step ih => exact ih.trans step

theorem SameWorld.spares (world : SameWorld h h') (child : Nat) : Spares child h h' := by
  intro loose
  refine ⟨fun name => ?_, Nat.le_of_eq world.childCount.symm, by rw [world.children], ?_⟩
  · rw [world.tokens]
    exact loose name
  · rw [occasionsOn, world.occasions, occasionsOn]

theorem interrupt_spares (name : String) (child : Nat) (h : Host) :
    Spares child h (h.interrupt name) := by
  intro loose
  obtain ⟨state, occasions⟩ := interrupt_other (loose name)
  refine ⟨fun other => ?_, Nat.le_of_eq (quiet_interrupt name h).childCount.symm, state, occasions⟩
  rw [tokens_interrupt]
  by_cases eq : other = name
  · simp [eq]
  · simpa [eq] using loose other

theorem tolerant_spares (child : Nat) : Tolerant (Spares child) :=
  ⟨fun _ _ world => world.spares child, fun name h => interrupt_spares name child h⟩

/-- To look after one child is to leave every other child alone. -/
theorem Tending.spares {other : Nat} (ne : child ≠ other) (step : Tending token other h h') :
    Spares child h h' := by
  cases step with
  | write world => exact world.spares child
  | interrupt name => exact interrupt_spares name child h
  | arm idle =>
    intro loose
    refine ⟨fun name => ?_, Nat.le_refl _, rfl, rfl⟩
    have idle : (h.tokens token).interrupted = false := idle
    by_cases eq : name = token
    · simp [eq, updateToken, Token.arm, idle, Ne.symm ne]
    · simpa [updateToken, eq] using loose name
  | disarm =>
    intro loose
    refine ⟨fun name => ?_, Nat.le_refl _, rfl, rfl⟩
    by_cases eq : name = token
    · simp [eq, updateToken, Token.disarm]
    · simpa [updateToken, eq] using loose name
  | call c =>
    exact fun loose => ⟨loose, Nat.le_refl _, rfl, occasionsOn_record_other c h (Ne.symm ne)⟩
  | kill =>
    exact fun loose => ⟨loose, Nat.le_refl _, assign_other _ ne,
      occasionsOn_record_other .kill h (Ne.symm ne)⟩

/-- To start a child is to leave every other child alone. -/
theorem start_spares (argv : List String) (mode : Mode) (ne : child ≠ h.childCount) :
    Spares child h (h.start argv mode).2 := by
  intro loose
  obtain ⟨commands, children, childCount, stdout, e, more, old⟩ := start_eq argv mode h
  rw [e]
  exact ⟨loose, more, old child ne, rfl⟩

end spares

/-- Of a child that was not started yet no token knows and nothing was asked. -/
def Grounded (h : Host) : Prop := ∀ id, h.childCount ≤ id → Loose id h ∧ h.occasionsOn id = []

structure Newborn (child : Nat) (h : Host) : Prop where
  known : child < h.childCount
  loose : Loose child h
  unasked : h.occasionsOn child = []

/-- A child that is looked after: an interrupt of the token would kill it, or it has ended. -/
structure Kept (token : String) (child : Nat) (h : Host) : Prop where
  known : child < h.childCount
  armed : (h.tokens token).armed = some (.process child) ∨ (h.children child).hasEnded = true
  others : ∀ name, name ≠ token → (h.tokens name).armed ≠ some (.process child)
  guarded : ∀ o ∈ h.occasionsOn child, o.Guarded token
  unreleased : .reap ∉ h.callsOn child

/-- A child that has ended and that nobody can reach any more. -/
structure Ended (token : String) (child : Nat) (h : Host) : Prop where
  known : child < h.childCount
  loose : Loose child h
  ended : (h.children child).hasEnded = true
  guarded : ∀ o ∈ h.occasionsOn child, o.Guarded token

/-- A child that was released once, by the last call that was made on it. -/
structure Released (token : String) (child : Nat) (h : Host) : Prop
    extends Ended token child h where
  released : ∃ earlier, h.callsOn child = .reap :: earlier ∧ .reap ∉ earlier

section states
variable {token : String} {child : Nat} {h h' : Host}

theorem callsOn_spared (spared : Spared child h h') : h'.callsOn child = h.callsOn child := by
  rw [callsOn, spared.occasions, callsOn]

theorem Newborn.spared (newborn : Newborn child h) (spares : Spares child h h') :
    Newborn child h' :=
  have spared := spares newborn.loose
  ⟨Nat.lt_of_lt_of_le newborn.known spared.childCount, spared.loose,
    spared.occasions.trans newborn.unasked⟩

theorem Ended.spared (ended : Ended token child h) (spares : Spares child h h') :
    Ended token child h' :=
  have spared := spares ended.loose
  ⟨Nat.lt_of_lt_of_le ended.known spared.childCount, spared.loose, spared.state ▸ ended.ended,
    spared.occasions ▸ ended.guarded⟩

theorem Released.spared (released : Released token child h) (spares : Spares child h h') :
    Released token child h' :=
  ⟨released.toEnded.spared spares,
    callsOn_spared (spares released.loose) ▸ released.released⟩

theorem hasEnded_killChild (child : Nat) (h : Host) :
    ((h.killChild child).2.children child).hasEnded = true := by
  simp [killChild, updateChild]

theorem occasionsOn_killChild (child : Nat) (h : Host) :
    (h.killChild child).2.occasionsOn child =
      ⟨child, .kill, h.children child, h.tokens⟩ :: h.occasionsOn child :=
  occasionsOn_record_same child .kill h

/-- Whatever is done with a child that is looked after, it stays looked after. -/
def Keeps (token : String) (child : Nat) (h h' : Host) : Prop :=
  Kept token child h → Kept token child h'

theorem keeps_of_run (run : ReflTransGen (Keeps token child) h h') : Keeps token child h h' := by
  induction run with
  | refl => exact id
  | tail _ step ih => exact fun kept => step (ih kept)

theorem interrupt_keeps (name : String) (h : Host) : Keeps token child h (h.interrupt name) := by
  intro kept
  have known : child < (h.interrupt name).childCount :=
    (quiet_interrupt name h).childCount ▸ kept.known
  have others (other : String) (ne : other ≠ token) :
      ((h.interrupt name).tokens other).armed ≠ some (.process child) := by
    rw [tokens_interrupt]
    by_cases eq : other = name
    · simp [eq]
    · simpa [eq] using kept.others other ne
  by_cases armed : (h.tokens name).armed = some (.process child)
  · obtain ⟨killed, o, call, occasions⟩ := interrupt_armed armed
    refine ⟨known, .inr (killed ▸ Child.hasEnded_kill _), others, fun o' asked => ?_, ?_⟩
    · obtain rfl | earlier := List.mem_cons.mp (occasions ▸ asked)
      · simp [Occasion.Guarded, call]
      · exact kept.guarded o' earlier
    · simpa [callsOn, occasions, call] using kept.unreleased
  · obtain ⟨state, occasions⟩ := interrupt_other armed
    refine ⟨known, ?_, others, occasions ▸ kept.guarded, ?_⟩
    · rw [state]
      obtain own | ended := kept.armed
      · have ne : token ≠ name := fun same => armed (same ▸ own)
        rw [tokens_interrupt, assign_other _ ne]
        exact .inl own
      · exact .inr ended
    · simpa only [callsOn, occasions] using kept.unreleased

/-- A child that is looked after may be called as long as it is not released. -/
theorem call_keeps {c : Call} (unreleasing : c ≠ .reap) (h : Host) :
    Keeps token child h (h.record child c) := by
  intro kept
  refine ⟨kept.known, kept.armed, kept.others, fun o asked => ?_, ?_⟩
  · obtain rfl | earlier := List.mem_cons.mp (occasionsOn_record_same child c h ▸ asked)
    · cases c with
      | read => exact kept.armed
      | wait => exact kept.armed
      | kill => exact trivial
      | reap => exact absurd rfl unreleasing
    · exact kept.guarded o earlier
  · simpa [Ne.symm unreleasing] using kept.unreleased

theorem attentive_keeps (token : String) (child : Nat) : Attentive child (Keeps token child) where
  write h h' world kept := by
    have occasions : h'.occasionsOn child = h.occasionsOn child := by
      rw [occasionsOn, world.occasions, occasionsOn]
    refine ⟨world.childCount ▸ kept.known, ?_, ?_, occasions ▸ kept.guarded, ?_⟩
    · rw [world.tokens, world.children]
      exact kept.armed
    · rw [world.tokens]
      exact kept.others
    · simpa only [callsOn, occasions] using kept.unreleased
  interrupt := interrupt_keeps
  read := call_keeps (by simp)
  wait := call_keeps (by simp)
  kill h kept := by
    refine ⟨kept.known, .inr (hasEnded_killChild child h), kept.others, fun o asked => ?_, ?_⟩
    · obtain rfl | earlier := List.mem_cons.mp (occasionsOn_killChild child h ▸ asked)
      · exact trivial
      · exact kept.guarded o earlier
    · simpa [callsOn, occasionsOn_killChild] using kept.unreleased

/-- A child that no token was armed with is out of reach once it was killed. -/
theorem Newborn.killed (newborn : Newborn child h) (token : String) :
    Ended token child (h.killChild child).2 ∧ .reap ∉ (h.killChild child).2.callsOn child := by
  refine ⟨⟨newborn.known, newborn.loose, hasEnded_killChild child h, fun o asked => ?_⟩, ?_⟩
  · simp only [occasionsOn_killChild, newborn.unasked, List.mem_singleton] at asked
    subst asked
    exact trivial
  · simp [callsOn, occasionsOn_killChild, newborn.unasked]

/-- Once it has ended, a child that was looked after is out of reach when its token is disarmed. -/
theorem Kept.disarmed (kept : Kept token child h) (ended : (h.children child).hasEnded = true) :
    Ended token child (h.updateToken token Token.disarm) := by
  refine ⟨kept.known, fun name => ?_, ended, kept.guarded⟩
  by_cases eq : name = token
  · simp [eq, updateToken, Token.disarm]
  · simpa [updateToken, eq] using kept.others name eq

/-- A token that is armed with a new child looks after it. -/
theorem Newborn.armed (newborn : Newborn child h) (idle : h.interrupted token = false) :
    Kept token child (h.updateToken token fun t => (t.arm (.process child)).2) := by
  have idle : (h.tokens token).interrupted = false := idle
  have unasked : (h.updateToken token fun t => (t.arm (.process child)).2).occasionsOn child = [] :=
    newborn.unasked
  refine ⟨newborn.known, .inl ?_, fun name ne => ?_, ?_, ?_⟩
  · simp [updateToken, Token.arm, idle]
  · simpa [updateToken, ne] using newborn.loose name
  · simp [unasked]
  · simp [callsOn, unasked]

/-- The release of a child that has ended. -/
theorem Ended.reap (ended : Ended token child h) (unreleased : .reap ∉ h.callsOn child) :
    Released token child (h.record child .reap) := by
  refine ⟨⟨ended.known, ended.loose, ended.ended, fun o asked => ?_⟩,
    h.callsOn child, callsOn_record_same child .reap h, unreleased⟩
  obtain rfl | earlier := List.mem_cons.mp (occasionsOn_record_same child .reap h ▸ asked)
  · exact ended.ended
  · exact ended.guarded o earlier

end states

section calls
variable {token : String} {child : Nat} {h : Host}

/-- A child that has ended and is out of reach is released without blocking. -/
theorem Ended.waited (ended : Ended token child h) (unreleased : .reap ∉ h.callsOn child) :
    ∃ o h', wait child true h = .ok o h' ∧ Released token child h' := by
  have tolerant := tolerant_spares child
  have rest : ReflTransGen (Spares child) (h.record child .reap) (Act.after (wait child true) h) :=
    Act.within_rest (m := callChild child .reap) (fun _ =>
      Act.within_bind (within_reach tolerant child .wait) fun _ =>
        Act.within_bind (within_reach tolerant child .reap) fun _ =>
          Act.within_bind (within_awaitEnd tolerant child) fun _ => Act.within_map Act.within_get) h
  have released := (ended.reap unreleased).spared (spares_of_run rest)
  obtain ⟨o, h', e, -⟩ | ⟨halt, h', e, running⟩ := wait_cases child true h
  · exact ⟨o, h', e, Act.after_ok e ▸ released⟩
  · have decided := released.ended
    rw [Act.after_error e, Child.hasEnded, running] at decided
    simp at decided

/-- Somebody who waits for a child looks after it until it ends. -/
theorem Kept.waited (kept : Kept token child h) :
    (∃ o h', wait child false h = .ok o h' ∧ Kept token child h' ∧
        (h'.children child).hasEnded = true) ∨
      ∃ halt h', wait child false h = .error halt h' ∧ Kept token child h' := by
  have attentive := attentive_keeps token child
  have run : Act.Within (Keeps token child) (wait child false) :=
    within_waiting attentive.toTolerant
      (Act.within_modify attentive.wait)
  obtain ⟨o, h', e, outcome⟩ | ⟨halt, h', e, -⟩ := wait_cases child false h
  · exact .inl ⟨o, h', e, keeps_of_run (run.ok e) kept, by simp [Child.hasEnded, outcome]⟩
  · exact .inr ⟨halt, h', e, keeps_of_run (run.error e) kept⟩

end calls

/-- No token is armed with anything new but perhaps with these resources. -/
def ArmsOnly (own : List Resource) (h h' : Host) : Prop :=
  ∀ name r, r ∉ own → (h'.tokens name).armed = some r → (h.tokens name).armed = some r

/-- What is done is done with one child: no other child is touched, and no token is armed with
anything else. -/
structure Aside (child : Nat) (h h' : Host) : Prop where
  others : ∀ id, id ≠ child → Spares id h h'
  armed : ArmsOnly [.process child] h h'

section aside
variable {token : String} {child : Nat} {own : List Resource} {h h' h'' : Host}

theorem ArmsOnly.trans (a : ArmsOnly own h h') (b : ArmsOnly own h' h'') : ArmsOnly own h h'' :=
  fun name r new armed => a name r new (b name r new armed)

/-- A child that no token is armed with in the end is no exception. -/
theorem ArmsOnly.of_loose (armed : ArmsOnly [.process child] h h') (loose : Loose child h') :
    ArmsOnly [] h h' := by
  intro name r _ held
  refine armed name r (fun own => ?_) held
  obtain rfl := List.mem_singleton.mp own
  exact loose name held

theorem tolerant_armsOnly (own : List Resource) : Tolerant (ArmsOnly own) where
  write h h' world name r _ armed := world.tokens ▸ armed
  interrupt name h other r _ armed := by
    rw [tokens_interrupt] at armed
    by_cases eq : other = name
    · simp [eq] at armed
    · simpa [eq] using armed

theorem armsOnly_of_run (run : ReflTransGen (ArmsOnly own) h h') : ArmsOnly own h h' := by
  induction run with
  | refl => exact fun _ _ _ armed => armed
  | tail _ step ih => exact ih.trans step

theorem Aside.trans (a : Aside child h h') (b : Aside child h' h'') : Aside child h h'' :=
  ⟨fun id ne => (a.others id ne).trans (b.others id ne), a.armed.trans b.armed⟩

theorem Tending.aside (step : Tending token child h h') : Aside child h h' := by
  refine ⟨fun id ne => step.spares ne, ?_⟩
  cases step with
  | write world => exact (tolerant_armsOnly _).write _ _ world
  | interrupt name => exact (tolerant_armsOnly _).interrupt name h
  | arm idle =>
    intro name r new armed
    have idle : (h.tokens token).interrupted = false := idle
    by_cases eq : name = token
    · subst eq
      have own : r = .process child := by
        simpa [updateToken, Token.arm, idle] using armed.symm
      simp [own] at new
    · simpa [updateToken, eq] using armed
  | disarm =>
    intro name r _ armed
    by_cases eq : name = token
    · simp [eq, updateToken, Token.disarm] at armed
    · simpa [updateToken, eq] using armed
  | call c => exact fun _ _ _ armed => armed
  | kill => exact fun _ _ _ armed => armed

theorem aside_of_tended (run : ReflTransGen (Tending token child) h h') : Aside child h h' := by
  induction run with
  | refl => exact ⟨fun id _ => Spares.refl id h, fun _ _ _ armed => armed⟩
  | tail _ step ih => exact ih.trans step.aside

end aside
end Host
end DebugBridge
