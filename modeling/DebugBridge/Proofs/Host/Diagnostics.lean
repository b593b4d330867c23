import DebugBridge.Proofs.Composition
import DebugBridge.Proofs.Host.Calls

/-!
# What is written meanwhile

Diagnostics are only added, never taken back. Whatever is done on a host through a token writes
details, and warnings where a kill reports a fault or a token is armed twice, but nothing more
severe. `Discreet` names what a relation has to allow for so that all of it stays within the
relation.
-/

namespace DebugBridge

open Host Relation

namespace Host
variable {P : Event → Prop} {h h' h₁ h₂ h₃ : Host}

/-- Only events that satisfy the condition were written. -/
def Wrote (P : Event → Prop) (h h' : Host) : Prop :=
  ∃ later, h'.events = later ++ h.events ∧ ∀ e ∈ later, P e

theorem wrote_of_same (events : h'.events = h.events) : Wrote P h h' := ⟨[], events, by simp⟩

theorem Wrote.trans (a : Wrote P h₁ h₂) (b : Wrote P h₂ h₃) : Wrote P h₁ h₃ := by
  obtain ⟨first, events, holds⟩ := a
  obtain ⟨later, events', holds'⟩ := b
  refine ⟨later ++ first, by rw [events', events, List.append_assoc], fun e mem => ?_⟩
  exact (List.mem_append.mp mem).elim (holds' e) (holds e)

theorem wrote_of_run (run : ReflTransGen (Wrote P) h h') : Wrote P h h' := by
  induction run with
  | refl => exact wrote_of_same rfl
  | tail _ step ih => exact ih.trans step

theorem wrote_note {severity : Severity} {text : String} (holds : P ⟨severity, text⟩) (h : Host) :
    Wrote P h (h.note severity text) :=
  ⟨[⟨severity, text⟩], rfl, by simpa using holds⟩

theorem events_shutDown (id : Nat) (h : Host) : (h.shutDown id).2.events = h.events := by
  obtain ⟨sockets, eq⟩ := shutDown_eq id h
  rw [eq]

section severities
variable (details : ∀ text, P ⟨.debug, text⟩)
  (warnings : (∃ id, (h.children id).killFault? ≠ none) → ∀ text, P ⟨.warn, text⟩)
include details warnings

/-- Only a kill that reports a fault is warned about. -/
theorem wrote_forceClosed (r : Cancel.Resource) : Wrote P h (h.forceClosed r) := by
  cases r with
  | socket id =>
    have noted := wrote_note (details "interrupting blocked socket") h
    have shut := events_shutDown id (h.note .debug "interrupting blocked socket")
    unfold forceClosed
    dsimp only
    split
    · next eq =>
      rw [eq] at shut
      exact noted.trans (wrote_of_same shut)
    · next eq =>
      rw [eq] at shut
      exact noted.trans ((wrote_of_same shut).trans (wrote_note (details _) _))
  | process id =>
    have noted := wrote_note (details s!"interrupting process {(h.children id).pid}") h
    unfold forceClosed
    dsimp only [killChild]
    split
    · next eq =>
      obtain ⟨-, rfl⟩ := Prod.mk.inj eq
      exact noted.trans (wrote_of_same rfl)
    · next cause _ eq =>
      obtain ⟨fault, rfl⟩ := Prod.mk.inj eq
      have faulty : (h.children id).killFault? = some cause := fault
      have warning := warnings ⟨id, by simp [faulty]⟩
      exact noted.trans ((wrote_of_same rfl).trans (wrote_note (warning _) _))

theorem wrote_interrupt (name : String) : Wrote P h (h.interrupt name) := by
  unfold interrupt closeArmed
  split
  · exact wrote_of_same rfl
  · refine (wrote_of_same rfl).trans (wrote_forceClosed details ?_ _)
    exact warnings

end severities

/-- Nothing was written, no token was interrupted, no strike was added, and neither what becomes of
commands nor what kills report has changed. -/
structure Unnoticed (h h' : Host) : Prop where
  events : h'.events = h.events
  foreword : h'.foreword = h.foreword
  flags : ∀ name, h'.interrupted name = h.interrupted name
  strikes : h'.strikes.Sublist h.strikes
  backend : h'.backend = h.backend
  killFault? : h'.killFault? = h.killFault?
  faults : ∀ id, (h'.children id).killFault? = (h.children id).killFault?

theorem unnoticed_record (child : Nat) (call : Call) (h : Host) :
    Unnoticed h (h.record child call) :=
  ⟨rfl, rfl, fun _ => rfl, .refl _, rfl, rfl, fun _ => rfl⟩

theorem unnoticed_kill (id : Nat) (h : Host) : Unnoticed h (h.killChild id).2 := by
  refine ⟨rfl, rfl, fun _ => rfl, .refl _, rfl, rfl, fun other => ?_⟩
  change (assign h.children id (h.children id).kill other).killFault? = _
  by_cases same : other = id
  · subst same
    rw [assign_same]
    rfl
  · rw [assign_other _ same]

theorem unnoticed_updateToken (name : String) {f : Cancel.Token → Cancel.Token} {h : Host}
    (flag : (f (h.tokens name)).interrupted = (h.tokens name).interrupted) :
    Unnoticed h (h.updateToken name f) := by
  refine ⟨rfl, rfl, fun other => ?_, .refl _, rfl, rfl, fun _ => rfl⟩
  change (assign h.tokens name (f (h.tokens name)) other).interrupted = _
  by_cases same : other = name
  · subst same
    rw [assign_same]
    exact flag
  · rw [assign_other _ same]
    rfl

theorem unnoticed_sockets (eq : ∃ sockets, h' = { h with sockets := sockets }) :
    Unnoticed h h' := by
  obtain ⟨sockets, rfl⟩ := eq
  exact ⟨rfl, rfl, fun _ => rfl, .refl _, rfl, rfl, fun _ => rfl⟩

/-- A relation that allows for all that is done on a host through a token, as long as nothing but
details are written, and warnings only while the token is not interrupted or by an interrupt. -/
structure Discreet (token : String) (R : Host → Host → Prop) : Prop where
  unnoticed : ∀ h h', Unnoticed h h' → R h h'
  detail : ∀ text h, R h (h.note .debug text)
  rearming : ∀ text h, h.interrupted token = false → R h (h.note .warn text)
  interrupt : ∀ name h, R h (h.interrupt name)
  outside : ∀ name h, R h (h.interruptFromOutside name)
  start : ∀ argv mode h, R h (h.start argv mode).2

theorem discreet_wrote (details : ∀ text, P ⟨.debug, text⟩) (warnings : ∀ text, P ⟨.warn, text⟩)
    (token : String) : Discreet token (Wrote P) where
  unnoticed _ _ same := wrote_of_same same.events
  detail text h := wrote_note (details text) h
  rearming text h _ := wrote_note (warnings text) h
  interrupt name h := wrote_interrupt details (fun _ => warnings) name
  outside name h := wrote_of_same rfl
  start argv mode h := by
    obtain ⟨commands, children, childCount, stdout, e, -⟩ := start_eq argv mode h
    exact wrote_of_same (by rw [e])

namespace Discreet

variable {token : String} {child : Nat} {R : Host → Host → Prop} (discreet : Discreet token R)
include discreet

theorem sequential : Sequential fun m => Act.Within R m where
  pure := Act.within_pure
  bind := Act.within_bind
  isInterrupted := Act.within_isInterrupted
  detail text := Act.within_modify (discreet.detail text)

theorem strike (command : Nat) (point : Point) (h : Host) :
    ReflTransGen R h (h.strike command point) := by
  refine strike_of_suffers (fun _ _ fewer => discreet.unnoticed _ _ ?_) (fun s h => ?_)
    command point h
  · exact ⟨rfl, rfl, fun _ => rfl, fewer, rfl, rfl, fun _ => rfl⟩
  · unfold suffer
    split
    · exact discreet.unnoticed _ _ ⟨rfl, rfl, fun _ => rfl, .refl _, rfl, rfl, fun _ => rfl⟩
    · exact discreet.interrupt s.token h

/-- What wakes a blocked activity is an interrupt by somebody else. -/
theorem wake {deadline? : Option Nat} (woken : h.wake? deadline? = some (.ok h')) :
    ReflTransGen R h h' := by
  obtain ⟨name, alarms, clock, cues, requests, rfl⟩ := wake_eq woken
  refine .head (discreet.unnoticed _ _ ?_) (.single (discreet.outside name _))
  exact ⟨rfl, rfl, fun _ => rfl, .refl _, rfl, rfl, fun _ => rfl⟩

theorem blockUntil (ready : Host → Bool) : Act.Within R (blockUntil ready) :=
  fun h => within_blockWith_of_wakes (fun _ _ woken => discreet.wake woken) ready h.pending h

theorem awaitEnd : Act.Within R (awaitEnd child) := discreet.blockUntil _

theorem callChild (call : Call) : Act.Within R (callChild child call) :=
  Act.within_modify fun h => discreet.unnoticed _ _ (unnoticed_record child call h)

theorem kill : Act.Within R (kill child) :=
  Act.within_modifyGet fun h => discreet.unnoticed _ _ (unnoticed_kill child h)

theorem disarm (name : String) : Act.Within R (disarm name) :=
  Act.within_modify fun _ => discreet.unnoticed _ _ (unnoticed_updateToken name rfl)

/-- A token is armed twice only while it is not interrupted. -/
theorem arm (r : Cancel.Resource) : Act.Within R (arm token r) := by
  intro h
  cases idle : h.interrupted token with
  | true => rw [Act.after_ok (arm_interrupted idle)]
  | false =>
    have held (h : Host) : R h (h.updateToken token fun t => (t.arm r).2) :=
      discreet.unnoticed _ _ (unnoticed_updateToken token (Cancel.Token.interrupted_arm r _))
    rw [Act.after_ok (arm_apply idle)]
    unfold armedWith Host.rearming
    split
    · exact .tail (.single (discreet.rearming _ _ idle)) (held _)
    · exact .single (held h)

theorem reach (point : Point) : Act.Within R (reach child point) := by
  intro h
  unfold DebugBridge.reach
  rw [Act.after_ok (Act.modify_apply _ h)]
  split
  · exact discreet.strike _ _ _
  · exact .refl

theorem reachLatest (point : Point) : Act.Within R (reachLatest point) := by
  intro h
  unfold DebugBridge.reachLatest
  rw [Act.after_ok (Act.modify_apply _ h)]
  split
  · exact .refl
  · exact discreet.strike _ _ _

theorem spawn (argv : List String) (mode : Mode) : Act.Within R (spawn argv mode) := by
  have rules := discreet.sequential
  refine rules.bind Act.within_get fun h =>
    rules.bind (Act.within_modifyGet (discreet.start argv mode)) fun _ =>
      rules.bind (fun h' => discreet.strike _ _ h') fun _ => rules.pure _

theorem wait (reap : Bool) : Act.Within R (wait child reap) := by
  have rules := discreet.sequential
  have ended : Act.Within R (do
      DebugBridge.awaitEnd child
      return ((← get).children child).outcome?.getD .unknown) :=
    rules.bind discreet.awaitEnd fun _ => Act.within_map Act.within_get
  refine rules.bind (discreet.callChild _) fun _ =>
    rules.bind (discreet.reach .wait) fun _ => ?_
  cases reap with
  | false => exact ended
  | true => exact rules.bind (discreet.reach .reap) fun _ => ended

theorem conclude : Act.Within R (conclude token child) :=
  discreet.sequential.conclude discreet.wait (discreet.disarm token)

theorem abandon : Act.Within R (abandon child) := by
  have rules := discreet.sequential
  have reaped : Act.Within R (do let _ ← DebugBridge.wait child true) :=
    rules.bind (discreet.wait true) fun _ => rules.pure _
  refine rules.bind discreet.kill fun fault => ?_
  cases fault with
  | none => exact reaped
  | some cause =>
    exact rules.bind Act.within_get fun _ => rules.bind (rules.detail _) fun _ => reaped

theorem readAll (q : Query) (output : Output) : Act.Within R (readAll q child output) := by
  have rules := discreet.sequential
  have ending : Act.Within R (awaitEnding child output.ending) :=
    rules.awaitEnding output.ending discreet.awaitEnd (discreet.blockUntil _)
  have reads : Act.Within R (readOutput child output q.limit) :=
    rules.readOutput (discreet.callChild .read) (discreet.reach .read) ending
  have drains : Act.Within R (drainOutput child output) :=
    rules.drainOutput (discreet.callChild .read) (discreet.reach .drain) ending
  exact rules.readAll (rules.readAnswer reads drains) discreet.kill

theorem sleep (name : String) (duration : Nat) : Act.Within R (sleep name duration) :=
  within_sleep_of_wakes (fun _ _ _ woken => discreet.wake woken)
    (fun _ => discreet.unnoticed _ _ ⟨rfl, rfl, fun _ => rfl, .refl _, rfl, rfl, fun _ => rfl⟩)
    (fun _ _ => discreet.unnoticed _ _ ⟨rfl, rfl, fun _ => rfl, .refl _, rfl, rfl, fun _ => rfl⟩)
    name

theorem listen (port : Nat) : Act.Within R (Net.listen token port) := by
  have rules := discreet.sequential
  have claims (socket : Nat) : Act.Within R (Net.claimPort socket port) :=
    rules.claimPort
      (Act.within_modifyGet fun h => discreet.unnoticed _ _ (unnoticed_sockets (bindTo_eq _ _ h)))
      fun h => discreet.strike h.commands.length .listen h
  have asks : Act.Within R (modifyGet Host.answer : Act (Option Fault)) :=
    Act.within_modifyGet fun _ =>
      discreet.unnoticed _ _ ⟨rfl, rfl, fun _ => rfl, .refl _, rfl, rfl, fun _ => rfl⟩
  refine rules.listen asks (Act.within_modifyGet fun _ => discreet.unnoticed _ _ ?_) fun socket =>
    rules.armed asks (discreet.arm _) (discreet.disarm token) (claims socket)
  exact ⟨rfl, rfl, fun _ => rfl, .refl _, rfl, rfl, fun _ => rfl⟩

theorem netClose (listener : Nat) : Act.Within R (Net.close listener) :=
  discreet.sequential.bind Act.within_get fun _ =>
    discreet.sequential.bind (discreet.sequential.detail _) fun _ =>
      Act.within_modify fun h =>
        discreet.unnoticed _ _ (unnoticed_sockets (closeSocket_eq listener h))

end Discreet
end Host
end DebugBridge
