import DebugBridge.Proofs.Bridge.Request
import DebugBridge.Proofs.Tunnel.Waiting

/-!
# When the program ends at once

The second request to stop also stops the taking down, and only a later one ends the program at
once. So as long as nothing stops the taking down and the clock does not come to an end, whatever
does not return is blocked for ever.
-/

namespace DebugBridge

open Host Cancel

namespace Host

/-- Somebody who asked twice also stopped the taking down, and the clock never comes to an end. -/
structure Obeyed (h : Host) : Prop where
  endless : h.clockEnd? = none
  twice : 2 ≤ h.requests → h.interrupted teardownToken = true

/-- Nobody asked the program to stop, and no flag that stops the taking down went down. -/
structure Unasked (h h' : Host) : Prop where
  clockEnd? : h'.clockEnd? = h.clockEnd?
  requests : h'.requests = h.requests
  flag : h.interrupted teardownToken = true → h'.interrupted teardownToken = true

theorem Unasked.refl (h : Host) : Unasked h h := ⟨rfl, rfl, id⟩

theorem Unasked.trans {h₁ h₂ h₃ : Host} (a : Unasked h₁ h₂) (b : Unasked h₂ h₃) : Unasked h₁ h₃ :=
  ⟨b.clockEnd?.trans a.clockEnd?, b.requests.trans a.requests, b.flag ∘ a.flag⟩

theorem Unasked.obeyed {h h' : Host} (unasked : Unasked h h') (obeyed : h.Obeyed) : h'.Obeyed :=
  ⟨unasked.clockEnd?.trans obeyed.endless,
    fun twice => unasked.flag (obeyed.twice (unasked.requests ▸ twice))⟩

/-- Sockets are nothing that the program is asked through. -/
theorem unasked_of_sockets {h h' : Host} (eq : ∃ sockets, h' = { h with sockets := sockets }) :
    Unasked h h' := by
  obtain ⟨sockets, rfl⟩ := eq
  exact ⟨rfl, rfl, id⟩

theorem unasked_meet (socket : Nat) (peer : Peer) (h : Host) : Unasked h (h.meet socket peer) := by
  obtain ⟨sockets, socketCount, e⟩ := meet_eq socket peer h
  rw [e]
  exact ⟨rfl, rfl, id⟩

theorem unasked_takeWaiting (listener : Nat) (h : Host) :
    Unasked h (h.takeWaiting listener).2 := by
  obtain ⟨sockets, socketCount, visitors, e⟩ := takeWaiting_eq listener h
  rw [e]
  exact ⟨rfl, rfl, id⟩

theorem unasked_updateToken (name : String) {f : Token → Token} {h : Host}
    (kept : (f (h.tokens name)).interrupted = (h.tokens name).interrupted) :
    Unasked h (h.updateToken name f) :=
  ⟨rfl, rfl, fun raised => (interrupted_updateToken kept).trans raised⟩

theorem unasked_interrupt (name : String) (h : Host) : Unasked h (h.interrupt name) := by
  refine ⟨(quiet_interrupt name h).clockEnd?, ?_, (quiet_interrupt name h).flags teardownToken⟩
  obtain ⟨events, e⟩ := interrupt_eq name h
  rw [e]
  change (h.cut name).requests = h.requests
  have emptied : (h.emptied name).requests = h.requests := by
    rw [emptied_eq]
    rfl
  unfold cut
  split
  · exact emptied
  · obtain ⟨sockets, eq⟩ := shutDown_eq _ (h.emptied name)
    rw [eq]
    exact emptied
  · exact emptied

theorem unasked_interruptFromOutside (name : String) (h : Host) :
    Unasked h (h.interruptFromOutside name) :=
  have struck := unasked_interrupt name h
  ⟨struck.clockEnd?, struck.requests, struck.flag⟩

theorem unasked_ring (a : Alarm) (h : Host) : Unasked h (h.ring a) := by
  have struck := unasked_interruptFromOutside a.token
    { h with alarms := h.alarms.erase a, clock := max h.clock a.due }
  exact ⟨struck.clockEnd?, struck.requests, struck.flag⟩

theorem unasked_of_run {h h' : Host} (run : Relation.ReflTransGen Unasked h h') : Unasked h h' := by
  induction run with
  | refl => exact .refl h
  | tail _ step ih => exact ih.trans step

theorem unasked_strike (command : Nat) (point : Point) (h : Host) :
    Unasked h (h.strike command point) := by
  refine unasked_of_run <| strike_of_suffers (fun _ _ _ => ⟨rfl, rfl, id⟩) (fun s h => ?_)
    command point h
  unfold suffer
  split
  · exact ⟨rfl, rfl, id⟩
  · exact unasked_interrupt s.token h

/-- No user reacts while the system tries to connect. -/
theorem unasked_elapse (duration : Nat) (h : Host) : Unasked h (h.elapse duration) :=
  unasked_of_run <| elapse_within_of_rings (fun a h => .single (unasked_ring a h))
    (fun _ _ => ⟨rfl, rfl, id⟩) duration h

theorem unasked_start (argv : List String) (mode : Mode) (h : Host) :
    Unasked h (h.start argv mode).2 := by
  obtain ⟨commands, children, childCount, stdout, e, -, -⟩ := start_eq argv mode h
  rw [e]
  exact ⟨rfl, rfl, id⟩

/-- The second request stops the taking down; a later one ends the program at once. -/
theorem request_obeyed {h : Host} (obeyed : h.Obeyed) :
    match h.request with
    | .ok h' => h'.Obeyed
    | .error _ => h.interrupted teardownToken = true := by
  unfold request escalate
  by_cases first : h.requests + 1 ≤ 1
  · simp only [first, if_true]
    refine ⟨(unasked_interruptFromOutside workToken _).clockEnd?.trans obeyed.endless,
      fun twice => ?_⟩
    rw [(unasked_interruptFromOutside workToken _).requests] at twice
    have twice : 2 ≤ h.requests + 1 := twice
    omega
  · by_cases second : h.requests + 1 = 2
    · simp only [second, Nat.reduceLeDiff, if_false, if_true]
      exact ⟨(unasked_interruptFromOutside teardownToken _).clockEnd?.trans obeyed.endless,
        fun _ => interrupted_interrupt teardownToken _⟩
    · simp only [first, second, if_false]
      exact obeyed.twice (by omega)

theorem wake_obeyed {deadline? : Option Nat} {h h' : Host} (obeyed : h.Obeyed)
    (e : h.wake? deadline? = some (.ok h')) : h'.Obeyed := by
  unfold wake? at e
  split at e
  · next a _ =>
    obtain rfl := Except.ok.inj (Option.some.inj e)
    exact (unasked_ring a h).obeyed obeyed
  · split at e
    · split at e
      · have asked := request_obeyed obeyed
        rwa [Option.some.inj e] at asked
      · simp at e
    · simp at e

/-- Nothing ends the program at once but a request that comes after the taking down was stopped. -/
theorem wake_ends {deadline? : Option Nat} {h : Host} {halt : Halt} (obeyed : h.Obeyed)
    (e : h.wake? deadline? = some (.error halt)) : h.interrupted teardownToken = true := by
  unfold wake? at e
  split at e
  · simp at e
  · split at e
    · split at e
      · have asked := request_obeyed obeyed
        rwa [Option.some.inj e] at asked
      · simp at e
    · simp at e

end Host

namespace Act
variable {α β : Type}

/-- What can come of an activity as long as nothing stops the taking down: it returns, or it is
blocked for ever. -/
def Patiently : EStateM.Result Halt Host α → Prop
  | .ok _ h => h.Obeyed
  | .error halt h => halt = .forever ∨ h.interrupted teardownToken = true

/-- An activity that the program is not ended in the middle of. -/
def Patient (m : Act α) : Prop := ∀ h : Host, h.Obeyed → Patiently (m h)

variable {m : Act α} {f : α → Act β}

theorem patient_pure (a : α) : Patient (pure a : Act α) := fun _ obeyed => obeyed

theorem patient_bind (first : Patient m) (rest : ∀ a, Patient (f a)) : Patient (m >>= f) := by
  intro h obeyed
  have came := first h obeyed
  rw [bind_apply]
  cases e : m h with
  | ok a h₁ =>
    rw [e] at came
    exact rest a h₁ came
  | error halt h₁ =>
    rw [e] at came
    exact came

theorem patient_map (g : α → β) (first : Patient m) : Patient (g <$> m) :=
  patient_bind first fun a => patient_pure (g a)

theorem patient_get : Patient (get : Act Host) := fun _ obeyed => obeyed

theorem patient_isInterrupted (token : String) : Patient (isInterrupted token) :=
  fun _ obeyed => obeyed

theorem patient_modify {g : Host → Host} (unasked : ∀ h, Unasked h (g h)) :
    Patient (modify g : Act Unit) :=
  fun h obeyed => (unasked h).obeyed obeyed

theorem patient_modifyGet {g : Host → α × Host} (unasked : ∀ h, Unasked h (g h).2) :
    Patient (modifyGet g : Act α) :=
  fun h obeyed => (unasked h).obeyed obeyed

theorem patient_notes (notes : Notes m) : Patient m := by
  intro h obeyed
  obtain ⟨a, events, e⟩ := notes h
  rw [e]
  exact ⟨obeyed.endless, obeyed.twice⟩

theorem patient_note (severity : Severity) (text : String) : Patient (note severity text) :=
  patient_notes (notes_note severity text)

/-- Patience is passed on. -/
theorem compositional_patient : Compositional fun m => Patient m where
  pure := patient_pure
  bind := patient_bind
  isInterrupted := patient_isInterrupted
  note := patient_note
  noteAll events := patient_notes (notes_noteAll events)

end Act

section blocking

open Act

/-- Every turn of the wait keeps requests obeyed. -/
theorem patient_blockUntil (ready : Host → Bool) : Patient (blockUntil ready) := by
  intro h obeyed
  have run := blocked_blockUntil ready h
  generalize blockUntil ready h = result at run ⊢
  induction run with
  | ready => exact obeyed
  | forever => exact .inl rfl
  | exit _ w => exact .inr (wake_ends obeyed w)
  | woken _ w _ ih => exact ih (wake_obeyed obeyed w)

theorem patient_sleep (token : String) (duration : Nat) : Patient (sleep token duration) := by
  intro h obeyed
  have shown : h.shows (h.clock + duration) = true := by simp [shows, obeyed.endless]
  have run := dozed_sleep shown token
  have obeyed : (h.undertake (.nap duration)).Obeyed := ⟨obeyed.endless, obeyed.twice⟩
  generalize sleep token duration h = result at run ⊢
  generalize h.undertake (.nap duration) = h at obeyed run
  induction run with
  | interrupted => exact obeyed
  | elapsed => exact ⟨obeyed.endless, obeyed.twice⟩
  | exit w => exact .inr (wake_ends obeyed w)
  | woken w _ ih => exact ih (wake_obeyed obeyed w)

end blocking

section commands

open Act

variable {α β : Type} {token : String}

theorem patient_arm (r : Resource) : Patient (arm token r) := by
  intro h obeyed
  cases e : h.interrupted token with
  | true =>
    rw [arm_interrupted e]
    exact obeyed
  | false =>
    obtain ⟨events, eq⟩ := arm_idle (r := r) e
    rw [eq]
    exact (unasked_updateToken token (Token.interrupted_arm _ _)).obeyed
      (h := { h with events := events }) ⟨obeyed.endless, obeyed.twice⟩

theorem patient_disarm : Patient (disarm token) :=
  patient_modify fun _ => unasked_updateToken token (Token.interrupted_disarm _)

theorem patient_callChild (child : Nat) (call : Call) : Patient (callChild child call) :=
  patient_modify fun _ => ⟨rfl, rfl, id⟩

theorem patient_kill (child : Nat) : Patient (kill child) :=
  patient_modifyGet fun _ => ⟨rfl, rfl, id⟩

theorem patient_reach (child : Nat) (point : Point) : Patient (reach child point) := by
  refine patient_modify fun h => ?_
  split
  · exact unasked_strike _ point h
  · exact Unasked.refl h

theorem patient_wait (child : Nat) (reap : Bool) : Patient (wait child reap) := by
  have ended : Patient (do
      awaitEnd child
      return ((← get).children child).outcome?.getD .unknown) :=
    patient_bind (patient_blockUntil _) fun _ => patient_map _ patient_get
  refine patient_bind (patient_callChild child _) fun _ =>
    patient_bind (patient_reach child .wait) fun _ => ?_
  cases reap with
  | false => exact ended
  | true => exact patient_bind (patient_reach child .reap) fun _ => ended

theorem patient_abandon (child : Nat) : Patient (abandon child) := by
  have reaped : Patient (do let _ ← wait child true : Act Unit) :=
    patient_bind (patient_wait child true) fun _ => patient_pure _
  refine patient_bind (patient_kill child) fun fault => ?_
  cases fault with
  | none => exact reaped
  | some cause =>
    exact patient_bind patient_get fun h => patient_bind (patient_note _ _) fun _ => reaped

theorem patient_awaitEnding (child : Nat) (ending : Ending) :
    Patient (awaitEnding child ending) :=
  compositional_patient.awaitEnding ending (patient_blockUntil _) (patient_blockUntil _)

theorem patient_readAll (q : Query) (child : Nat) (output : Output) :
    Patient (readAll q child output) :=
  compositional_patient.readAll (compositional_patient.readAnswer
    (compositional_patient.readOutput (patient_callChild child _) (patient_reach child _)
      (patient_awaitEnding child _))
    (compositional_patient.drainOutput (patient_callChild child _) (patient_reach child _)
      (patient_awaitEnding child _))) (patient_kill child)

theorem patient_supervise {child : Nat} {meanwhile : Act β}
    {finish : Outcome → β → Act (Except BridgeError α)} (first : Patient meanwhile)
    (last : ∀ outcome result, Patient (finish outcome result)) :
    Patient (Bridge.supervise token child meanwhile finish) :=
  compositional_patient.supervise (patient_arm _) (patient_abandon child) first
    (compositional_patient.conclude (patient_wait child) patient_disarm) last

theorem patient_issue {b : Bridge} {arguments : List String} {mode : Mode}
    {proceed : Except SpawnError (Nat × Output) → Act (Except BridgeError α)}
    (rest : ∀ started, Patient (proceed started)) :
    Patient (b.issue token arguments mode proceed) := by
  have spawned : Patient (spawn (b.argv arguments) mode) :=
    patient_bind patient_get fun _ =>
      patient_bind (patient_modifyGet (unasked_start _ mode)) fun _ =>
        patient_bind (patient_modify (unasked_strike _ .spawn)) fun _ => patient_pure _
  refine patient_bind (patient_isInterrupted token) fun raised => ?_
  split
  · exact patient_pure _
  · exact patient_bind (patient_note _ _) fun _ => patient_bind spawned rest

theorem patient_act (b : Bridge) (a : Action) : Patient (b.act token a) := by
  refine patient_issue fun started => ?_
  cases started with
  | error cause => exact compositional_patient.map _ (compositional_patient.reportUnstarted _ _ _)
  | ok started =>
    exact patient_supervise (patient_pure ()) fun outcome _ => compositional_patient.judge _ _

theorem patient_ask (b : Bridge) (q : Query) : Patient (b.ask token q) := by
  refine patient_issue fun started => ?_
  cases started with
  | error cause => exact compositional_patient.map _ (compositional_patient.reportUnstarted _ _ _)
  | ok started =>
    exact patient_supervise (patient_readAll q _ _) fun outcome result =>
      compositional_patient.answer _ _ _

theorem patient_choose (b : Bridge) (token : String) (selector : Selector) :
    Patient (b.choose token selector) :=
  compositional_patient.choose (compositional_patient.devices (patient_ask b .devices))

end commands

section sockets

open Act

variable {α : Type} {token : String}

theorem patient_answer : Patient (modifyGet Host.answer : Act (Option Fault)) :=
  patient_modifyGet fun _ => ⟨rfl, rfl, id⟩

theorem patient_addSocket : Patient (modifyGet (Host.addSocket .unconnected) : Act Nat) :=
  patient_modifyGet fun _ => ⟨rfl, rfl, id⟩

theorem patient_armed {socket : Nat} {operation : String} {endpoint : Endpoint}
    {call : Act (Except Fault α)} (called : Patient call) :
    Patient (armed token socket operation endpoint call) :=
  compositional_patient.armed patient_answer (patient_arm _) patient_disarm called

theorem patient_listen (port : Nat) : Patient (Net.listen token port) :=
  compositional_patient.listen patient_answer patient_addSocket fun socket =>
    patient_armed <| compositional_patient.claimPort
      (patient_modifyGet fun h => unasked_of_sockets (bindTo_eq socket port h))
      (patient_modify fun h => unasked_strike _ .listen h)

theorem patient_accept (listener : Nat) : Patient (Net.accept token listener) :=
  compositional_patient.accept patient_get fun _ => patient_armed <|
    patient_bind (patient_blockUntil _) fun _ =>
      patient_modifyGet (unasked_takeWaiting listener)

theorem patient_dial (socket port : Nat) : Patient (Net.dial socket port) :=
  compositional_patient.dial (patient_modify fun _ => ⟨rfl, rfl, id⟩)
    (patient_modify (unasked_elapse Net.connectTime)) patient_get
    fun peer => patient_modify (unasked_meet socket peer)

theorem patient_netConnect (port : Nat) : Patient (Net.connect token port) :=
  compositional_patient.toSequential.connect patient_answer patient_addSocket fun socket =>
    patient_armed (patient_dial socket port)

theorem patient_receive (socket max : Nat) : Patient (Net.receive token socket max) :=
  compositional_patient.receive <| patient_armed <|
    patient_bind (patient_blockUntil _) fun _ =>
      patient_modifyGet fun h => unasked_of_sockets (readFrom_eq socket max h)

theorem patient_netClose (listener : Nat) : Patient (Net.close listener) :=
  patient_bind patient_get fun _ => patient_bind (patient_note _ _) fun _ =>
    patient_modify fun h => unasked_of_sockets (closeSocket_eq listener h)

end sockets

section tunnels

open Act

variable {token : String} (b : Bridge) (serial : String) (t : Tunnel)

theorem patient_reachLatest (point : Point) : Patient (reachLatest point) := by
  refine patient_modify fun h => ?_
  split
  · exact Unasked.refl h
  · exact unasked_strike _ point h

theorem patient_establish (token : String) (range : PortRange) (forceForward : Bool) :
    Patient (t.establish b token serial range forceForward) :=
  compositional_patient.establish patient_reachLatest t range forceForward
    (fun a _ _ => patient_act b a) patient_listen

theorem patient_awaitConnection (settings : Config.TunnelSettings) (direction : Direction) :
    Patient (CommandLine.awaitConnection settings t direction) :=
  compositional_patient.awaitConnection direction patient_accept patient_netConnect
    (patient_receive · 1) (patient_sleep workToken)

theorem patient_close : Patient (t.close b token serial) :=
  compositional_patient.close patient_reachLatest t (fun a _ _ => patient_act b a) patient_netClose

end tunnels
end DebugBridge
