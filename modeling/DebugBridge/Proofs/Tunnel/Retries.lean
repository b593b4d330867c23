import DebugBridge.Proofs.Host.SocketCalls
import DebugBridge.Tunnel.Connection

/-!
# Attempts to connect through a tunnel

A tunnel in forward direction is connected through by attempts with a pause between two of them. An
attempt and a pause are each one thing that the program undertakes, except that an attempt that the
system grants no socket ends before anything is undertaken; whatever else happens meanwhile only
raises flags. As long as the token is not interrupted the whole course is run, and the last attempt
decides; after an interrupt no attempt is made any more.
-/

namespace DebugBridge

open Host Cancel

/-! ### What the attempts depend on -/

def TunnelError.refused (port : Nat) (cause : Fault) : TunnelError :=
  .net (.io "connect to" (.loopback port) cause)

namespace Host

/-- What is to come of the next attempts to connect: the answers to their requests and the number
of the next socket. -/
structure Outlook where
  supply : List (Option Fault)
  socket : Nat

def outlook (h : Host) : Outlook := ⟨h.supply, h.socketCount⟩

namespace Outlook

def refusal? (o : Outlook) : Option (String × Fault) := (ask Net.connectRequests o.supply).1

/-- What is to come once the next attempt is over. -/
def next (o : Outlook) : Outlook where
  supply := (ask Net.connectRequests o.supply).2
  socket := match o.supply.headD none with
    | some _ => o.socket
    | none => o.socket + 1

/-- What the next attempt undertakes. -/
def deeds (port : Nat) (o : Outlook) : List Deed :=
  if o.refusal?.isNone then [.dial port] else []

/-- How the next attempt fails, unless it is interrupted. -/
def error (port : Nat) (refusal : Nat → Fault) (o : Outlook) : TunnelError :=
  match o.refusal? with
  | some (operation, cause) => .net (.io operation (.loopback port) cause)
  | none => .refused port (refusal o.socket)

end Outlook

theorem outlook_opened (h : Host) : (h.opened Net.connectRequests).outlook = h.outlook.next := by
  unfold opened Outlook.next outlook
  cases h.supply.headD none <;> rfl

def details (h : Host) : List Event := h.events.filter (·.severity = .debug)

theorem details_note (text : String) (h : Host) :
    (h.note .debug text).details = ⟨.debug, text⟩ :: h.details := rfl

theorem details_armedWith (token : String) (r : Resource) (h : Host) :
    (h.armedWith token r).details = h.details := by
  have warnings : (h.rearming token).filter (·.severity = .debug) = [] := by
    unfold rearming
    split <;> rfl
  change (h.rearming token ++ h.events).filter (·.severity = .debug) = _
  rw [List.filter_append, warnings]
  rfl

/-! ### What happens meanwhile -/

/-- What happened between the two hosts was nothing that the program undertook. -/
structure Meanwhile (h h' : Host) : Prop where
  efforts : h'.efforts = h.efforts
  outlook : h'.outlook = h.outlook
  reception : h'.reception = h.reception
  events : h'.events = h.events
  flags : ∀ name, h.interrupted name = true → h'.interrupted name = true

theorem Meanwhile.details {h h' : Host} (meanwhile : Meanwhile h h') : h'.details = h.details := by
  rw [Host.details, meanwhile.events]
  rfl

theorem Meanwhile.refl (h : Host) : Meanwhile h h := ⟨rfl, rfl, rfl, rfl, fun _ raised => raised⟩

theorem Meanwhile.trans {h₁ h₂ h₃ : Host} (a : Meanwhile h₁ h₂) (b : Meanwhile h₂ h₃) :
    Meanwhile h₁ h₃ where
  efforts := b.efforts.trans a.efforts
  outlook := b.outlook.trans a.outlook
  reception := b.reception.trans a.reception
  events := b.events.trans a.events
  flags name raised := b.flags name (a.flags name raised)

theorem meanwhile_of_run {h h' : Host} (run : Relation.ReflTransGen Meanwhile h h') :
    Meanwhile h h' := by
  induction run with
  | refl => exact .refl h
  | tail _ step ih => exact ih.trans step

theorem meanwhile_interruptFromOutside (name : String) (h : Host) :
    Meanwhile h (h.interruptFromOutside name) := by
  have kept : (h.interrupt name).efforts = h.efforts ∧ (h.interrupt name).outlook = h.outlook ∧
      (h.interrupt name).reception = h.reception := by
    obtain ⟨events, e⟩ := interrupt_eq name h
    rw [e]
    have emptied : (h.emptied name).efforts = h.efforts ∧ (h.emptied name).outlook = h.outlook ∧
        (h.emptied name).reception = h.reception := by
      rw [emptied_eq]
      exact ⟨rfl, rfl, rfl⟩
    unfold cut
    split
    · exact emptied
    · obtain ⟨sockets, shut⟩ := shutDown_eq _ (h.emptied name)
      rw [shut]
      exact emptied
    · exact emptied
  exact ⟨kept.1, kept.2.1, kept.2.2, rfl, (quiet_interrupt name h).flags⟩

theorem meanwhile_ring (a : Alarm) (h : Host) : Meanwhile h (h.ring a) := by
  have struck := meanwhile_interruptFromOutside a.token
    { h with alarms := h.alarms.erase a, clock := max h.clock a.due }
  exact ⟨struck.efforts, struck.outlook, struck.reception, struck.events, struck.flags⟩

theorem meanwhile_pass (h : Host) (clock : Nat) : Meanwhile h { h with clock := clock } :=
  ⟨rfl, rfl, rfl, rfl, fun _ raised => raised⟩

theorem meanwhile_elapse (duration : Nat) (h : Host) : Meanwhile h (h.elapse duration) :=
  meanwhile_of_run <| elapse_within_of_rings (fun a h => .single (meanwhile_ring a h))
    meanwhile_pass duration h

theorem meanwhile_wake {deadline? : Option Nat} {h h' : Host}
    (woken : h.wake? deadline? = some (.ok h')) : Meanwhile h h' := by
  obtain ⟨name, alarms, clock, cues, requests, rfl⟩ := wake_eq woken
  have struck := meanwhile_interruptFromOutside name
    { h with alarms := alarms, clock := clock, cues := cues, requests := requests }
  exact ⟨struck.efforts, struck.outlook, struck.reception, struck.events, struck.flags⟩

/-- The ways in which a sleep ends. -/
inductive Slept (token : String) (duration : Nat) (h : Host) :
    EStateM.Result Halt Host Bool → Prop where
  | elapsed {h' : Host} : Meanwhile h h' → h'.interrupted token = false →
      Slept token duration h (.ok true h')
  | woken {h' : Host} : Meanwhile h h' → h'.interrupted token = true →
      Slept token duration h (.ok false h')
  /-- The third request to stop ended the program. -/
  | ended {h' : Host} : Meanwhile h h' → 2 ≤ h'.requests →
      Slept token duration h (.error (.exit 130) h')
  /-- The clock cannot show the end of the sleep. -/
  | overflowed : h.shows (h.clock + duration) = false →
      Slept token duration h (.error .panicked h)

/-- A sleep is one thing that is undertaken, and says whether an interrupt ended it. -/
theorem slept (token : String) (duration : Nat) (h : Host) :
    Slept token duration (h.undertake (.nap duration)) (sleep token duration h) := by
  cases shown : h.shows (h.clock + duration) with
  | false =>
    rw [sleep_panicked shown]
    exact .overflowed shown
  | true =>
    have run := dozed_sleep shown token
    generalize sleep token duration h = result at run ⊢
    generalize h.undertake (.nap duration) = begun at run ⊢
    -- The host in which the sleep began stays, while the sleep goes on from another one.
    suffices further : ∀ h₁, Meanwhile begun h₁ → Dozed token (h.clock + duration) h₁ result →
        Slept token duration begun result from further begun (.refl begun) run
    clear run
    intro h₁ before run
    induction run with
    | interrupted e => exact .woken before e
    | elapsed e => exact .elapsed (before.trans (meanwhile_pass _ _)) e
    | exit w =>
      obtain ⟨rfl, requests⟩ := wake_exit w
      exact .ended before requests
    | woken w _ ih => exact ih (before.trans (meanwhile_wake w))

/-! ### One attempt -/

/-- One attempt to connect was made, and undertook what it could through a token that was not
interrupted. -/
structure Tried (token : String) (port : Nat) (h h' : Host) : Prop where
  efforts : ∃ made : List Effort, made.map (·.deed) = h.outlook.deeds port ∧
    (∀ e ∈ made, (e.tokens token).interrupted = false) ∧ h'.efforts = made.reverse ++ h.efforts
  outlook : h'.outlook = h.outlook.next
  reception : h'.reception = h.reception
  details : h'.details = h.details

end Host

section attempts
variable {token : String} {h : Host} {refusal : Nat → Fault}

theorem dial_apply (unreachable : ∀ socket, h.reception socket = .error (refusal socket))
    (socket port : Nat) :
    Net.dial socket port h = .ok (.error (refusal socket))
      ((h.undertake (.dial port)).elapse Net.connectTime) := by
  have same : ((h.undertake (.dial port)).elapse Net.connectTime).reception = h.reception :=
    (meanwhile_elapse Net.connectTime (h.undertake (.dial port))).reception
  simp only [Net.dial, Act.bind_apply, Act.modify_apply, Act.get_apply, same, unreachable,
    Act.pure_apply]

/-- The requests of a connection, as they are answered. -/
theorem granted_connect (port : Nat) (h : Host) :
    h.granted Net.connectRequests (.loopback port) = match h.outlook.refusal? with
      | none => .ok ()
      | some (operation, cause) => .error (.io operation (.loopback port) cause) := rfl

/-- Through an interrupted token the system is not even asked to connect. -/
theorem greet_interrupted (raised : h.interrupted token = true) (port : Nat)
    (refusal : Nat → Fault) :
    Tunnel.greet token port h = .ok (.error (if h.outlook.refusal?.isNone then .interrupted
      else h.outlook.error port refusal)) (h.opened Net.connectRequests) := by
  have raised₁ : (h.opened Net.connectRequests).interrupted token = true := by
    rw [interrupted, tokens_opened]
    exact raised
  unfold Tunnel.greet
  rw [Act.bind_apply, Net.connect_apply, granted_connect, Outlook.error]
  cases h.outlook.refusal? with
  | some refused => rfl
  | none =>
    dsimp only
    rw [runArmed_refused raised₁]
    rfl

/-- There is no greeting without a connection. -/
theorem greet_idle (unreachable : ∀ socket, h.reception socket = .error (refusal socket))
    (idle : h.interrupted token = false) (port : Nat) :
    ∃ h', Tried token port h h' ∧ Tunnel.greet token port h =
      .ok (.error (if h'.interrupted token then .interrupted
        else h.outlook.error port refusal)) h' := by
  have idle₁ : (h.opened Net.connectRequests).interrupted token = false := by
    rw [interrupted, tokens_opened]
    exact idle
  have opened : (h.opened Net.connectRequests).efforts = h.efforts ∧
      (h.opened Net.connectRequests).reception = h.reception ∧
      (h.opened Net.connectRequests).details = h.details := by
    unfold Host.opened
    split <;> exact ⟨rfl, rfl, rfl⟩
  unfold Tunnel.greet
  rw [Act.bind_apply, Net.connect_apply, granted_connect, Outlook.error]
  cases refused : h.outlook.refusal? with
  | some refusal =>
    refine ⟨h.opened Net.connectRequests,
      ⟨⟨[], ?_, by simp, opened.1⟩, outlook_opened h, opened.2.1, opened.2.2⟩, ?_⟩
    · simp [Outlook.deeds, refused]
    · rw [idle₁]
      rfl
  | none =>
    let armed := (h.opened Net.connectRequests).armedWith token (.socket h.socketCount)
    let dialled := (armed.undertake (.dial port)).elapse Net.connectTime
    have meanwhile := meanwhile_elapse Net.connectTime (armed.undertake (.dial port))
    have free : armed.interrupted token = false :=
      (interrupted_updateToken (Token.interrupted_arm _ _)).trans idle₁
    have closed (socket : Nat) : armed.reception socket = .error (refusal socket) :=
      (congrFun opened.2.1 socket).trans (unreachable socket)
    have dialling : Net.dial h.socketCount port armed =
        .ok (.error (refusal h.socketCount)) dialled := dial_apply closed _ port
    refine ⟨dialled.updateToken token Token.disarm, ⟨⟨[⟨.dial port, armed.tokens⟩], ?_, ?_, ?_⟩,
      ?_, ?_, ?_⟩, ?_⟩
    · simp [Outlook.deeds, refused]
    · exact List.forall_mem_singleton.mpr free
    · exact meanwhile.efforts.trans (congrArg _ opened.1)
    · exact meanwhile.outlook.trans (outlook_opened h)
    · exact meanwhile.reception.trans opened.2.1
    · have silent : armed.details = h.details := (details_armedWith token _ _).trans opened.2.2
      exact meanwhile.details.trans silent
    · have kept : (dialled.updateToken token Token.disarm).interrupted token =
          dialled.interrupted token := interrupted_updateToken (Token.interrupted_disarm _)
      dsimp only
      rw [runArmed_apply h.socketCount "connect to" (.loopback port) _ idle₁, dialling, kept]
      dsimp only
      cases dialled.interrupted token <;> rfl

end attempts

/-! ### All attempts -/

namespace Tunnel

/-- What is to come of so many attempts, one after the other. -/
def turns (n : Nat) (o : Outlook) : List Outlook := List.iterate Outlook.next o n

/-- What is undertaken in so many attempts: what each undertakes, with a pause between two of them
and none after the last. -/
def course (port delay n : Nat) (o : Outlook) : List Deed :=
  [Deed.nap delay].intercalate ((turns n o).map (·.deeds port))

/-- What is reported of an attempt that failed, unless it is the last. -/
def failure (total attempt : Nat) (e : TunnelError) : String :=
  s!"connection attempt {attempt}/{total} failed: {e.message}"

/-- What is reported of so many attempts that failed, the first one first. -/
def reports (port total attempt n : Nat) (refusal : Nat → Fault) (o : Outlook) : List Event :=
  ((turns n o).zipIdx attempt).map fun (o, attempt) =>
    ⟨.debug, failure total attempt (o.error port refusal)⟩

theorem course_one (port delay : Nat) (o : Outlook) : course port delay 1 o = o.deeds port := by
  simp [course, turns, List.iterate, List.intercalate]

theorem course_next (port delay n : Nat) (o : Outlook) :
    course port delay (n + 2) o =
      o.deeds port ++ .nap delay :: course port delay (n + 1) o.next := by
  simp [course, turns, List.iterate, List.intercalate]

/-- Where nothing is refused, every attempt asks the system to connect. -/
theorem course_ample (port delay n : Nat) {o : Outlook}
    (ample : ∀ answer ∈ o.supply, answer = none) :
    course port delay n o = (List.replicate n (.dial port)).intersperse (.nap delay) := by
  induction n generalizing o with
  | zero => rfl
  | succ n ih =>
    obtain ⟨granted, ample'⟩ := ask_ample Net.connectRequests ample
    have dials : o.deeds port = [.dial port] := by
      simp [Outlook.deeds, Outlook.refusal?, granted]
    cases n with
    | zero => rw [course_one, dials, List.replicate_one, List.intersperse_singleton]
    | succ n =>
      rw [course_next, dials, ih (o := o.next) ample']
      rfl

theorem reports_succ (port total attempt n : Nat) (refusal : Nat → Fault) (o : Outlook) :
    reports port total attempt (n + 1) refusal o =
      ⟨.debug, failure total attempt (o.error port refusal)⟩ ::
        reports port total (attempt + 1) n refusal o.next := rfl

theorem deeds_prefix_course (port delay n : Nat) (o : Outlook) :
    o.deeds port <+: course port delay (n + 1) o := by
  cases n with
  | zero => exact course_one port delay o ▸ List.prefix_refl _
  | succ n => exact course_next port delay n o ▸ List.prefix_append _ _

/-- The ways in which attempts to connect end, given what was undertaken, the first first: `n`
attempts out of a total are left, and `attempt` is the number of the next. -/
inductive Retried (token : String) (port delay total attempt n : Nat) (refusal : Nat → Fault)
    (h : Host) (begun : List Effort) :
    EStateM.Result Halt Host (Except TunnelError Nat) → Prop where
  /-- Nobody interrupted: all attempts were made, and the last one's error counts. -/
  | failed {h' : Host} {o : Outlook} : h'.efforts = begun.reverse ++ h.efforts →
      begun.map (·.deed) = course port delay n h.outlook → h'.interrupted token = false →
      (turns n h.outlook).getLast? = some o →
      h'.details =
        (reports port total attempt (n - 1) refusal h.outlook).reverse ++ h.details →
      Retried token port delay total attempt n refusal h begun
        (.ok (.error (o.error port refusal)) h')
  | interrupted {h' : Host} : h'.efforts = begun.reverse ++ h.efforts →
      begun.map (·.deed) <+: course port delay n h.outlook → h'.interrupted token = true →
      Retried token port delay total attempt n refusal h begun (.ok (.error .interrupted) h')
  /-- The third request to stop ended the program during a pause. -/
  | ended {h' : Host} : h'.efforts = begun.reverse ++ h.efforts →
      begun.map (·.deed) <+: course port delay n h.outlook →
      (begun.map (·.deed)).getLast? = some (.nap delay) → 2 ≤ h'.requests →
      Retried token port delay total attempt n refusal h begun (.error (.exit 130) h')
  /-- The clock cannot show the end of a pause. -/
  | overflowed {h' : Host} : h'.efforts = begun.reverse ++ h.efforts →
      begun.map (·.deed) <+: course port delay n h.outlook →
      (begun.map (·.deed)).getLast? = some (.nap delay) → h'.shows (h'.clock + delay) = false →
      Retried token port delay total attempt n refusal h begun (.error .panicked h')

/-- Whatever was undertaken, the token was not interrupted then; and the attempts to connect ended in
one of the ways. -/
def Attempted (token : String) (port delay total attempt n : Nat) (refusal : Nat → Fault)
    (h : Host) (result : EStateM.Result Halt Host (Except TunnelError Nat)) : Prop :=
  ∃ begun : List Effort, (∀ e ∈ begun, (e.tokens token).interrupted = false) ∧
    Retried token port delay total attempt n refusal h begun result

/-- The ways in which attempts through an interrupted token end: the system is never asked to
connect. -/
inductive Declined (port delay n : Nat) (refusal : Nat → Fault) (h : Host) :
    EStateM.Result Halt Host (Except TunnelError Nat) → Prop where
  | noticed {h' : Host} : h.outlook.refusal? = none → h'.efforts = h.efforts →
      Declined port delay n refusal h (.ok (.error .interrupted) h')
  /-- The only attempt is refused its socket before the token is looked at. -/
  | denied {h' : Host} : h.outlook.refusal? ≠ none → n = 1 → h'.efforts = h.efforts →
      Declined port delay n refusal h (.ok (.error (h.outlook.error port refusal)) h')
  /-- The first attempt is refused its socket, and the pause that follows is over at once. -/
  | dozed {h' : Host} : h.outlook.refusal? ≠ none → 1 < n →
      h'.efforts.map (·.deed) = .nap delay :: h.efforts.map (·.deed) →
      Declined port delay n refusal h (.ok (.error .interrupted) h')
  | overflowed {h' : Host} : h.outlook.refusal? ≠ none → 1 < n →
      h'.efforts.map (·.deed) = .nap delay :: h.efforts.map (·.deed) →
      h'.shows (h'.clock + delay) = false →
      Declined port delay n refusal h (.error .panicked h')

section turns
variable {token : String} {port delay total attempt n : Nat} {refusal : Nat → Fault}
  {h h₁ h₂ : Host} {begun : List Effort}
  {result : EStateM.Result Halt Host (Except TunnelError Nat)}

/-- Attempts that follow one that failed and a pause. -/
theorem Retried.next (rest : Retried token port delay total (attempt + 1) (n + 1) refusal h₂ begun
      result) (tried : Tried token port h h₁)
    (meanwhile : Meanwhile
      ((h₁.note .debug (failure total attempt (h.outlook.error port refusal))).undertake
        (.nap delay)) h₂) {made : List Effort} (first : made.map (·.deed) = h.outlook.deeds port)
    (efforts : h₁.efforts = made.reverse ++ h.efforts) :
    Retried token port delay total attempt (n + 2) refusal h
      (made ++ ⟨.nap delay, h₁.tokens⟩ :: begun) result := by
  have outlook : h₂.outlook = h.outlook.next := meanwhile.outlook.trans tried.outlook
  have details : h₂.details =
      ⟨.debug, failure total attempt (h.outlook.error port refusal)⟩ :: h.details := by
    rw [← tried.details, ← details_note]
    exact meanwhile.details
  have undertaken : begun.reverse ++ h₂.efforts =
      (made ++ ⟨.nap delay, h₁.tokens⟩ :: begun).reverse ++ h.efforts := by
    have more : h₂.efforts = ⟨.nap delay, h₁.tokens⟩ :: h₁.efforts := meanwhile.efforts
    rw [more, efforts]
    simp
  have deeds : (made ++ ⟨.nap delay, h₁.tokens⟩ :: begun).map (·.deed) =
      h.outlook.deeds port ++ .nap delay :: begun.map (·.deed) := by
    rw [List.map_append, List.map_cons, first]
  have begins (some : begun.map (·.deed) <+: course port delay (n + 1) h₂.outlook) :
      (made ++ ⟨.nap delay, h₁.tokens⟩ :: begun).map (·.deed) <+:
        course port delay (n + 2) h.outlook := by
    rw [deeds, course_next, ← outlook, List.prefix_append_right_inj, List.prefix_cons_inj]
    exact some
  have ends (last : (begun.map (·.deed)).getLast? = some (.nap delay)) :
      ((made ++ ⟨.nap delay, h₁.tokens⟩ :: begun).map (·.deed)).getLast? = some (.nap delay) := by
    rw [deeds, List.getLast?_append, List.getLast?_cons, last]
    rfl
  cases rest with
  | failed before all idle last written =>
    refine .failed (before.trans undertaken) ?_ idle ?_ ?_
    · rw [deeds, all, course_next, outlook]
    · rw [outlook] at last
      exact (List.getLast?_cons_cons ..).trans last
    · rw [written, outlook, details]
      change _ = (reports port total attempt (n + 1) refusal h.outlook).reverse ++ _
      rw [reports_succ]
      simp
  | interrupted before some raised =>
    exact .interrupted (before.trans undertaken) (begins some) raised
  | ended before some last requests =>
    exact .ended (before.trans undertaken) (begins some) (ends last) requests
  | overflowed before some last hidden =>
    exact .overflowed (before.trans undertaken) (begins some) (ends last) hidden

end turns
section loop
variable {token : String} {port : Nat} {h h₁ : Host} (delay : Nat) (attempts attempt : UInt32)

theorem connectWith_interrupted
    (greeted : greet token port h = .ok (.error .interrupted) h₁) :
    connectWith token port attempts delay attempt h = .ok (.error .interrupted) h₁ := by
  rw [connectWith, Act.bind_apply, greeted]
  rfl

variable {attempts attempt}

theorem connectWith_last {e : TunnelError} (failed : e ≠ .interrupted)
    (greeted : greet token port h = .ok (.error e) h₁) (last : attempts ≤ attempt) :
    connectWith token port attempts delay attempt h = .ok (.error e) h₁ := by
  rw [connectWith, Act.bind_apply, greeted]
  cases e with
  | interrupted => exact absurd rfl failed
  | _ =>
    simp only [last, if_true]
    rfl

theorem connectWith_again {e : TunnelError} (failed : e ≠ .interrupted)
    (greeted : greet token port h = .ok (.error e) h₁) (left : ¬ attempts ≤ attempt) :
    connectWith token port attempts delay attempt h =
      match sleep token delay
        (h₁.note .debug (failure attempts.toNat attempt.toNat e)) with
      | .ok true h₂ => connectWith token port attempts delay (attempt + 1) h₂
      | .ok false h₂ => .ok (.error .interrupted) h₂
      | .error halt h₂ => .error halt h₂ := by
  have turn : connectWith token port attempts delay attempt h = (do
      if ← sleep token delay then connectWith token port attempts delay (attempt + 1)
      else return .error .interrupted : Act (Except TunnelError Nat))
        (h₁.note .debug (failure attempts.toNat attempt.toNat e)) := by
    rw [connectWith, Act.bind_apply, greeted]
    cases e with
    | interrupted => exact absurd rfl failed
    | _ =>
      simp only [left, if_false]
      rfl
  rw [turn, Act.bind_apply]
  cases sleep token delay (h₁.note .debug (failure attempts.toNat attempt.toNat e)) with
  | error halt h₂ => rfl
  | ok awake h₂ => cases awake <;> rfl

end loop

theorem error_ne_interrupted (port : Nat) (refusal : Nat → Fault) (o : Outlook) :
    o.error port refusal ≠ .interrupted := by
  unfold Outlook.error
  split <;> nofun

/-- Attempts to connect through a token that is not interrupted end in one of the ways. -/
theorem connectWith_retried {token : String} {refusal : Nat → Fault} (port delay : Nat)
    {attempts attempt : UInt32} {n : Nat} {h : Host}
    (unreachable : ∀ socket, h.reception socket = .error (refusal socket))
    (idle : h.interrupted token = false) (count : attempts.toNat = attempt.toNat + n) :
    Attempted token port delay attempts.toNat attempt.toNat (n + 1) refusal h
      (connectWith token port attempts delay attempt h) := by
  -- By induction on the attempts that are left after this one.
  induction n generalizing attempt h with
  | zero =>
    obtain ⟨h₁, tried, greeted⟩ := greet_idle unreachable idle port
    obtain ⟨made, first, free, efforts⟩ := tried.efforts
    have once : made.map (·.deed) = course port delay 1 h.outlook := by rw [first, course_one]
    refine ⟨made, free, ?_⟩
    cases raised : h₁.interrupted token with
    | true =>
      rw [raised] at greeted
      rw [connectWith_interrupted delay attempts attempt greeted]
      exact .interrupted efforts (once ▸ List.prefix_refl _) raised
    | false =>
      rw [raised, if_neg Bool.false_ne_true] at greeted
      have last : attempts ≤ attempt := UInt32.le_iff_toNat_le.mpr (by omega)
      rw [connectWith_last delay (error_ne_interrupted _ _ _) greeted last]
      exact .failed efforts once raised rfl tried.details
  | succ n ih =>
    obtain ⟨h₁, tried, greeted⟩ := greet_idle unreachable idle port
    obtain ⟨made, first, free, efforts⟩ := tried.efforts
    cases raised : h₁.interrupted token with
    | true =>
      rw [raised] at greeted
      rw [connectWith_interrupted delay attempts attempt greeted]
      exact ⟨made, free,
        .interrupted efforts (first ▸ deeds_prefix_course port delay (n + 1) h.outlook) raised⟩
    | false =>
      rw [raised, if_neg Bool.false_ne_true] at greeted
      have left : ¬ attempts ≤ attempt := by
        rw [UInt32.le_iff_toNat_le]
        omega
      have next := toNat_next left
      have turn := connectWith_again delay (error_ne_interrupted _ _ _) greeted left
      have nap := slept token delay (h₁.note .debug
        (failure attempts.toNat attempt.toNat (h.outlook.error port refusal)))
      let pause : Effort := ⟨.nap delay, h₁.tokens⟩
      have both : ∀ e ∈ made ++ [pause], (e.tokens token).interrupted = false :=
        List.forall_mem_append.mpr ⟨free, List.forall_mem_singleton.mpr raised⟩
      have begins : (made ++ [pause]).map (·.deed) <+: course port delay (n + 2) h.outlook := by
        rw [course_next, List.map_append, first, List.prefix_append_right_inj]
        exact List.prefix_append [Deed.nap delay] _
      have ends : ((made ++ [pause]).map (·.deed)).getLast? = some (.nap delay) := by
        simp [pause]
      have undertaken : pause :: h₁.efforts = (made ++ [pause]).reverse ++ h.efforts := by
        rw [efforts]
        simp
      rw [turn]
      generalize sleep token delay _ = slept at nap ⊢
      cases nap with
      | @elapsed h₂ meanwhile idle₂ =>
        have fewer : attempts.toNat = (attempt + 1).toNat + n := by omega
        have unreachable₂ (socket : Nat) : h₂.reception socket = .error (refusal socket) := by
          rw [show h₂.reception = h.reception from meanwhile.reception.trans tried.reception]
          exact unreachable socket
        obtain ⟨begun, uninterrupted, rest⟩ := ih unreachable₂ idle₂ fewer
        rw [next] at rest
        refine ⟨made ++ pause :: begun, ?_, rest.next tried meanwhile first efforts⟩
        simp only [List.forall_mem_append, List.forall_mem_cons]
        exact ⟨free, raised, uninterrupted⟩
      | woken meanwhile raised =>
        exact ⟨_, both, .interrupted (meanwhile.efforts.trans undertaken) begins raised⟩
      | ended meanwhile requests =>
        exact ⟨_, both, .ended (meanwhile.efforts.trans undertaken) begins ends requests⟩
      | overflowed hidden =>
        exact ⟨_, both, .overflowed undertaken begins ends hidden⟩

/-- Through an interrupted token the system is not asked to connect, and the first pause is the
last. -/
theorem connectWith_declined {token : String} (port delay : Nat) (refusal : Nat → Fault)
    (attempts : UInt32) {h : Host} (raised : h.interrupted token = true)
    (one : 1 ≤ attempts.toNat) :
    Declined port delay attempts.toNat refusal h (connectWith token port attempts delay 1 h) := by
  have greeted := greet_interrupted raised port refusal
  have opened : (h.opened Net.connectRequests).efforts = h.efforts ∧
      (h.opened Net.connectRequests).interrupted token = true := by
    refine ⟨?_, ?_⟩
    · unfold Host.opened
      split <;> rfl
    · rw [interrupted, tokens_opened]
      exact raised
  cases refused : h.outlook.refusal? with
  | none =>
    rw [refused] at greeted
    rw [connectWith_interrupted delay attempts 1 greeted]
    exact .noticed refused opened.1
  | some cause =>
    have refused : h.outlook.refusal? ≠ none := by simp [refused]
    have greeted : greet token port h = .ok (.error (h.outlook.error port refusal))
        (h.opened Net.connectRequests) := by simpa [refused] using greeted
    by_cases last : attempts ≤ 1
    · rw [connectWith_last delay (error_ne_interrupted _ _ _) greeted last]
      have only : attempts.toNat ≤ 1 := UInt32.le_iff_toNat_le.mp last
      exact .denied refused (by omega) opened.1
    · have more : 1 < attempts.toNat := UInt32.lt_iff_toNat_lt.mp (UInt32.not_le.mp last)
      rw [connectWith_again delay (error_ne_interrupted _ _ _) greeted last]
      generalize noted : (h.opened Net.connectRequests).note .debug _ = h₁
      have efforts : h₁.efforts = h.efforts := noted ▸ opened.1
      have raised₁ : h₁.interrupted token = true := noted ▸ opened.2
      have naps : (h₁.undertake (.nap delay)).efforts.map (·.deed) =
          .nap delay :: h.efforts.map (·.deed) := by rw [← efforts]; rfl
      cases shown : h₁.shows (h₁.clock + delay) with
      | true =>
        rw [sleep_interrupted raised₁ shown]
        exact .dozed refused more naps
      | false =>
        rw [sleep_panicked shown]
        exact .overflowed refused more naps shown

/-- Connecting through a tunnel that is not open in forward direction fails without an attempt.
Where no connection can be made, an interrupted token is noticed before the system is asked for one,
unless not even a socket is granted; and from any other token on attempts are made with one pause
between two of them, at least one attempt and none after an interrupt, as long as the clock can show
the ends of the pauses. Every attempt that is not the last is reported with its number. -/
theorem connect_attempted (t : Tunnel) (token : String) (attempts : UInt32) (delay : Nat)
    {h : Host} {refusal : Nat → Fault}
    (unreachable : ∀ socket, h.reception socket = .error (refusal socket)) :
    (t.direction? ≠ some .forward →
      t.connect token attempts delay h = .ok (.error .notForward) h) ∧
    (t.direction? = some .forward →
      let n := max attempts.toNat 1
      let result := t.connect token attempts delay h
      (h.interrupted token = true → Declined t.localPort delay n refusal h result) ∧
      (h.interrupted token = false →
        Attempted token t.localPort delay n 1 n refusal h result ∧
        ((∀ answer ∈ h.supply, answer = none) → course t.localPort delay n h.outlook =
          (List.replicate n (.dial t.localPort)).intersperse (.nap delay)))) := by
  refine ⟨fun other => ?_, fun forward => ?_⟩
  · rw [Tunnel.connect, if_neg other]
    rfl
  intro n result
  have total : (max attempts 1).toNat = n := UInt32.toNat_max attempts 1
  have connects : result = connectWith token t.localPort (max attempts 1) delay 1 h :=
    congrFun (if_pos forward) h
  rw [connects]
  refine ⟨fun raised => ?_, fun idle => ⟨?_, fun ample => course_ample _ _ _ ample⟩⟩
  · have declined := connectWith_declined t.localPort delay refusal (max attempts 1) raised
      (by omega)
    rwa [total] at declined
  · have count : (max attempts 1).toNat = (1 : UInt32).toNat + (n - 1) := by
      rw [total, UInt32.toNat_one]
      omega
    have retried := connectWith_retried t.localPort delay unreachable idle count
    rw [total, UInt32.toNat_one, show n - 1 + 1 = n by omega] at retried
    exact retried

/-- The second attempt is refused for another reason than the first, and nobody interrupts. -/
def fickle : Host where
  backend _ _ := {}
  reception socket := .error (if socket = 1 then .addressInUse else .networkUnreachable)

/-- The token is interrupted some time after the second attempt. -/
def alarmed : Host := { backend := fun _ _ => {}, alarms := [⟨1500, "work"⟩] }

/-- Two attempts, whose second one counts; and the greatest number of attempts, which an interrupt
ends during the second pause. -/
theorem connect_attempted_twice :
    let t := ({ socket := "adbtun" } : Tunnel).through (.forward 27183)
    (∃ h', t.connect "work" 2 1000 fickle =
      .ok (.error (.refused 27183 .addressInUse)) h' ∧
      h'.efforts.map (·.deed) = [.dial 27183, .nap 1000, .dial 27183]) ∧
    ∃ h', t.connect "work" 4294967295 1000 alarmed = .ok (.error .interrupted) h' ∧
      h'.interrupted "work" = true ∧
      h'.efforts.map (·.deed) = [.nap 1000, .dial 27183, .nap 1000, .dial 27183] := by
  intro t
  constructor
  · obtain ⟨⟨begun, -, retried⟩, -⟩ :=
      ((connect_attempted t "work" 2 1000 (h := fickle) fun _ => rfl).2 rfl).2 rfl
    have returned := Act.of_returned? (h := fickle) (m := t.connect "work" 2 1000)
      (a := .error (.refused 27183 .addressInUse)) (by decide +kernel)
    generalize Act.after _ fickle = h' at returned
    generalize t.connect "work" 2 1000 fickle = result at retried returned
    cases retried with
    | failed efforts all =>
      obtain ⟨-, rfl⟩ := EStateM.Result.ok.inj returned
      refine ⟨_, returned, ?_⟩
      rw [efforts, List.map_append, List.map_reverse, all]
      rfl
    | interrupted => cases returned
    | ended => cases returned
    | overflowed => cases returned
  · obtain ⟨⟨begun, -, retried⟩, -⟩ :=
      ((connect_attempted t "work" 4294967295 1000 (h := alarmed) fun _ => rfl).2 rfl).2 rfl
    have returned := Act.of_returned? (h := alarmed) (m := t.connect "work" 4294967295 1000)
      (a := .error .interrupted) (by decide +kernel)
    have deeds : (Act.after (t.connect "work" 4294967295 1000) alarmed).efforts.map (·.deed) =
        [.nap 1000, .dial 27183, .nap 1000, .dial 27183] := by decide +kernel
    generalize Act.after _ alarmed = h' at returned deeds
    generalize t.connect "work" 4294967295 1000 alarmed = result at retried returned
    cases retried with
    | failed =>
      obtain ⟨same, -⟩ := EStateM.Result.ok.inj returned
      exact absurd (Except.error.inj same) (error_ne_interrupted _ _ _)
    | interrupted _ _ raised =>
      obtain ⟨-, rfl⟩ := EStateM.Result.ok.inj returned
      exact ⟨_, returned, raised, deeds⟩
    | ended => cases returned
    | overflowed => cases returned

/-- No descriptor is free, and every token was interrupted. -/
def destitute : Host where
  backend _ _ := {}
  supply := [some .tooManyFiles]
  tokens _ := { interrupted := true }

/-- The clock ends during the first pause. -/
def ending : Host := { backend := fun _ _ => {}, clockEnd? := some 500 }

/-- The only attempt reports the want of a descriptor although the token was interrupted before; and
no second attempt is made where the clock cannot show the end of the pause. -/
theorem connect_exhausted :
    let t := ({ socket := "adbtun" } : Tunnel).through (.forward 27183)
    (destitute.interrupted "work" = true ∧
      ∃ h', t.connect "work" 1 1000 destitute =
        .ok (.error (.net (.io "create socket for" (.loopback 27183) .tooManyFiles))) h') ∧
    ending.interrupted "work" = false ∧
      ∃ h', t.connect "work" 2 1000 ending = .error .panicked h' ∧
        h'.efforts.map (·.deed) = [.nap 1000, .dial 27183] := by
  intro t
  refine ⟨⟨rfl, _, Act.of_returned? (by decide +kernel)⟩, rfl, ?_⟩
  have panics : (match t.connect "work" 2 1000 ending with
    | .error halt h' => some (halt, h'.efforts.map (·.deed))
    | .ok _ _ => none) = some (.panicked, [.nap 1000, .dial 27183]) := by decide +kernel
  split at panics
  · next halt h' halted =>
    obtain ⟨rfl, deeds⟩ := Prod.mk.inj (Option.some.inj panics)
    exact ⟨h', halted, deeds⟩
  · cases panics

end Tunnel
end DebugBridge
