import DebugBridge.Proofs.Host.Custody
import DebugBridge.Proofs.Host.Listening

/-!
# Socket calls and interrupts

Every call on a socket first asks the system for what it takes to arm the socket. If that is
refused, the refusal is the result. If not, the call fails through an interrupted token before
anything is done on the socket; otherwise what the system reports is judged by the token as it then
is: a failure after an interrupt is the interrupt, an empty read after one as well, and what was
completed stays completed. Either way the token holds nothing of the call afterwards, and an
interrupt never leaves a call blocked.
-/

namespace DebugBridge

open Host Cancel

namespace Net

/-- A call on a socket. -/
inductive Call where
  | listen (port : Nat)
  | accept (listener : Nat)
  | connect (port : Nat)
  | receive (socket max : Nat)
  | send (socket : Nat) (bytes : List UInt8) (times : Nat)
  deriving DecidableEq, Repr

namespace Call

abbrev Value : Call → Type
  | .listen _ | .accept _ | .connect _ => Nat
  | .receive .. => List UInt8
  | .send .. => Unit

def run (token : String) : (c : Call) → Act (Except NetError c.Value)
  | .listen port => Net.listen token port
  | .accept listener => Net.accept token listener
  | .connect port => Net.connect token port
  | .receive socket max => Net.receive token socket max
  | .send socket bytes times => Net.send token socket bytes times

def socket (h : Host) : Call → Nat
  | .listen _ | .connect _ => h.socketCount
  | .accept listener => listener
  | .receive socket _ | .send socket .. => socket

def operation : Call → String
  | .listen _ => "listen on"
  | .accept _ => "accept on"
  | .connect _ => "connect to"
  | .receive .. => "receive from"
  | .send .. => "send to"

/-- What a call asks the system for before its socket is armed. -/
def requests : Call → List String
  | .listen _ => listenRequests
  | .connect _ => connectRequests
  | c => [c.operation]

/-- The host once a call has asked for all that: to listen and to connect takes a new socket. -/
def prepare (h : Host) : Call → Host
  | .listen _ => h.opened listenRequests
  | .connect _ => h.opened connectRequests
  | c => h.supplied c.requests

def endpoint (h : Host) : Call → Endpoint
  | .listen port | .connect port => .loopback port
  | .accept listener => (h.sockets listener).endpoint
  | .receive .. | .send .. => .unspecified

def perform (socket : Nat) : (c : Call) → Act (Except Fault c.Value)
  | .listen port => do return (← claimPort socket port).map fun _ => socket
  | .accept _ => do
    blockUntil (Host.isAcceptable socket)
    modifyGet (Host.takeWaiting socket)
  | .connect port => dial socket port
  | .receive _ max => do
    blockUntil (Host.isReadable socket)
    modifyGet (Host.readFrom socket max)
  | .send _ bytes times => write socket bytes times

/-- Whether a call is done with what the system gave. A read that asked for bytes and got none may
be due to an interrupt. -/
def Completes : (c : Call) → c.Value → Prop
  | .receive _ max, bytes => bytes ≠ [] ∨ max = 0
  | _, _ => True

end Call

/-- How what the system reports is judged, given whether the token is interrupted by then. -/
inductive Judged (c : Call) (h : Host) (raised : Bool) :
    Except Fault c.Value → Except NetError c.Value → Prop where
  | completed {v : c.Value} : c.Completes v → Judged c h raised (.ok v) (.ok v)
  /-- The end of a stream. -/
  | ended {v : c.Value} : raised = false → ¬ c.Completes v → Judged c h raised (.ok v) (.ok v)
  | dried {v : c.Value} : raised = true → ¬ c.Completes v →
      Judged c h raised (.ok v) (.error .interrupted)
  | failed {cause : Fault} : raised = false →
      Judged c h raised (.error cause) (.error (.io c.operation (c.endpoint h) cause))
  | cut {cause : Fault} : raised = true → Judged c h raised (.error cause) (.error .interrupted)

def Call.granted (c : Call) (h : Host) : Except NetError Unit :=
  h.granted c.requests (c.endpoint h)

/-- The ways in which a call runs. -/
inductive Ran (token : String) (c : Call) (h : Host) :
    EStateM.Result Halt Host (Except NetError c.Value) → Prop where
  /-- The system refused a request, and the token was not looked at. -/
  | denied {e : NetError} : c.granted h = .error e → Ran token c h (.ok (.error e) (c.prepare h))
  /-- The token was interrupted before, and nothing was done. -/
  | refused : c.granted h = .ok () → h.interrupted token = true →
      Ran token c h (.ok (.error .interrupted) (c.prepare h))
  | judged {reported : Except Fault c.Value} {result : Except NetError c.Value} {h₁ : Host}
      (events : List Event) : c.granted h = .ok () → h.interrupted token = false →
      c.perform (c.socket h) ((c.prepare h).armedWith token (.socket (c.socket h))) =
        .ok reported h₁ →
      Judged c h (h₁.interrupted token) reported result →
      Ran token c h (.ok result { h₁.updateToken token Token.disarm with events := events })
  /-- The call never returned; if it stayed blocked, nobody interrupted it. -/
  | halted {halt : Halt} {h₁ : Host} : c.granted h = .ok () → h.interrupted token = false →
      c.perform (c.socket h) ((c.prepare h).armedWith token (.socket (c.socket h))) =
        .error halt h₁ →
      (halt = .forever → h₁.interrupted token = false) → Ran token c h (.error halt h₁)

end Net

/-! ### An interrupt wakes -/

namespace Host

/-- What is waited for depends on the sockets and on who will connect to them, and is there once the
socket is shut down. -/
structure WokenBy (socket : Nat) (ready : Host → Bool) : Prop where
  blind : ∀ h h' : Host, h'.sockets = h.sockets → h'.visitors = h.visitors → ready h' = ready h
  shut : ∀ h : Host, ready (h.shutDown socket).2 = true

/-- A stream that is shut down is shut in both directions. -/
theorem stream_shutDown {id : Nat} {s : Stream} {h : Host} (stream : h.sockets id = .stream s) :
    ∃ s', (h.shutDown id).2.sockets id = .stream s' ∧ s'.readShut = true ∧
      s'.writeShut = true := by
  have first : (h.updateStream id Stream.shut).sockets id = .stream s.shut := by
    simp [updateStream, updateSocket, stream]
  have shut : (h.shutDown id).2 =
      (h.updateStream id Stream.shut).updateStream s.peer Stream.shut := by
    simp [shutDown, stream]
  rw [shut]
  obtain same | ⟨s', before, after⟩ :=
    sockets_updateStream s.peer id Stream.shut (h.updateStream id Stream.shut)
  · exact ⟨s.shut, same.trans first, rfl, rfl⟩
  · exact ⟨s'.shut, after, rfl, rfl⟩

theorem sockets_shutDown_unconnected {id : Nat} {h : Host}
    (unconnected : h.sockets id = .unconnected) :
    (h.shutDown id).2.sockets id = .unconnected := by
  simp [shutDown, unconnected]

/-- A listener that is shut down listens no more. -/
theorem sockets_shutDown_listener {id : Nat} {l : Listener} {h : Host}
    (listener : h.sockets id = .listener l) :
    (h.shutDown id).2.sockets id = .listener { l with listening := false } := by
  unfold shutDown
  rw [listener]
  dsimp only
  split
  · simp [updateSocket]
  · next deaf =>
    simp only [Bool.or_eq_true, not_or, Bool.not_eq_true] at deaf
    rw [listener]
    obtain ⟨endpoint, listening, waiting⟩ := l
    obtain rfl : listening = false := deaf.1
    rfl

theorem wokenBy_isAcceptable (listener : Nat) : WokenBy listener (isAcceptable listener) where
  blind h h' same visitors := by simp only [isAcceptable, same, visitors]
  shut h := by
    cases e : h.sockets listener with
    | unconnected => simp [isAcceptable, sockets_shutDown_unconnected e]
    | listener l => simp [isAcceptable, sockets_shutDown_listener e]
    | stream s =>
      obtain ⟨s', after, -⟩ := stream_shutDown e
      simp [isAcceptable, after]

theorem wokenBy_isReadable (socket : Nat) : WokenBy socket (isReadable socket) where
  blind h h' same _ := by simp only [isReadable, same]
  shut h := by
    cases e : h.sockets socket with
    | unconnected => simp [isReadable, sockets_shutDown_unconnected e]
    | listener l => simp [isReadable, sockets_shutDown_listener e]
    | stream s =>
      obtain ⟨s', after, shut, -⟩ := stream_shutDown e
      simp [isReadable, after, Stream.isReadable, shut]

theorem wokenBy_isBroken (socket : Nat) : WokenBy socket (isBroken socket) where
  blind h h' same _ := by simp only [isBroken, same]
  shut h := by
    cases e : h.sockets socket with
    | unconnected => simp [isBroken, sockets_shutDown_unconnected e]
    | listener l => simp [isBroken, sockets_shutDown_listener e]
    | stream s =>
      obtain ⟨s', after, -, shut⟩ := stream_shutDown e
      simp [isBroken, after, shut]

/-- A token that was not interrupted holds a socket. -/
structure Holding (token : String) (socket : Nat) (h : Host) : Prop where
  idle : h.interrupted token = false
  armed : (h.tokens token).armed = some (.socket socket)

variable {token : String} {socket : Nat} {ready : Host → Bool}

/-- An interrupt of the token ends the wait, and any other interrupt leaves the token alone. -/
theorem Holding.interrupt {h : Host} (holding : Holding token socket h)
    (woken : WokenBy socket ready) (name : String) :
    ready (h.interruptFromOutside name) = true ∨
      Holding token socket (h.interruptFromOutside name) := by
  by_cases own : name = token
  · subst own
    left
    obtain ⟨events, e⟩ := interrupt_eq name h
    have cut : h.cut name = ((h.emptied name).shutDown socket).2 := by
      simp only [Host.cut, holding.armed]
    obtain ⟨sockets, shut⟩ := shutDown_eq socket (h.emptied name)
    rw [← woken.shut (h.emptied name)]
    apply woken.blind
    · change (h.interrupt name).sockets = _
      rw [e, cut]
    · change (h.interrupt name).visitors = _
      rw [e, cut]
  · right
    have kept : (h.interruptFromOutside name).tokens token = h.tokens token := by
      change (h.interrupt name).tokens token = _
      rw [tokens_interrupt]
      exact assign_other _ (Ne.symm own)
    exact ⟨by simpa only [interrupted, kept] using holding.idle, by rw [kept]; exact holding.armed⟩

/-- Who is blocked for ever on a socket that a token holds was not interrupted. -/
theorem blockUntil_forever (woken : WokenBy socket ready) {h h' : Host}
    (holding : Holding token socket h) (blocked : blockUntil ready h = .error .forever h') :
    h'.interrupted token = false := by
  have run := blocked_blockUntil ready h
  rw [blocked] at run
  clear blocked
  generalize result : (EStateM.Result.error .forever h' : EStateM.Result Halt Host Unit) = r at run
  induction run with
  | ready => cases result
  | forever =>
    cases result
    exact holding.idle
  | exit =>
    cases result
    exact holding.idle
  | @woken h₀ h₁ _ _ w next ih =>
    obtain ⟨name, alarms, clock, cues, requests, rfl⟩ := wake_eq w
    have held : Holding token socket { h₀ with
        alarms := alarms, clock := clock, cues := cues, requests := requests } :=
      ⟨holding.idle, holding.armed⟩
    obtain ready₁ | held := held.interrupt woken name
    · cases next with
      | ready => cases result
      | forever e => simp [e] at ready₁
      | exit e => simp [e] at ready₁
      | woken e => simp [e] at ready₁
    · exact ih held result

end Host

/-! ### One call -/

namespace Net

variable {token : String} {h : Host}

/-- Whoever only waits for a socket is blocked as long as the socket is not ready. -/
theorem bind_forever {α : Type} {socket : Nat} {ready : Host → Bool} (woken : WokenBy socket ready)
    {next : Unit → Act α} {h' : Host} (holding : Holding token socket h)
    (blocked : (blockUntil ready >>= next) h = .error .forever h')
    (returns : ∀ h, ∃ a h', next () h = .ok a h') : h'.interrupted token = false := by
  rw [Act.bind_apply] at blocked
  cases waited : blockUntil ready h with
  | ok _ h₁ =>
    obtain ⟨a, h₂, returned⟩ := returns h₁
    rw [waited] at blocked
    dsimp only at blocked
    rw [returned] at blocked
    cases blocked
  | error halt h₁ =>
    rw [waited] at blocked
    cases blocked
    exact blockUntil_forever woken holding waited

/-- What arrives at the other end is no matter of the tokens. -/
theorem holding_deliver {socket : Nat} (holding : Holding token socket h) (bytes : List UInt8) :
    Holding token socket (h.deliver socket bytes) := by
  obtain ⟨sockets, e⟩ := deliver_eq socket bytes h
  rw [e]
  exact ⟨holding.idle, holding.armed⟩

theorem write_forever {socket times : Nat} {bytes : List UInt8} {h' : Host}
    (holding : Holding token socket h)
    (blocked : write socket bytes times h = .error .forever h') :
    h'.interrupted token = false := by
  unfold write at blocked
  dsimp only at blocked
  by_cases nothing : bytes.length * times = 0
  · rw [if_pos nothing] at blocked
    cases blocked
  rw [if_neg nothing, Act.bind_apply, Act.get_apply] at blocked
  dsimp only at blocked
  by_cases broken : h.isBroken socket = true
  · rw [if_pos broken] at blocked
    cases blocked
  rw [if_neg broken, Act.bind_apply, Act.modify_apply] at blocked
  dsimp only at blocked
  split at blocked
  · cases blocked
  · exact bind_forever (wokenBy_isBroken socket) (holding_deliver holding _) blocked
      fun _ => ⟨_, _, rfl⟩

theorem dial_returns (socket port : Nat) (h : Host) :
    ∃ result h', dial socket port h = .ok result h' := by
  simp only [dial, Act.bind_apply, Act.modify_apply, Act.get_apply]
  cases (elapse connectTime (h.undertake (.dial port))).reception socket with
  | error cause => exact ⟨_, _, rfl⟩
  | ok peer => exact ⟨_, _, rfl⟩

/-- Who is blocked for ever in a call was not interrupted. -/
theorem perform_forever {c : Call} {socket : Nat} {h' : Host} (holding : Holding token socket h)
    (blocked : c.perform socket h = .error .forever h') : h'.interrupted token = false := by
  cases c with
  | listen port => cases blocked
  | accept listener =>
    exact bind_forever (wokenBy_isAcceptable socket) holding blocked fun _ => ⟨_, _, rfl⟩
  | connect port =>
    obtain ⟨result, h₁, returned⟩ := dial_returns socket port h
    exact nomatch returned.symm.trans blocked
  | receive _ max =>
    exact bind_forever (wokenBy_isReadable socket) holding blocked fun _ => ⟨_, _, rfl⟩
  | send _ bytes times => exact write_forever holding blocked

theorem holding_armedWith {socket : Nat} (idle : h.interrupted token = false) :
    Holding token socket (h.armedWith token (.socket socket)) := by
  have idle : (h.tokens token).interrupted = false := idle
  constructor <;> simp [armedWith, interrupted, updateToken, idle]

/-- What a call does once its socket is no longer armed: it reports a success, and looks at the
token again when it was to read something and got nothing. -/
def Call.finish (token : String) (h : Host) :
    (c : Call) → Except NetError c.Value → Act (Except NetError c.Value)
  | .listen port, result => do
    if result.isOk then note .debug s!"listening on {(Endpoint.loopback port).describe}"
    return result
  | .accept listener, result => do
    if result.isOk then
      note .debug s!"accepted connection on {((Call.accept listener).endpoint h).describe}"
    return result
  | .receive _ max, .ok [] => do
    if max ≠ 0 && (← isInterrupted token) then return .error .interrupted else return .ok []
  | .connect _, result | .receive .., result | .send .., result => return result

/-- To give a result another value is no matter of the armed socket. -/
theorem runArmed_map {α β : Type} (token : String) (socket : Nat) (operation : String)
    (endpoint : Endpoint) (call : Act (Except Fault α)) (g : α → β) (h : Host) :
    runArmed token socket operation endpoint (do return (← call).map g) h =
      match runArmed token socket operation endpoint call h with
      | .ok result h' => .ok (result.map g) h'
      | .error halt h' => .error halt h' := by
  cases idle : h.interrupted token with
  | true =>
    rw [runArmed_refused idle, runArmed_refused idle]
    rfl
  | false =>
    rw [runArmed_apply socket operation endpoint _ idle,
      runArmed_apply socket operation endpoint _ idle, Act.bind_apply]
    cases call (h.armedWith token (.socket socket)) with
    | error halt h' => rfl
    | ok result h' => cases result <;> rfl

/-- What a call does once its requests were granted: what it asks the system for with the socket
armed, and then what it adds. -/
def Call.proceed (token : String) (c : Call) (h : Host) : Act (Except NetError c.Value) := do
  c.finish token h (← runArmed token (c.socket h) c.operation (c.endpoint h)
    (c.perform (c.socket h)))

/-- Listening names its socket, which is none of the system's answers. -/
theorem listenOn_eq (token : String) (port : Nat) (h : Host) :
    listenOn token h.socketCount port = (Call.listen port).proceed token h := by
  funext h₁
  have named := runArmed_map token h.socketCount "listen on" (.loopback port)
    (claimPort h.socketCount port) (fun _ => h.socketCount) h₁
  change _ = ((runArmed token h.socketCount "listen on" (.loopback port) do
    return (← claimPort h.socketCount port).map fun _ => h.socketCount) >>=
      Call.finish token h (.listen port)) h₁
  rw [Act.bind_apply, named, listenOn, Act.bind_apply]
  cases runArmed token h.socketCount "listen on" (.loopback port) (claimPort h.socketCount port)
      h₁ with
  | error halt h₂ => rfl
  | ok result h₂ => cases result <;> rfl

theorem armed_bind {α β : Type} (token : String) (socket : Nat) (operation : String)
    (endpoint : Endpoint) (call : Act (Except Fault α)) (f : Except NetError α → Act β) (h : Host) :
    (armed token socket operation endpoint call >>= f) h =
      match h.granted [operation] endpoint with
      | .error e => f (.error e) (h.supplied [operation])
      | .ok () => (runArmed token socket operation endpoint call >>= f)
          (h.supplied [operation]) := by
  rw [Act.bind_apply, armed_apply]
  cases h.granted [operation] endpoint with
  | error e => rfl
  | ok => rw [Act.bind_apply]

/-- Every call ends with the first refusal, or goes on. -/
theorem run_eq (token : String) (c : Call) (h : Host) :
    c.run token h = match c.granted h with
      | .error e => .ok (.error e) (c.prepare h)
      | .ok () => c.proceed token h (c.prepare h) := by
  cases c with
  | listen port =>
    change Net.listen token port h = _
    rw [listen_apply, listenOn_eq]
    rfl
  | connect port =>
    change Net.connect token port h = _
    rw [connect_apply]
    have added : (Call.connect port).proceed token h = runArmed token h.socketCount "connect to"
        (.loopback port) (dial h.socketCount port) := bind_pure _
    rw [added]
    rfl
  | accept listener =>
    change Net.accept token listener h = _
    rw [Net.accept, Act.bind_apply, Act.get_apply]
    dsimp only
    rw [armed_bind]
    unfold Call.granted
    simp only [Call.requests, Call.operation, Call.endpoint]
    cases h.granted ["accept on"] (h.sockets listener).endpoint <;> rfl
  | receive socket max =>
    have added : Net.receive token socket max =
        (armed token socket "receive from" .unspecified do
          blockUntil (Host.isReadable socket)
          modifyGet (Host.readFrom socket max)) >>= (Call.receive socket max).finish token h := by
      refine bind_congr fun result => ?_
      cases result with
      | error e => rfl
      | ok bytes => cases bytes <;> rfl
    change Net.receive token socket max h = _
    rw [added, armed_bind]
    unfold Call.granted
    simp only [Call.requests, Call.operation, Call.endpoint]
    cases h.granted ["receive from"] .unspecified <;> rfl
  | send socket bytes times =>
    change Net.send token socket bytes times h = _
    rw [Net.send, armed_apply]
    have added : (Call.send socket bytes times).proceed token h = runArmed token socket "send to"
        .unspecified (write socket bytes times) := bind_pure _
    rw [added]
    rfl

theorem finish_refused (c : Call) (h h₁ : Host) :
    c.finish token h (.error .interrupted) h₁ = .ok (.error .interrupted) h₁ := by
  cases c <;> rfl

/-- What the system reported is judged. -/
theorem finish_judged (token : String) (c : Call) (h h₁ : Host)
    (reported : Except Fault c.Value) :
    ∃ result events,
      c.finish token h
        (NetError.judge c.operation (c.endpoint h) (h₁.interrupted token) reported)
        (h₁.updateToken token Token.disarm) =
      .ok result { h₁.updateToken token Token.disarm with events := events } ∧
      Judged c h (h₁.interrupted token) reported result := by
  cases reported with
  | error cause =>
    cases raised : h₁.interrupted token with
    | true => exact ⟨.error .interrupted, h₁.events, by cases c <;> rfl, .cut rfl⟩
    | false =>
      exact ⟨.error (.io c.operation (c.endpoint h) cause), h₁.events, by cases c <;> rfl,
        .failed rfl⟩
  | ok v =>
    cases c with
    | listen port => exact ⟨.ok v, _, rfl, .completed trivial⟩
    | accept listener => exact ⟨.ok v, _, rfl, .completed trivial⟩
    | connect port => exact ⟨.ok v, h₁.events, rfl, .completed trivial⟩
    | send socket bytes times => exact ⟨.ok v, h₁.events, rfl, .completed trivial⟩
    | receive socket max =>
      cases v with
      | cons b bytes => exact ⟨.ok (b :: bytes), h₁.events, rfl, .completed (.inl (by simp))⟩
      | nil =>
        -- The token is looked at once more, which is disarmed by now.
        have kept : (h₁.updateToken token Token.disarm).interrupted token =
            h₁.interrupted token := interrupted_updateToken (Token.interrupted_disarm _)
        have again : (Call.receive socket max).finish token h (.ok [])
            (h₁.updateToken token Token.disarm) =
              .ok (if max ≠ 0 && h₁.interrupted token then .error .interrupted else .ok [])
                (h₁.updateToken token Token.disarm) := by
          simp only [Call.finish, Act.bind_apply, Act.isInterrupted_apply, kept]
          split <;> rfl
        refine ⟨_, h₁.events, again, ?_⟩
        by_cases nothing : max = 0
        · rw [if_neg (by simp [nothing])]
          exact .completed (.inr nothing)
        · have dry : ¬ (Call.receive socket max).Completes [] := by simp [Call.Completes, nothing]
          cases raised : h₁.interrupted token with
          | true =>
            rw [if_pos (by simp [nothing])]
            exact .dried rfl dry
          | false =>
            rw [if_neg (by simp)]
            exact .ended rfl dry

/-- Whatever a call asks the system for, no token is touched. -/
theorem tokens_prepare (c : Call) (h : Host) : (c.prepare h).tokens = h.tokens := by
  cases c with
  | listen => exact tokens_opened _ h
  | connect => exact tokens_opened _ h
  | accept => rfl
  | receive => rfl
  | send => rfl

theorem ran (token : String) (c : Call) (h : Host) : Ran token c h (c.run token h) := by
  rw [run_eq]
  cases asked : c.granted h with
  | error e => exact .denied asked
  | ok =>
    dsimp only
    have same : (c.prepare h).interrupted token = h.interrupted token := by
      simp only [interrupted, tokens_prepare]
    rw [Call.proceed, Act.bind_apply]
    cases idle : h.interrupted token with
    | true =>
      rw [runArmed_refused (same.trans idle)]
      change Ran token c h (c.finish token h (.error .interrupted) (c.prepare h))
      rw [finish_refused]
      exact .refused asked idle
    | false =>
      have idle' : (c.prepare h).interrupted token = false := same.trans idle
      rw [runArmed_apply _ _ _ _ idle']
      cases performed : c.perform (c.socket h)
          ((c.prepare h).armedWith token (.socket (c.socket h))) with
      | error halt h₁ =>
        refine .halted asked idle performed fun forever => ?_
        subst forever
        exact perform_forever (holding_armedWith idle') performed
      | ok reported h₁ =>
        obtain ⟨result, events, finished, judged⟩ := finish_judged token c h h₁ reported
        change Ran token c h (c.finish token h _ _)
        rw [finished]
        exact .judged events asked idle performed judged

end Net

/-! ### What stays -/

namespace Host

/-- No interrupt is taken back, and no token is armed with anything new. -/
structure Sticky (h h' : Host) : Prop where
  flags : ∀ name, h.interrupted name = true → h'.interrupted name = true
  armed : ArmsOnly [] h h'

section sticky
variable {h h' h'' : Host}

theorem sticky_of_tokens (same : h'.tokens = h.tokens) : Sticky h h' where
  flags name raised := by simpa only [interrupted, same] using raised
  armed _ _ _ armed := same ▸ armed

theorem sticky_of_sockets (eq : ∃ sockets, h' = { h with sockets := sockets }) : Sticky h h' := by
  obtain ⟨sockets, rfl⟩ := eq
  exact sticky_of_tokens rfl

theorem Sticky.refl (h : Host) : Sticky h h := sticky_of_tokens rfl

theorem Sticky.trans (a : Sticky h h') (b : Sticky h' h'') : Sticky h h'' :=
  ⟨fun name raised => b.flags name (a.flags name raised), a.armed.trans b.armed⟩

theorem sticky_of_run (run : Relation.ReflTransGen Sticky h h') : Sticky h h' := by
  induction run with
  | refl => exact Sticky.refl h
  | tail _ step ih => exact ih.trans step

theorem tolerant_sticky : Tolerant Sticky where
  write h h' world := ⟨world.quiet.flags, (tolerant_armsOnly []).write h h' world⟩
  interrupt name h := ⟨(quiet_interrupt name h).flags, (tolerant_armsOnly []).interrupt name h⟩

end sticky
end Host

namespace Net

variable {token : String} {h h' : Host} {c : Call}

theorem perform_sticky (c : Call) (socket : Nat) : Act.Within Sticky (c.perform socket) := by
  have tolerant := tolerant_sticky
  cases c with
  | listen port =>
    have claimed : Act.Within Sticky (claimPort socket port) :=
      within_claimPort tolerant fun h => sticky_of_sockets (bindTo_eq socket port h)
    exact Act.within_bind claimed fun _ => Act.within_pure _
  | accept listener =>
    refine within_taking tolerant fun h => ?_
    obtain ⟨sockets, socketCount, visitors, e⟩ := takeWaiting_eq socket h
    exact sticky_of_tokens (by rw [e])
  | connect port =>
    refine within_dial tolerant socket port fun peer h => ?_
    obtain ⟨sockets, socketCount, e⟩ := meet_eq socket peer h
    exact sticky_of_tokens (by rw [e])
  | receive _ max =>
    exact within_taking tolerant fun h => sticky_of_sockets (readFrom_eq socket max h)
  | send _ bytes times =>
    change Act.Within Sticky (write socket bytes times)
    unfold write
    dsimp only
    split
    · exact Act.within_pure _
    · apply Act.within_bind Act.within_get
      intro h
      split
      · exact Act.within_pure _
      · apply Act.within_bind
        · exact Act.within_modify fun h => sticky_of_sockets (deliver_eq socket _ h)
        · intro _
          split
          · exact Act.within_pure _
          · exact Act.within_bind (within_blockUntil tolerant _) fun _ => Act.within_pure _

/-- No interrupt is lost in a call, and no token holds anything new after it. -/
theorem Ran.sticky {result : Except NetError c.Value} (ran : Ran token c h (.ok result h')) :
    Sticky h h' := by
  have prepared := sticky_of_tokens (tokens_prepare c h)
  cases ran with
  | denied => exact prepared
  | refused => exact prepared
  | @judged reported _ h₁ events _ idle performed _ =>
    have during := sticky_of_run ((perform_sticky c (c.socket h)).ok performed)
    constructor
    · intro name raised
      have armed : ((c.prepare h).armedWith token (.socket (c.socket h))).interrupted name =
          true :=
        (interrupted_updateToken (Token.interrupted_arm _ _)).trans (prepared.flags name raised)
      exact (interrupted_updateToken (Token.interrupted_disarm _)).trans (during.flags name armed)
    · intro name r new held
      by_cases eq : name = token
      · subst eq
        simp [updateToken] at held
      · have held := during.armed name r new (by simpa [updateToken, eq] using held)
        exact prepared.armed name r new (by simpa [armedWith, updateToken, eq] using held)

/-- What a call gives through a token that was interrupted before. -/
def Call.refusal (c : Call) (h : Host) : NetError :=
  match c.granted h with
  | .error e => e
  | .ok () => .interrupted

/-- Through a token that was interrupted before, nothing is done but asking. -/
theorem Ran.inert {result : Except NetError c.Value} (ran : Ran token c h (.ok result h'))
    (raised : h.interrupted token = true) :
    result = .error (c.refusal h) ∧ h' = c.prepare h := by
  unfold Call.refusal
  cases ran with
  | denied asked => simp only [asked, and_self]
  | refused asked => simp only [asked, and_self]
  | judged _ _ idle =>
    rw [idle] at raised
    cases raised

/-- The system never refuses a request as interrupted. -/
theorem granted_ne_interrupted (operations : List String) (endpoint : Endpoint) (h : Host) :
    h.granted operations endpoint ≠ .error .interrupted := by
  unfold granted
  split <;> nofun

/-- Only an interrupt counts as one. -/
theorem Ran.genuine {result : Except NetError c.Value} (ran : Ran token c h (.ok result h'))
    (idle : h'.interrupted token = false) : result ≠ .error .interrupted := by
  intro e
  subst e
  cases ran with
  | denied asked => exact granted_ne_interrupted _ _ h asked
  | refused _ raised =>
    have raised : (c.prepare h).interrupted token = true := by
      simpa only [interrupted, tokens_prepare] using raised
    rw [idle] at raised
    cases raised
  | @judged reported _ h₁ events _ _ _ judged =>
    have raised : h₁.interrupted token = true := by
      cases judged with
      | dried raised => exact raised
      | cut raised => exact raised
    have idle : h₁.interrupted token = false :=
      (interrupted_updateToken (Token.interrupted_disarm _)).symm.trans idle
    rw [raised] at idle
    cases idle

/-! ### A conversation -/

/-- A call through a token, what it gave, and how things stood before and after. -/
structure Exchange where
  token : String
  call : Call
  before : Host
  result : Except NetError call.Value
  after : Host

/-- Calls on sockets, one after the other. Between them anything may happen that takes no interrupt
back and arms no token. -/
inductive Talk : Host → List Exchange → Host → Prop where
  | done (h : Host) : Talk h [] h
  | call {token : String} {c : Call} {h h₁ h₂ : Host} {result : Except NetError c.Value}
      {rest : List Exchange} : c.run token h = .ok result h₁ → Talk h₁ rest h₂ →
      Talk h (⟨token, c, h, result, h₁⟩ :: rest) h₂
  | elsewhere {h h₁ h₂ : Host} {rest : List Exchange} : Sticky h h₁ → Talk h₁ rest h₂ →
      Talk h rest h₂

/-- Every exchange of a conversation is a call that ran, and lies between its start and its end. -/
theorem Talk.exchanges {xs : List Exchange} (talk : Talk h xs h') :
    Sticky h h' ∧ ∀ x ∈ xs, Ran x.token x.call x.before (.ok x.result x.after) ∧
      Sticky h x.before ∧ Sticky x.after h' := by
  induction talk with
  | done h => exact ⟨Sticky.refl h, fun x mem => by cases mem⟩
  | @call token c h h₁ h₂ result rest returned _ ih =>
    have first : Ran token c h (.ok result h₁) := returned ▸ ran token c h
    refine ⟨first.sticky.trans ih.1, fun x mem => ?_⟩
    obtain rfl | later := List.mem_cons.mp mem
    · exact ⟨first, Sticky.refl h, ih.1⟩
    · obtain ⟨ran, before, after⟩ := ih.2 x later
      exact ⟨ran, first.sticky.trans before, after⟩
  | elsewhere sticky _ ih =>
    refine ⟨sticky.trans ih.1, fun x mem => ?_⟩
    obtain ⟨ran, before, after⟩ := ih.2 x mem
    exact ⟨ran, sticky.trans before, after⟩

/-- What holds of a call in a conversation from `h` to `h'`. -/
structure Exchange.Separate (x : Exchange) (h h' : Host) : Prop where
  /-- No token holds anything of the call. -/
  unarmed : ArmsOnly [] x.before x.after
  /-- Through a token that was interrupted at the start, nothing is done but asking the system; what
  it refuses is the result, and else the interrupt. -/
  inert : h.interrupted x.token = true →
    x.result = .error (x.call.refusal x.before) ∧ x.after = x.call.prepare x.before
  /-- Through a token that is not interrupted in the end, no call was. -/
  genuine : h'.interrupted x.token = false → x.result ≠ .error .interrupted

theorem Talk.separate {xs : List Exchange} (talk : Talk h xs h') :
    ArmsOnly [] h h' ∧ ∀ x ∈ xs, x.Separate h h' := by
  obtain ⟨whole, each⟩ := talk.exchanges
  refine ⟨whole.armed, fun x mem => ?_⟩
  obtain ⟨ran, before, after⟩ := each x mem
  constructor
  · exact ran.sticky.armed
  · intro raised
    exact ran.inert (before.flags x.token raised)
  · intro idle
    apply ran.genuine
    apply Bool.eq_false_iff.mpr
    intro raised
    rw [after.flags x.token raised] at idle
    cases idle

end Net
end DebugBridge
