import DebugBridge.Choice
import DebugBridge.Proofs.Host.Composition
import DebugBridge.Tunnel.Connection
import DebugBridge.Tunnel.Negotiation
import DebugBridge.Wireless

/-!
# What operations are made of

One rule for each operation: what holds of the bridge commands and of the calls that it consists of
holds of the whole operation. An operation on a tunnel runs only actions on one device.
-/

namespace DebugBridge

namespace Sequential

variable {Q : {α : Type} → Act α → Prop} (rules : Sequential Q) {token : String} {child : Nat}
  {output : Output} {q : Query}
include rules

theorem judge (command : String) (outcome : Outcome) : Q (judge command outcome) := by
  unfold DebugBridge.judge
  split
  · split
    · exact rules.pure _
    · exact rules.bind (rules.detail _) fun _ => rules.pure _
  · exact rules.bind (rules.detail _) fun _ => rules.pure _

theorem readAnswer (reads : Q (DebugBridge.readOutput child output q.limit))
    (drains : Q (DebugBridge.drainOutput child output)) : Q (readAnswer q child output) := by
  refine rules.bind reads fun result => ?_
  split
  · split
    · exact rules.pure _
    · exact rules.bind (rules.detail _) fun _ => rules.map _ drains
  · exact rules.pure _

theorem readAll (answers : Q (DebugBridge.readAnswer q child output)) (kills : Q (kill child)) :
    Q (readAll q child output) := by
  refine rules.bind answers fun result => ?_
  split
  · refine rules.bind kills fun fault => ?_
    cases fault with
    | none => exact rules.pure _
    | some cause => exact rules.bind (rules.detail _) fun _ => rules.pure _
  · exact rules.pure _

theorem conclude (waits : ∀ reap, Q (wait child reap)) (disarms : Q (disarm token)) :
    Q (conclude token child) :=
  rules.bind (waits false) fun _ => rules.bind disarms fun _ =>
    rules.bind (waits true) fun _ => rules.pure _

/-- A child is looked after until it was waited for, or it is given up. -/
theorem supervise {α β : Type} {meanwhile : Act β}
    {finish : Outcome → β → Act (Except BridgeError α)} (arms : Q (arm token (.process child)))
    (abandons : Q (abandon child)) (first : Q meanwhile)
    (concludes : Q (DebugBridge.conclude token child))
    (last : ∀ outcome result, Q (finish outcome result)) :
    Q (Bridge.supervise token child meanwhile finish) := by
  refine rules.bind arms fun armed => ?_
  cases armed with
  | false => exact rules.bind abandons fun _ => rules.pure _
  | true =>
    refine rules.bind first fun result => rules.bind concludes fun outcome =>
      rules.bind (rules.map _ (rules.isInterrupted token)) fun cancelled => ?_
    cases cancelled with
    | true => exact rules.pure _
    | false => exact last outcome result

end Sequential

namespace Compositional

variable {Q : {α : Type} → Act α → Prop} (rules : Compositional Q) {b : Bridge}
  {token serial : String}
include rules

section bridge

theorem reportUnstarted (command : String) (argv : List String) (cause : SpawnError) :
    Q (reportUnstarted command argv cause) := by
  unfold DebugBridge.reportUnstarted
  split <;> exact rules.bind (rules.note _ _) fun _ => rules.pure _

theorem answer (q : Query) (outcome : Outcome) (result : Except Fault Capture) :
    Q (Bridge.answer q outcome result) := by
  unfold Bridge.answer
  split
  · exact rules.map _ (rules.judge _ _)
  · exact rules.bind (rules.note _ _) fun _ => rules.pure _
  · exact rules.pure _

theorem connect {address : String} (asks : Q (b.ask token (.connect address))) :
    Q (b.connect token address) := by
  refine rules.bind asks fun result => ?_
  split
  · exact rules.pure _
  · split
    · exact rules.bind (rules.note _ _) fun _ => rules.pure _
    · exact rules.pure _

theorem devices (asks : Q (b.ask token .devices)) : Q (b.devices token) := by
  refine rules.bind asks fun result => ?_
  split
  · exact rules.pure _
  · exact rules.bind (rules.noteAll _) fun _ => rules.pure _

theorem address (asks : Q (b.ask token (.route serial))) : Q (b.address token serial) := by
  refine rules.bind asks fun result => ?_
  split
  · exact rules.pure _
  · exact rules.bind (rules.noteAll _) fun _ => rules.pure _

theorem choose {selector : Selector} (lists : Q (b.devices token)) :
    Q (b.choose token selector) := by
  refine rules.bind lists fun result => ?_
  split
  · split <;> exact rules.bind (rules.note _ _) fun _ => rules.pure _
  · refine rules.bind (rules.note _ _) fun _ => ?_
    split
    · exact rules.bind (rules.note _ _) fun _ => rules.pure _
    · refine rules.bind (rules.note _ _) fun _ => ?_
      split
      · exact rules.bind (rules.noteAll _) fun _ => rules.pure _
      · exact rules.pure _

end bridge

section wireless

/-- Every poll is preceded by a sleep. -/
theorem awaitPort {port interval : Nat} (sleeps : Q (sleep token interval))
    (asks : Q (b.property token serial Wireless.portProperty)) (left : Nat) :
    Q (Wireless.awaitPort b token serial port interval left) := by
  induction left with
  | zero => exact rules.pure _
  | succ left ih =>
    refine rules.bind sleeps fun slept => ?_
    cases slept with
    | false => exact rules.pure _
    | true =>
      refine rules.bind asks fun result => ?_
      cases result with
      | ok value =>
        dsimp only
        split
        · exact rules.pure _
        · exact rules.bind (rules.note _ _) fun _ => ih
      | error e =>
        dsimp only
        split
        · exact rules.pure _
        · exact rules.bind (rules.note _ _) fun _ => ih

theorem enable {port interval : Nat} (sleeps : Q (sleep token interval))
    (asks : Q (b.property token serial Wireless.portProperty))
    (switches : Q (b.act token (.tcpip serial port))) (finds : Q (b.address token serial)) :
    Q (Wireless.enable b token serial port interval) := by
  have ensured : Q (Wireless.ensurePort b token serial port interval) := by
    refine rules.bind asks fun result => ?_
    split
    · exact rules.pure _
    · split
      · exact rules.bind (rules.note _ _) fun _ => rules.pure _
      · refine rules.bind (rules.note _ _) fun _ => rules.bind switches fun result => ?_
        split
        · exact rules.pure _
        · exact rules.awaitPort sleeps asks _
  refine rules.bind ensured fun result => ?_
  split
  · exact rules.pure _
  · refine rules.bind finds fun result => ?_
    split <;> exact rules.pure _

theorem join {address : String}
    (drops : Q (b.act token (.disconnect (Wireless.withPort address))))
    (connects : Q (b.connect token (Wireless.withPort address))) :
    Q (Wireless.connect b token address) := by
  unfold Wireless.connect
  refine rules.bind drops fun result => ?_
  -- What comes after the stale connection was dropped, or could not be.
  extract_lets connecting
  have connected (u : Unit) : Q (connecting u) := by
    refine rules.bind connects fun result => ?_
    split
    · exact rules.bind (rules.note _ _) fun _ => rules.pure _
    · split
      · exact rules.bind (rules.note _ _) fun _ => rules.pure _
      · exact rules.pure _
  cases result with
  | ok => exact connected ()
  | error e =>
    dsimp only
    split
    · exact rules.pure _
    · exact rules.bind (rules.note _ _) connected

end wireless

section tunnels

open Tunnel

section negotiation
variable (strikes : ∀ point, Q (reachLatest point))
include strikes

theorem remark (point : Host.Point) (severity : Severity) (text : String) :
    Q (remark point severity text) :=
  rules.bind (strikes point) fun _ => rules.note _ _

theorem noteUndoFailure (direction : Direction) (e : BridgeError) :
    Q (noteUndoFailure direction e) := by
  unfold Tunnel.noteUndoFailure
  dsimp only
  split
  · exact rules.note _ _
  · exact rules.remark strikes _ _ _

theorem noteListenFailure (range : PortRange) (port : Nat) (e : NetError) :
    Q (noteListenFailure range port e) := by
  unfold Tunnel.noteListenFailure
  split
  · exact rules.remark strikes _ _ _
  · split <;> exact rules.remark strikes _ _ _

theorem noteClosed (direction : Direction) (port : Nat) (result : Except BridgeError Unit) :
    Q (noteClosed direction port result) := by
  cases result with
  | ok => exact rules.note _ _
  | error e => exact rules.noteUndoFailure strikes direction e

variable {socket : String}

theorem openReverse (range : PortRange) (ports : List Nat)
    (registers : ∀ port, Q (b.act token (.reverse serial socket port)))
    (removes : Q (b.act token (.reverseRemove serial socket)))
    (listens : ∀ port, Q (Net.listen token port)) :
    Q (openReverse b token serial socket range ports) := by
  induction ports with
  | nil => exact rules.pure _
  | cons port rest ih =>
    refine rules.bind (registers port) fun registered => ?_
    cases registered with
    | error e =>
      dsimp only
      split
      · exact rules.pure _
      · exact rules.bind (rules.remark strikes _ _ _) fun _ => rules.pure _
    | ok =>
      refine rules.bind (listens port) fun listener => ?_
      cases listener with
      | ok listener => exact rules.bind (rules.note _ _) fun _ => rules.pure _
      | error cause =>
        have further : Q (do
            if ← DebugBridge.isInterrupted token then return .error .interrupted
            Tunnel.noteListenFailure range port cause
            Tunnel.openReverse b token serial socket range rest :
              Act (Except TunnelError (Option Passage))) := by
          refine rules.bind (rules.isInterrupted token) fun raised => ?_
          split
          · exact rules.pure _
          · exact rules.bind (rules.noteListenFailure strikes range port cause) fun _ => ih
        refine rules.bind removes fun removed => ?_
        cases removed with
        | ok => exact further
        | error e => exact rules.bind (rules.noteUndoFailure strikes .reverse e) fun _ => further

theorem openForward (range : PortRange) (ports : List Nat)
    (registers : ∀ port, Q (b.act token (.forward serial port socket))) :
    Q (openForward b token serial socket range ports) := by
  induction ports with
  | nil =>
    unfold Tunnel.openForward
    split <;> exact rules.bind (rules.note _ _) fun _ => rules.pure _
  | cons port rest ih =>
    refine rules.bind (registers port) fun registered => ?_
    cases registered with
    | ok => exact rules.bind (rules.note _ _) fun _ => rules.pure _
    | error e =>
      dsimp only
      split
      · exact rules.pure _
      · refine rules.bind (rules.isInterrupted token) fun raised => ?_
        split
        · exact rules.pure _
        · split
          · exact rules.bind (rules.remark strikes _ _ _) fun _ => ih
          · exact ih

theorem establish (t : Tunnel) (range : PortRange) (forceForward : Bool)
    (acts : ∀ a arguments, a.arguments = onDevice serial arguments → Q (b.act token a))
    (listens : ∀ port, Q (Net.listen token port)) :
    Q (t.establish b token serial range forceForward) := by
  have forward : Q (Tunnel.openForward b token serial t.socket range range.ports) :=
    rules.openForward strikes range range.ports fun _ => acts _ _ rfl
  have negotiated : Q (negotiate b token serial t.socket range forceForward) := by
    unfold negotiate
    split
    · exact forward
    · refine rules.bind (rules.openReverse strikes range range.ports (fun _ => acts _ _ rfl)
        (acts _ _ rfl) listens) fun result => ?_
      split
      · exact rules.pure _
      · exact rules.pure _
      · exact rules.bind (rules.remark strikes _ _ _) fun _ => forward
  unfold Tunnel.establish
  split
  · exact rules.pure _
  · refine rules.bind negotiated fun result => ?_
    split <;> exact rules.pure _

theorem close (t : Tunnel)
    (acts : ∀ a arguments, a.arguments = onDevice serial arguments → Q (b.act token a))
    (closes : ∀ id, Q (Net.close id)) : Q (t.close b token serial) := by
  have released : Q (t.release b token serial) := by
    unfold Tunnel.release
    split
    · refine rules.bind (acts _ _ rfl) fun _ => ?_
      split
      · exact rules.bind (closes _) fun _ => rules.pure _
      · exact rules.pure _
    · exact rules.bind (acts _ _ rfl) fun _ => rules.pure _
  unfold Tunnel.close
  split
  · exact rules.pure _
  · refine rules.bind released fun _ => rules.bind (rules.noteClosed strikes _ _ _) fun _ => ?_
    exact rules.pure _

end negotiation

theorem connectWith {port delay : Nat} (connects : Q (Net.connect token port))
    (receives : ∀ stream, Q (Net.receive token stream 1)) (sleeps : Q (sleep token delay))
    (attempts attempt : UInt32) : Q (connectWith token port attempts delay attempt) := by
  have greeted : Q (greet token port) := by
    refine rules.bind connects fun result => ?_
    split
    · exact rules.pure _
    · refine rules.bind (receives _) fun greeting => ?_
      split <;> exact rules.pure _
  induction attempt using connectWith.induct attempts with
  | case1 attempt ih =>
    rw [Tunnel.connectWith]
    refine rules.bind greeted fun result => ?_
    split
    · exact rules.bind (rules.note _ _) fun _ => rules.pure _
    · exact rules.pure _
    · split
      · exact rules.pure _
      · next left =>
        refine rules.bind (rules.note _ _) fun _ => rules.bind sleeps fun slept => ?_
        split
        · exact ih left
        · exact rules.pure _

end tunnels
end Compositional
end DebugBridge
