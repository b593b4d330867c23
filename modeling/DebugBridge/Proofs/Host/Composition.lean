import DebugBridge.Host.Net
import DebugBridge.Host.Process

/-!
# What is passed on to composed activities

A property of activities that diagnostics have, and that two activities which follow one another
pass on, holds of a call as soon as its other parts have it. There is one rule for each call and
each operation, which names those parts. Most calls report nothing but details; then it is enough
that these have the property.
-/

namespace DebugBridge

/-- A property of activities that is passed on to whatever is made of activities that have it and
reports nothing but details. -/
structure Sequential (Q : {α : Type} → Act α → Prop) : Prop where
  pure : ∀ {α : Type} (a : α), Q (pure a)
  bind : ∀ {α β : Type} {m : Act α} {f : α → Act β}, Q m → (∀ a, Q (f a)) → Q (m >>= f)
  isInterrupted : ∀ token, Q (isInterrupted token)
  detail : ∀ text, Q (note .debug text)

/-- A property of activities that is passed on to whatever is made of activities that have it. -/
structure Compositional (Q : {α : Type} → Act α → Prop) : Prop extends Sequential Q where
  note : ∀ severity text, Q (note severity text)
  noteAll : ∀ events, Q (noteAll events)
  detail text := note .debug text

namespace Sequential

variable {Q : {α : Type} → Act α → Prop} (rules : Sequential Q)
include rules

theorem map {α β : Type} {m : Act α} (g : α → β) (first : Q m) : Q (g <$> m) :=
  rules.bind first fun a => rules.pure (g a)

theorem awaitEnding {child : Nat} (ending : Ending) (ends : Q (awaitEnd child))
    (holds : Q blockForever) : Q (awaitEnding child ending) := by
  cases ending with
  | broken cause => exact rules.pure _
  | closed => exact rules.bind ends fun _ => rules.pure _
  | endless => exact rules.bind ends fun _ => rules.pure _
  | held => exact rules.bind holds fun _ => rules.pure _

theorem readOutput {child : Nat} {output : Output} {limit : Nat} (calls : Q (callChild child .read))
    (reaches : Q (reach child .read)) (ends : Q (DebugBridge.awaitEnding child output.ending)) :
    Q (readOutput child output limit) := by
  refine rules.bind calls fun _ => rules.bind reaches fun _ => ?_
  split
  · exact rules.pure _
  · exact rules.map _ ends

theorem drainOutput {child : Nat} {output : Output} (calls : Q (callChild child .read))
    (reaches : Q (reach child .drain)) (ends : Q (DebugBridge.awaitEnding child output.ending)) :
    Q (drainOutput child output) :=
  rules.bind calls fun _ => rules.bind reaches fun _ => ends

theorem request {operation : String} {endpoint : Host.Endpoint}
    (asks : Q (modifyGet Host.answer : Act (Option Fault))) : Q (request operation endpoint) := by
  refine rules.bind asks fun answer => ?_
  cases answer <;> exact rules.pure _

theorem runArmed {α : Type} {token : String} {socket : Nat} {operation : String}
    {endpoint : Host.Endpoint} {call : Act (Except Fault α)}
    (arms : Q (arm token (.socket socket))) (disarms : Q (disarm token))
    (calls : Q call) : Q (runArmed token socket operation endpoint call) := by
  refine rules.bind arms fun ok => ?_
  split
  · refine rules.bind calls fun result => rules.bind disarms fun _ => ?_
    split
    · exact rules.pure _
    · refine rules.bind (rules.isInterrupted token) fun raised => ?_
      split <;> exact rules.pure _
  · exact rules.pure _

theorem armed {α : Type} {token : String} {socket : Nat} {operation : String}
    {endpoint : Host.Endpoint} {call : Act (Except Fault α)}
    (asks : Q (modifyGet Host.answer : Act (Option Fault)))
    (arms : Q (arm token (.socket socket))) (disarms : Q (disarm token))
    (calls : Q call) : Q (armed token socket operation endpoint call) := by
  refine rules.bind (rules.request asks) fun granted => ?_
  cases granted with
  | error e => exact rules.pure _
  | ok => exact rules.runArmed arms disarms calls

section sockets
variable (asks : Q (modifyGet Host.answer : Act (Option Fault)))
  (opens : Q (modifyGet (Host.addSocket .unconnected) : Act Nat))
include asks opens

theorem create (endpoint : Host.Endpoint) : Q (Net.create endpoint) := by
  refine rules.bind (rules.request asks) fun granted => ?_
  cases granted with
  | error e => exact rules.pure _
  | ok => exact rules.bind opens fun _ => rules.pure _

theorem createReusing (endpoint : Host.Endpoint) : Q (Net.createReusing endpoint) := by
  refine rules.bind (rules.create asks opens endpoint) fun created => ?_
  cases created with
  | error e => exact rules.pure _
  | ok socket => exact rules.map _ (rules.request asks)

theorem listen {token : String} {port : Nat}
    (arming : ∀ socket, Q (DebugBridge.armed token socket "listen on" (.loopback port)
      (Net.claimPort socket port))) : Q (Net.listen token port) := by
  refine rules.bind (rules.createReusing asks opens _) fun created => ?_
  cases created with
  | error e => exact rules.pure _
  | ok socket =>
    refine rules.bind (arming socket) fun result => ?_
    split
    · exact rules.pure _
    · exact rules.bind (rules.detail _) fun _ => rules.pure _

theorem connect {token : String} {port : Nat}
    (arming : ∀ socket, Q (DebugBridge.armed token socket "connect to" (.loopback port)
      (Net.dial socket port))) : Q (Net.connect token port) := by
  refine rules.bind (rules.create asks opens _) fun created => ?_
  cases created with
  | error e => exact rules.pure _
  | ok socket => exact arming socket

end sockets

theorem dial {socket port : Nat} (tries : Q (modify (Host.undertake (.dial port)) : Act Unit))
    (waits : Q (modify (Host.elapse Net.connectTime) : Act Unit)) (looks : Q (get : Act Host))
    (meets : ∀ peer, Q (modify (Host.meet socket peer) : Act Unit)) :
    Q (Net.dial socket port) := by
  refine rules.bind tries fun _ => rules.bind waits fun _ => rules.bind looks fun h => ?_
  split
  · exact rules.pure _
  · exact rules.bind (meets _) fun _ => rules.pure _

theorem claimPort {socket port : Nat}
    (binds : Q (modifyGet (Host.bindTo socket port) : Act (Except Fault Unit)))
    (strikes : Q (modify fun h => h.strike h.commands.length .listen : Act Unit)) :
    Q (Net.claimPort socket port) :=
  rules.bind binds fun _ => rules.bind strikes fun _ => rules.pure _

theorem accept {token : String} {listener : Nat} (looks : Q (get : Act Host))
    (arming : ∀ endpoint, Q (DebugBridge.armed token listener "accept on" endpoint do
      blockUntil (Host.isAcceptable listener)
      modifyGet (Host.takeWaiting listener))) : Q (Net.accept token listener) := by
  refine rules.bind looks fun h => rules.bind (arming _) fun result => ?_
  split
  · exact rules.bind (rules.detail _) fun _ => rules.pure _
  · exact rules.pure _

theorem receive {token : String} {socket max : Nat}
    (arming : Q (DebugBridge.armed token socket "receive from" .unspecified do
      blockUntil (Host.isReadable socket)
      modifyGet (Host.readFrom socket max))) : Q (Net.receive token socket max) := by
  refine rules.bind arming fun result => ?_
  split
  · refine rules.bind (rules.isInterrupted token) fun raised => ?_
    split <;> exact rules.pure _
  · exact rules.pure _

end Sequential
end DebugBridge
