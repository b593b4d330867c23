import DebugBridge.Choice
import DebugBridge.Config.Basic
import DebugBridge.Tunnel.State
import DebugBridge.Wireless

/-!
# Failures of the program and their chains

A failure of the program has a chain: the contexts that were put around it, the failure itself, and
the failures behind it down to the first cause. Whether the program was cancelled, and whether it
lacks the bridge executable, is read off the chain, so that no context hides it.
-/

namespace DebugBridge.CommandLine

inductive Link where
  | remark (text : String)
  | config (e : ConfigError)
  | choice (e : ChoiceError)
  | bridge (e : BridgeError)
  | spawn (e : SpawnError)
  | wireless (e : WirelessError)
  | tunnel (e : TunnelError)
  | net (e : NetError)
  | fault (e : Fault)
  deriving DecidableEq, Repr

namespace Link

/-- The part in words. What is wrong with a malformed document is not put into words. -/
def text? : Link → Option String
  | .config .malformed => none
  | .remark text => some text
  | .config e => some e.message
  | .choice e => some e.message
  | .bridge e => some e.message
  | .spawn e => some e.message
  | .wireless e => some e.message
  | .tunnel e => some e.message
  | .net e => some e.message
  | .fault e => some e.message

def isInterrupted : Link → Bool
  | .choice e => e.isInterrupted
  | .bridge e => e.isInterrupted
  | .wireless e => e.isInterrupted
  | .tunnel e => e.isInterrupted
  | _ => false

def isMissingBinary : Link → Bool
  | .bridge e | .wireless (.bridge e) => e.isMissingBinary
  | _ => false

def ofSpawn (e : SpawnError) : List Link :=
  .spawn e :: match e with
    | .failed _ cause => [.fault cause]
    | _ => []

def ofBridge (e : BridgeError) : List Link :=
  .bridge e :: match e with
    | .spawn _ cause => ofSpawn cause
    | .io _ cause => [.fault cause]
    | _ => []

def ofChoice (e : ChoiceError) : List Link :=
  .choice e :: match e with
    | .listing cause => ofBridge cause
    | .selection _ => []

/-- The chain of a failed switch. It speaks for the bridge command behind it, which has no place of
its own in the chain. -/
def ofWireless (e : WirelessError) : List Link :=
  .wireless e :: match e with
    | .bridge cause => (ofBridge cause).tail
    | _ => []

def ofNet (e : NetError) : List Link :=
  .net e :: match e with
    | .io _ _ cause => [.fault cause]
    | .interrupted => []

def ofTunnel (e : TunnelError) : List Link :=
  .tunnel e :: match e with
    | .net cause => ofNet cause
    | _ => []

def ofConfig (e : ConfigError) : List Link :=
  .config e :: match e with
    | .io _ cause => [.fault cause]
    | _ => []

end Link

inductive Failure where
  | config (cause : ConfigError)
  | choice (cause : ChoiceError)
  | bridge (cause : BridgeError)
  | wireless (cause : WirelessError)
  | tunnel (cause : TunnelError)
  /-- The program itself refused. -/
  | refused (reason : String)
  /-- A failure with what was going on when it happened. -/
  | during (context : String) (cause : Failure)
  deriving DecidableEq, Repr

namespace Failure

def chain : Failure → List Link
  | .config e => Link.ofConfig e
  | .choice e => Link.ofChoice e
  | .bridge e => Link.ofBridge e
  | .wireless e => Link.ofWireless e
  | .tunnel e => Link.ofTunnel e
  | .refused reason => [.remark reason]
  | .during context cause => .remark context :: cause.chain

def isInterrupted (f : Failure) : Bool := f.chain.any (·.isInterrupted)

def isMissingBinary (f : Failure) : Bool := f.chain.any (·.isMissingBinary)

@[simp] theorem chain_during (context : String) (f : Failure) :
    (during context f).chain = .remark context :: f.chain := rfl

@[simp] theorem isInterrupted_during (context : String) (f : Failure) :
    (during context f).isInterrupted = f.isInterrupted := by
  simp [isInterrupted, Link.isInterrupted]

@[simp] theorem isMissingBinary_during (context : String) (f : Failure) :
    (during context f).isMissingBinary = f.isMissingBinary := by
  simp [isMissingBinary, Link.isMissingBinary]

end Failure

end DebugBridge.CommandLine
