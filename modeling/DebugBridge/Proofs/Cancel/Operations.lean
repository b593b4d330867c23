import DebugBridge.Proofs.Cancel.Commands
import DebugBridge.Proofs.Composition

/-!
# Two runs of an operation

The operations made of several bridge commands reach the next command only through a token that is
not interrupted. So an interrupt during one command leaves that command the last one.
-/

namespace DebugBridge

open Host Cancel

namespace Host

theorem timed_closeWaiting (strikes : List Strike) (alarms : List Alarm) (h : Host) (stream : Nat) :
    (h.timed strikes alarms).closeWaiting stream =
      (h.closeWaiting stream).timed strikes alarms := by
  unfold closeWaiting
  have same : (h.timed strikes alarms).sockets stream = h.sockets stream := rfl
  rw [same]
  cases h.sockets stream <;> rfl

theorem timed_closeSocket (strikes : List Strike) (alarms : List Alarm) (id : Nat) (h : Host) :
    (h.timed strikes alarms).closeSocket id = (h.closeSocket id).timed strikes alarms := by
  have waiting : ∀ (streams : List Nat) (h : Host),
      streams.foldl closeWaiting (h.timed strikes alarms) =
        (streams.foldl closeWaiting h).timed strikes alarms := by
    intro streams
    induction streams with
    | nil => exact fun _ => rfl
    | cons stream rest ih =>
      intro h
      rw [List.foldl_cons, timed_closeWaiting]
      exact ih _
  have same : (h.timed strikes alarms).sockets id = h.sockets id := rfl
  unfold closeSocket
  rw [same]
  cases e : h.sockets id with
  | unconnected => rfl
  | listener l => exact waiting l.waiting (h.updateSocket id fun _ => .unconnected)
  | stream s =>
    simp only [closeStream, same, e]
    split <;> rfl

end Host

section steps
variable {s : Strike}

theorem follows_closeSocket (id : Nat) : Heeds s (modify (Host.closeSocket id) : Act Unit) := by
  have still : ∀ h, Still s.token h → Still s.token (h.closeSocket id) := by
    intro h still
    obtain ⟨sockets, eq⟩ := closeSocket_eq id h
    rw [eq]
    exact ⟨still.strikes, still.alarms, still.cues, still.idle⟩
  exact follows_steady (course_step s.token) (Act.within_modify (.closeSocket id))
    (steady_modify (fun strikes alarms h => timed_closeSocket strikes alarms id h) still)

/-- Following the strike is passed on to whatever is made of operations. -/
theorem compositional_heeds (s : Strike) : Compositional fun m => Heeds s m :=
  compositional_follows (course_step s.token)

/-- The moment at which a socket has begun to listen is none of a command. -/
theorem follows_listenStrike (inCommand : s.point ≠ .listen) :
    Heeds s (modify fun h => h.strike h.commands.length .listen : Act Unit) := by
  refine ⟨fun h => strike_within (tolerant_step s.token) h.commands.length .listen h,
    fun cut free shadows _ => ?_⟩
  obtain @⟨free, strikes, alarms, still, pending⟩ := shadows
  have free' : free.strike free.commands.length .listen = free := strike_nil still.strikes _ _
  have cut' : (free.timed strikes alarms).strike free.commands.length .listen =
      free.timed strikes alarms := by
    obtain rfl | rfl := pending.strikes
    · exact strike_nil rfl _ _
    · simp [strike, timed, inCommand]
  exact .alike (congrArg (EStateM.Result.ok ()) cut') (congrArg (EStateM.Result.ok ()) free')
    ⟨still, pending⟩

theorem follows_claimPort (inCommand : s.point ≠ .listen) (socket port : Nat) :
    Heeds s (Net.claimPort socket port) := by
  have bound : Heeds s (modifyGet (Host.bindTo socket port) : Act (Except Fault Unit)) := by
    refine follows_steady (course_step s.token) (Act.within_modifyGet (.bind socket port))
      (steady_modifyGet (fun strikes alarms h => ?_) fun h still => ?_)
    · have same : (h.timed strikes alarms).grantedPort? port = h.grantedPort? port := rfl
      unfold bindTo
      rw [same]
      cases h.grantedPort? port <;> rfl
    · obtain ⟨sockets, eq⟩ := bindTo_eq socket port h
      rw [eq]
      exact ⟨still.strikes, still.alarms, still.cues, still.idle⟩
  exact (compositional_heeds s).claimPort bound (follows_listenStrike inCommand)

theorem follows_answer : Heeds s (modifyGet Host.answer : Act (Option Fault)) :=
  follows_steady (course_step s.token)
    (Act.within_modifyGet fun _ => (tolerant_step s.token).write _ _ (by constructor <;> rfl))
    (steady_modifyGet (fun _ _ _ => rfl) fun _ still =>
      ⟨still.strikes, still.alarms, still.cues, still.idle⟩)

theorem follows_armed {α : Type} {socket : Nat} {operation : String} {endpoint : Endpoint}
    {call : Act (Except Fault α)} (called : Heeds s call) :
    Heeds s (armed s.token socket operation endpoint call) :=
  (compositional_heeds s).armed follows_answer
    (follows_steady (course_step s.token) (within_armSocket socket) (steady_arm s.token _))
    (follows_steady (course_step s.token) within_disarmSocket (steady_disarm s.token)) called

theorem follows_listen (inCommand : s.point ≠ .listen) (port : Nat) :
    Heeds s (Net.listen s.token port) := by
  have course := course_step s.token
  have opened : Heeds s (modifyGet (Host.addSocket .unconnected) : Act Nat) :=
    follows_steady course (Act.within_modifyGet .openSocket)
      (steady_modifyGet (fun _ _ _ => rfl) fun _ still =>
        ⟨still.strikes, still.alarms, still.cues, still.idle⟩)
  exact (compositional_heeds s).listen follows_answer opened fun socket =>
    follows_armed (follows_claimPort inCommand socket port)

theorem follows_netClose (listener : Nat) : Heeds s (Net.close listener) :=
  follows_noteOf (course_step s.token) .debug (fun _ _ _ => rfl) (follows_closeSocket listener)

end steps

section operations
variable {s : Strike} (b : Bridge)

theorem follows_connect (address : String) : Heeds s (b.connect s.token address) :=
  (compositional_heeds s).connect (follows_ask b _)

theorem follows_property (serial name : String) : Heeds s (b.property s.token serial name) :=
  (compositional_heeds s).map _ (follows_ask b _)

theorem follows_serialNumber : Heeds s (b.serialNumber s.token) :=
  (compositional_heeds s).map _ (follows_ask b _)

theorem follows_devices : Heeds s (b.devices s.token) :=
  (compositional_heeds s).devices (follows_ask b _)

theorem follows_address (serial : String) : Heeds s (b.address s.token serial) :=
  (compositional_heeds s).address (follows_ask b _)

theorem follows_choose (selector : Selector) : Heeds s (b.choose s.token selector) :=
  (compositional_heeds s).choose (follows_devices b)

/-- Every poll is preceded by a sleep that an interrupt ends. -/
theorem follows_enable (serial : String) (port interval : Nat) :
    Heeds s (Wireless.enable b s.token serial port interval) :=
  (compositional_heeds s).enable (follows_sleep (course_step s.token) interval)
    (follows_property b serial _) (follows_act b _) (follows_address b serial)

theorem follows_join (address : String) : Heeds s (Wireless.connect b s.token address) :=
  (compositional_heeds s).join (follows_act b _) (follows_connect b _)

/-- After a failure to listen the token is looked at before the next port is registered. -/
theorem follows_establish (inCommand : s.point ≠ .listen) (t : Tunnel) (serial : String)
    (range : PortRange) (forceForward : Bool) :
    Heeds s (t.establish b s.token serial range forceForward) :=
  (compositional_heeds s).establish follows_reachLatest t range forceForward
    (fun a _ _ => follows_act b a) (follows_listen inCommand)

theorem follows_close (t : Tunnel) (serial : String) : Heeds s (t.close b s.token serial) :=
  (compositional_heeds s).close follows_reachLatest t (fun a _ _ => follows_act b a)
    follows_netClose

end operations
end DebugBridge
