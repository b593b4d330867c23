import DebugBridge.Cancel.Escalation
import DebugBridge.Host.Interrupt
import DebugBridge.Text.Lines
import DebugBridge.Text.Utf8

/-!
# Waiting

Time passes only while the program is blocked. Then the alarms go off in the order in which they are
due, and the user's requests to stop come when their cue was seen. What is blocked with nothing left
to wake it never returns. Each alarm and each request comes once, so their number bounds every wait.
Strikes come without waiting, at the moments they are bound to.
-/

namespace DebugBridge

open Cancel

namespace Host

/-- The alarm that goes off next: of those due first, the one set first. -/
def nextAlarm? (h : Host) : Option Alarm :=
  h.alarms.foldl
    (fun best? a => match best? with
      | none => some a
      | some best => if a.due < best.due then some a else some best)
    none

def ring (a : Alarm) (h : Host) : Host :=
  { h with alarms := h.alarms.erase a, clock := max h.clock a.due }.interruptFromOutside a.token

def wasSeen (h : Host) : Cue → Bool
  | .command number => number < h.commands.countP (·.child?.isSome)
  | .line start =>
    (Text.pieces (· == '\n') (Utf8.decode h.printed).toList).any (start.toList.isPrefixOf ·)

def request (h : Host) : Except Halt Host :=
  let h := { h with cues := h.cues.drop 1, requests := h.requests + 1 }
  match escalate h.requests with
  | .stopWork => .ok (h.interruptFromOutside workToken)
  | .stopTeardown => .ok (h.interruptFromOutside teardownToken)
  | .giveUp => .error (.exit 130)

/-- The next thing that happens by itself before a deadline, if there is one. -/
def wake? (deadline? : Option Nat) (h : Host) : Option (Except Halt Host) :=
  match h.nextAlarm?.filter fun a => deadline?.all (a.due < ·) with
  | some a => some (.ok (h.ring a))
  | none =>
    match h.cues with
    | cue :: _ => if h.wasSeen cue then some h.request else none
    | [] => none

/-- How many things can still happen by themselves. -/
def pending (h : Host) : Nat := h.alarms.length + h.cues.length

/-- Block until a condition holds; `fuel` bounds what may happen meanwhile. -/
def blockWith (ready : Host → Bool) : Nat → Host → EStateM.Result Halt Host Unit
  | 0, h => if ready h then .ok () h else .error .forever h
  | fuel + 1, h =>
    if ready h then .ok () h
    else match h.wake? none with
      | none => .error .forever h
      | some (.error halt) => .error halt h
      | some (.ok h) => blockWith ready fuel h

/-- Sleep up to a deadline unless a token is interrupted; `fuel` bounds what may happen
meanwhile. -/
def dozeWith (token : String) (deadline : Nat) : Nat → Host → EStateM.Result Halt Host Bool
  | 0, h =>
    if h.interrupted token then .ok false h
    else .ok true { h with clock := max h.clock deadline }
  | fuel + 1, h =>
    if h.interrupted token then .ok false h
    else match h.wake? (some deadline) with
      | none => .ok true { h with clock := max h.clock deadline }
      | some (.error halt) => .error halt h
      | some (.ok h) => dozeWith token deadline fuel h

/-- Time passes up to a deadline, and the alarms due before it go off; `fuel` bounds how many. -/
def elapseWith (deadline : Nat) : Nat → Host → Host
  | 0, h => { h with clock := max h.clock deadline }
  | fuel + 1, h =>
    match h.nextAlarm?.filter (·.due < deadline) with
    | some a => elapseWith deadline fuel (h.ring a)
    | none => { h with clock := max h.clock deadline }

def shows (h : Host) (moment : Nat) : Bool := h.clockEnd?.all (moment ≤ ·)

/-- Some microseconds pass, which is too short for the user to react. -/
def elapse (duration : Nat) (h : Host) : Host :=
  h.elapseWith (h.clock + duration) h.alarms.length

end Host

def blockUntil (ready : Host → Bool) : Act Unit := fun h => h.blockWith ready h.pending

/-- Sleep for some microseconds; false when the token was interrupted before the time was over. The
end of the sleep is worked out before anything else, and has to be a moment that the clock can show.
-/
def sleep (token : String) (duration : Nat) : Act Bool := fun h =>
  let deadline := h.clock + duration
  let begun := h.undertake (.nap duration)
  if h.shows deadline then begun.dozeWith token deadline h.pending
  else .error .panicked begun

def milliseconds (n : Nat) : Nat := n * 1000

namespace Host

/-- How much later a strike by somebody else comes. -/
def strikeDelay : Nat := milliseconds 10

/-- A strike takes effect: at once, or as an alarm that is soon due. -/
def suffer (s : Strike) (h : Host) : Host :=
  if s.later then { h with alarms := h.alarms ++ [⟨h.clock + strikeDelay, s.token⟩] }
  else h.interrupt s.token

/-- The strikes bound to a moment take effect in their order and are gone. -/
def strike (command : Nat) (point : Point) (h : Host) : Host :=
  let isNow := fun s : Strike => s.command = command && s.point = point
  (h.strikes.filter isNow).foldl (fun h s => h.suffer s)
    { h with strikes := h.strikes.filter fun s => !isNow s }

end Host

def setAlarm (token : String) (delay : Nat) : Act Unit :=
  modify fun h => { h with alarms := h.alarms ++ [⟨h.clock + delay, token⟩] }

/-- Let every alarm that is set go off. -/
def ringAll : Act Unit := modify fun h =>
  h.alarms.foldl (fun h a => h.ring a) h

end DebugBridge
