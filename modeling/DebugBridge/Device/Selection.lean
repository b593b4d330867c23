import DebugBridge.Device

/-!
# Which device is meant

A selector is matched against a whole listing and decides only if exactly one device matches and
that device is ready. `select` also marks the matching devices, and takes the chosen one out of the
listing; after a failure the listing stands as it was but for the marks.
-/

namespace DebugBridge

inductive Selector where
  | any
  | serial (wanted : String)
  | usb
  /-- Network devices and emulators. -/
  | tcpip
  deriving DecidableEq, Repr

/-- The part of a serial before its first colon, if it has a colon. -/
def hostPart? (serial : String) : Option String :=
  if ':' ∈ serial.toList then some (String.ofList (serial.toList.takeWhile (· ≠ ':'))) else none

/-- A wanted serial means the device of that serial, and without a port of its own the device at
that address on any port. -/
def serialMatches (serial wanted : String) : Bool :=
  serial = wanted || (!wanted.toList.contains ':' && hostPart? serial = some wanted)

namespace Selector

def accepts : Selector → Device → Bool
  | .any, _ => true
  | .serial wanted, d => serialMatches d.serial wanted
  | .usb, d => d.attachment = .usb
  | .tcpip, d => d.attachment ≠ .usb

def describe : Selector → String
  | .any => "any device"
  | .serial wanted => s!"serial {wanted}"
  | .usb => "USB"
  | .tcpip => "TCP/IP"

end Selector

inductive SelectionError where
  /-- Nothing matched; the whole listing. -/
  | notFound (selector : Selector) (devices : List Device)
  /-- Several devices matched; those devices. -/
  | ambiguous (selector : Selector) (candidates : List Device)
  | unauthorized (serial : String)
  | badState (serial state : String)
  deriving DecidableEq, Repr

def serialList (devices : List Device) : String :=
  if devices.isEmpty then "none" else String.intercalate ", " (devices.map (·.serial))

def SelectionError.message : SelectionError → String
  | .notFound selector devices =>
    s!"could not find any ADB device matching {selector.describe} (available: {serialList devices})"
  | .ambiguous selector candidates =>
    s!"multiple ({candidates.length}) ADB devices match {selector.describe}: " ++
      s!"{serialList candidates}; select a device by serial, USB only, or TCP/IP only"
  | .unauthorized serial =>
    s!"device {serial} is unauthorized; " ++
      "accept the USB debugging prompt on the device screen, then retry"
  | .badState serial state => s!"device {serial} could not be connected (state={state})"

namespace Selection

/-- What a pass over a listing has found: how many devices matched, and where the first of them
stands. -/
structure Tally where
  count : Nat := 0
  first? : Option Nat := none
  deriving DecidableEq, Repr

def Tally.add (t : Tally) (place : Nat) : Tally := ⟨t.count + 1, t.first?.or (some place)⟩

/-- Pass over the devices from a place on: every one is marked by whether the selector means it, and
those that it means are added to the tally. -/
def pass (selector : Selector) : Nat → Tally → List Device → Tally × List Device
  | _, t, [] => (t, [])
  | place, t, d :: rest =>
    let matched := selector.accepts d
    let (t, rest) := pass selector (place + 1) (if matched then t.add place else t) rest
    (t, { d with selected := matched } :: rest)

def vet (d : Device) : Except SelectionError Device :=
  if d.state = Device.unauthorizedState then .error (.unauthorized d.serial)
  else if d.isReady then .ok d
  else .error (.badState d.serial d.state)

/-- What comes of a pass that has marked a listing: how many devices matched, and the first of them
with its place. The one device that matched is taken out of the listing if it can be used. -/
def conclude (selector : Selector) (marked : List Device) :
    Nat → Option (Nat × Device) → Except SelectionError Device × List Device
  | 1, some (place, d) =>
    match vet d with
    | .error e => (.error e, marked)
    | .ok d => (.ok d, marked.eraseIdx place)
  | 0, _ | _, none => (.error (.notFound selector marked), marked)
  | _, some _ => (.error (.ambiguous selector (marked.filter (·.selected))), marked)

/-- Resolve a selector against a listing: the chosen device or why there is none, and the listing
that is left. -/
def select (devices : List Device) (selector : Selector) :
    Except SelectionError Device × List Device :=
  let (tally, marked) := pass selector 0 {} devices
  let first? := tally.first?.bind fun place => (marked[place]?).map (place, ·)
  conclude selector marked tally.count first?

structure Round where
  selector : Selector
  before : List Device
  result : Except SelectionError Device
  after : List Device

/-- Selections one after another, each on the listing that the one before it left. -/
def rounds : List Device → List Selector → List Round
  | _, [] => []
  | devices, selector :: rest =>
    let (result, left) := select devices selector
    ⟨selector, devices, result, left⟩ :: rounds left rest

end Selection
end DebugBridge
