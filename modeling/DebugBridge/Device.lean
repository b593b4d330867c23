/-!
# Devices

One entry of a device listing. How a device is attached is read off the shape of its serial and
never stored: an emulator names itself, a network device has a colon between address and port, and
every other serial is a hardware serial.
-/

namespace DebugBridge

structure Device where
  serial : String
  state : String
  model : Option String := none
  /-- Whether the last selection over the listing matched the device. -/
  selected : Bool := false
  deriving DecidableEq, Repr

/-- How a device is attached to the host. -/
inductive Attachment where
  | emulator
  | usb
  | tcpip
  deriving DecidableEq, Repr

/-- The name of an attachment in listings. -/
def Attachment.label : Attachment → String
  | .emulator => "emulator"
  | .usb => "usb"
  | .tcpip => "tcpip"

def Attachment.ofSerial (serial : String) : Attachment :=
  if "emulator-".toList.isPrefixOf serial.toList then .emulator
  else if ':' ∈ serial.toList then .tcpip
  else .usb

def Device.attachment (d : Device) : Attachment := .ofSerial d.serial

def Device.readyState : String := "device"

def Device.unauthorizedState : String := "unauthorized"

def Device.isReady (d : Device) : Bool := d.state = Device.readyState

end DebugBridge
