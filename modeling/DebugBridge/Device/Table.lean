import DebugBridge.Device
import DebugBridge.Text.Padding

/-!
# The printed listing

One line per device: a mark on the selected ones, the attachment in parentheses, serial, state and
model in aligned columns.
-/

namespace DebugBridge.Device

open Text

def row (d : Device) : String :=
  let mark := if d.selected then "-->" else "   "
  let attachment := String.ofList (padLeft 10 s!"({d.attachment.label})".toList)
  let serial := String.ofList (padRight 20 d.serial.toList)
  let state := String.ofList (padLeft 12 d.state.toList)
  let model := d.model.getD ""
  s!"    {mark} {attachment}  {serial}  {state}  {model}"

def table (devices : List Device) : List String := devices.map row

end DebugBridge.Device
