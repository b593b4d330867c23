import DebugBridge.Assign
import DebugBridge.Bridge.Answers
import DebugBridge.Bridge.Command
import DebugBridge.Bridge.Error
import DebugBridge.Bridge.Run
import DebugBridge.Cancel.Escalation
import DebugBridge.Cancel.Token
import DebugBridge.Choice
import DebugBridge.CommandLine.Failure
import DebugBridge.CommandLine.Grammar
import DebugBridge.CommandLine.Help
import DebugBridge.CommandLine.Invocation
import DebugBridge.CommandLine.Program
import DebugBridge.CommandLine.Reading
import DebugBridge.CommandLine.Report
import DebugBridge.CommandLine.Run
import DebugBridge.Config.Basic
import DebugBridge.Config.Document
import DebugBridge.Config.Files
import DebugBridge.Config.Store
import DebugBridge.Device
import DebugBridge.Device.Listing
import DebugBridge.Device.Selection
import DebugBridge.Device.Table
import DebugBridge.Event
import DebugBridge.Fault
import DebugBridge.Host.Interrupt
import DebugBridge.Host.Net
import DebugBridge.Host.Process
import DebugBridge.Host.Socket
import DebugBridge.Host.State
import DebugBridge.Host.Time
import DebugBridge.Main
import DebugBridge.PortRange
import DebugBridge.Process.Capture
import DebugBridge.Process.Child
import DebugBridge.Process.Handle
import DebugBridge.Process.Outcome
import DebugBridge.Process.Programs
import DebugBridge.Process.Rendering
import DebugBridge.Process.Reply
import DebugBridge.Process.Script
import DebugBridge.Process.Shell
import DebugBridge.Proofs.Bridge.Calm
import DebugBridge.Proofs.Bridge.Classified
import DebugBridge.Proofs.Bridge.Commands
import DebugBridge.Proofs.Bridge.Course
import DebugBridge.Proofs.Bridge.Diagnostics
import DebugBridge.Proofs.Bridge.Lifecycle
import DebugBridge.Proofs.Bridge.Quietness
import DebugBridge.Proofs.Bridge.Reading
import DebugBridge.Proofs.Bridge.Request
import DebugBridge.Proofs.Bridge.Still
import DebugBridge.Proofs.Bridge.Tended
import DebugBridge.Proofs.Bridge.Truncation
import DebugBridge.Proofs.Bridge.Verdict
import DebugBridge.Proofs.Cancel.Commands
import DebugBridge.Proofs.Cancel.Cut
import DebugBridge.Proofs.Cancel.Effect
import DebugBridge.Proofs.Cancel.Interleaving
import DebugBridge.Proofs.Cancel.Operations
import DebugBridge.Proofs.Cancel.Patience
import DebugBridge.Proofs.Cancel.Quietness
import DebugBridge.Proofs.Cancel.Shadow
import DebugBridge.Proofs.Choice
import DebugBridge.Proofs.CommandLine.Arguments
import DebugBridge.Proofs.CommandLine.Origin
import DebugBridge.Proofs.CommandLine.Program
import DebugBridge.Proofs.CommandLine.Removal
import DebugBridge.Proofs.CommandLine.Target
import DebugBridge.Proofs.Composition
import DebugBridge.Proofs.Config.Document
import DebugBridge.Proofs.Config.Files
import DebugBridge.Proofs.Config.Overlay
import DebugBridge.Proofs.Config.RoundTrip
import DebugBridge.Proofs.Device.Addressing
import DebugBridge.Proofs.Device.Explanation
import DebugBridge.Proofs.Device.Listing
import DebugBridge.Proofs.Device.Rounds
import DebugBridge.Proofs.Device.Selection
import DebugBridge.Proofs.Device.Table
import DebugBridge.Proofs.Host.Activity
import DebugBridge.Proofs.Host.Calls
import DebugBridge.Proofs.Host.Calm
import DebugBridge.Proofs.Host.Composition
import DebugBridge.Proofs.Host.Course
import DebugBridge.Proofs.Host.Custody
import DebugBridge.Proofs.Host.Diagnostics
import DebugBridge.Proofs.Host.Hush
import DebugBridge.Proofs.Host.Interruption
import DebugBridge.Proofs.Host.Kills
import DebugBridge.Proofs.Host.Listening
import DebugBridge.Proofs.Host.SocketCalls
import DebugBridge.Proofs.PortRange
import DebugBridge.Proofs.Process.Rendering
import DebugBridge.Proofs.Process.Script
import DebugBridge.Proofs.Process.Shared
import DebugBridge.Proofs.Route
import DebugBridge.Proofs.Text.Columns
import DebugBridge.Proofs.Text.Encoding
import DebugBridge.Proofs.Text.Lines
import DebugBridge.Proofs.Text.Numeral
import DebugBridge.Proofs.Text.Offsets
import DebugBridge.Proofs.Text.Plain
import DebugBridge.Proofs.Text.Stops
import DebugBridge.Proofs.Toml.Quotation
import DebugBridge.Proofs.Toml.Scan
import DebugBridge.Proofs.Toml.Sections
import DebugBridge.Proofs.Toml.Value
import DebugBridge.Proofs.Tunnel.Attempts
import DebugBridge.Proofs.Tunnel.Cancellation
import DebugBridge.Proofs.Tunnel.Failure
import DebugBridge.Proofs.Tunnel.Life
import DebugBridge.Proofs.Tunnel.Orphans
import DebugBridge.Proofs.Tunnel.Ports
import DebugBridge.Proofs.Tunnel.Refinement
import DebugBridge.Proofs.Tunnel.Retries
import DebugBridge.Proofs.Tunnel.Waiting
import DebugBridge.Proofs.Wireless.Cancellation
import DebugBridge.Proofs.Wireless.Switching
import DebugBridge.Route
import DebugBridge.Scenario.Direct
import DebugBridge.Scenario.Native
import DebugBridge.Scenario.Session
import DebugBridge.Scenario.Step
import DebugBridge.Scenario.WorkingDirectory
import DebugBridge.Text.Blank
import DebugBridge.Text.Columns
import DebugBridge.Text.Digits
import DebugBridge.Text.Lines
import DebugBridge.Text.Padding
import DebugBridge.Text.Printable
import DebugBridge.Text.Quoted
import DebugBridge.Text.Utf8
import DebugBridge.Toml.Codec
import DebugBridge.Toml.Document
import DebugBridge.Toml.Moment
import DebugBridge.Toml.Node
import DebugBridge.Toml.Number
import DebugBridge.Toml.Part
import DebugBridge.Toml.Scan
import DebugBridge.Toml.Text
import DebugBridge.Toml.Writer
import DebugBridge.Tunnel.Connection
import DebugBridge.Tunnel.Negotiation
import DebugBridge.Tunnel.State
import DebugBridge.Wireless
