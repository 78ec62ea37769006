import MacAgent.Config.Yaml
import MacAgent.Daemon.Launch
import MacAgent.Json.Decode
import MacAgent.Json.Encode
import MacAgent.Json.Number
import MacAgent.Main
import MacAgent.Proofs.Agent.Draining
import MacAgent.Proofs.Agent.Extension
import MacAgent.Proofs.Agent.Frame
import MacAgent.Proofs.Agent.Greeted
import MacAgent.Proofs.Agent.Handle
import MacAgent.Proofs.Agent.Indifference
import MacAgent.Proofs.Agent.Mirror
import MacAgent.Proofs.Agent.Paired
import MacAgent.Proofs.Agent.Scope
import MacAgent.Proofs.Agent.Settling
import MacAgent.Proofs.Agent.Shutdown
import MacAgent.Proofs.Agent.Surfacing
import MacAgent.Proofs.Agent.Survey
import MacAgent.Proofs.Agent.Tally
import MacAgent.Proofs.Console.Applying
import MacAgent.Proofs.Console.Reading
import MacAgent.Proofs.Console.WellFormed
import MacAgent.Proofs.Console.Written
import MacAgent.Proofs.Cursor.Calls
import MacAgent.Proofs.Cursor.Delivery
import MacAgent.Proofs.Cursor.Feed
import MacAgent.Proofs.Cursor.InPlace
import MacAgent.Proofs.Cursor.Invariant
import MacAgent.Proofs.Cursor.Progress
import MacAgent.Proofs.Cursor.Release
import MacAgent.Proofs.Cursor.Session
import MacAgent.Proofs.Daemon.EndOfInput
import MacAgent.Proofs.Daemon.Ledger
import MacAgent.Proofs.Json.RoundTrip
import MacAgent.Proofs.Loop.Deliveries
import MacAgent.Proofs.Loop.Interruption
import MacAgent.Proofs.Loop.Journal
import MacAgent.Proofs.Memory.Binding
import MacAgent.Proofs.Memory.Changes
import MacAgent.Proofs.Memory.Clearing
import MacAgent.Proofs.Memory.Frame
import MacAgent.Proofs.Memory.Held
import MacAgent.Proofs.Memory.Notices
import MacAgent.Proofs.Memory.Options
import MacAgent.Proofs.Memory.Ordered
import MacAgent.Proofs.Memory.Replay
import MacAgent.Proofs.Memory.Sentinel
import MacAgent.Proofs.Memory.Writers
import MacAgent.Proofs.Memory.Writes
import MacAgent.Proofs.Plane.Alike
import MacAgent.Proofs.Plane.Asked
import MacAgent.Proofs.Plane.Batch
import MacAgent.Proofs.Plane.Keeps
import MacAgent.Proofs.Plane.Paired
import MacAgent.Proofs.Plane.Sends
import MacAgent.Proofs.Plane.Surfacing
import MacAgent.Proofs.Rig.Convergence
import MacAgent.Proofs.Rig.Greeting
import MacAgent.Proofs.Rig.Tapped
import MacAgent.Proofs.Text.Bytes
import MacAgent.Proofs.Text.Numeral
import MacAgent.Proofs.Text.Words
import MacAgent.Proofs.Value.AddressForms
import MacAgent.Proofs.Value.Canonical
import MacAgent.Proofs.Value.InterfaceSet
import MacAgent.Proofs.Value.VlanForms
import MacAgent.Proofs.Value.Written
import MacAgent.Rig.Basic
import MacAgent.Rig.Check
import MacAgent.Rig.Fixture
import MacAgent.Proofs.Value.AddressForms
