import SimControl.Main
import SimControl.Device.Script
import SimControl.Envelope
import SimControl.Registry.Discovery
import SimControl.Proofs.Binary64
import SimControl.Proofs.Catalog.Enumeration
import SimControl.Proofs.CommandLine.DryRun
import SimControl.Proofs.Device.Declared
import SimControl.Proofs.Device.Duration
import SimControl.Proofs.Device.Echo
import SimControl.Proofs.Device.Integer
import SimControl.Proofs.Device.KeyPress
import SimControl.Proofs.Device.Misshapen
import SimControl.Proofs.Registry.App
import SimControl.Proofs.Registry.Case
import SimControl.Proofs.Registry.Conflict
import SimControl.Proofs.Registry.Extension
import SimControl.Proofs.Registry.Payload
import SimControl.Proofs.Registry.Permutation
import SimControl.Proofs.Registry.Phrasing
import SimControl.Proofs.Registry.Ranking
import SimControl.Proofs.Registry.Suggestion
import SimControl.Proofs.Runner.Button
import SimControl.Proofs.Runner.Failure
import SimControl.Proofs.Runner.Flatten
import SimControl.Proofs.Runner.KeySequence
import SimControl.Proofs.Runner.Order
import SimControl.Proofs.Runner.Record
import SimControl.Proofs.Runner.Rejection
import SimControl.Proofs.Runner.Timeout
import SimControl.Proofs.Settings
import SimControl.Proofs.Text.Blank
import SimControl.Proofs.Registry.Shape
import SimControl.Proofs.Runner.Retry
import SimControl.Proofs.Json.Container
import SimControl.Proofs.Json.ReadBack
import SimControl.Proofs.Json.Schema
import SimControl.Proofs.Registry.ToolSchema
import SimControl.Proofs.Result
import SimControl.Proofs.Runner.Report
