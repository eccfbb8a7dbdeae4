import FlowGate.Number.Shortest
import FlowGate.Number.Reading
import FlowGate.Text.Case
import FlowGate.Json.Reader
import FlowGate.Json.Writer
import FlowGate.Flow.Writing
import FlowGate.Flow.Draft
import FlowGate.Store
import FlowGate.Text.Utf8
import FlowGate.Yaml.Reader
import FlowGate.Project.Registry
import FlowGate.CommandLine.Run
import FlowGate.Service.Reply
import FlowGate.Main
import FlowGate.Proofs.Finding
import FlowGate.Proofs.Graph.Cycle
import FlowGate.Proofs.Graph.Walk
import FlowGate.Proofs.Graph.Rounds
import FlowGate.Proofs.Flow.Walk
import FlowGate.Proofs.Flow.Verdict
import FlowGate.Proofs.Flow.Path
import FlowGate.Proofs.Flow.Trail
import FlowGate.Proofs.Domain.Duplicates
import FlowGate.Proofs.Events.Index
import FlowGate.Proofs.Project.Loading
import FlowGate.Proofs.Project.Reporting
import FlowGate.Proofs.Project.Coverage
import FlowGate.Proofs.Record.RoundTrip
import FlowGate.Proofs.Value.Text
import FlowGate.Proofs.Flow.Reading
import FlowGate.Proofs.Flow.RoundTrip
import FlowGate.Proofs.Store.History
import FlowGate.Proofs.Store.Key
import FlowGate.Proofs.Store.Gate
import FlowGate.Proofs.Project.Obstacle
import FlowGate.Proofs.Project.Summary
import FlowGate.Proofs.CommandLine.Ending
import FlowGate.Proofs.Flow.Checkable
import FlowGate.Proofs.Flow.Overflow
import FlowGate.Proofs.Number.Range
import FlowGate.Proofs.Record.Overflow
import FlowGate.Proofs.Flow.Diagnosis
import FlowGate.Proofs.Json.RoundTrip
import FlowGate.Proofs.CommandLine.Output
import FlowGate.Proofs.CommandLine.Filter
import FlowGate.Proofs.Project.Lookup
import FlowGate.Proofs.Project.PerDomain
import FlowGate.Proofs.Flow.Order
import FlowGate.Proofs.Events.Diagnosis
import FlowGate.Proofs.Flow.Trigger
import FlowGate.Proofs.Service.Request
import FlowGate.Proofs.Service.Refinement
import FlowGate.Proofs.Record.Conversion
import FlowGate.Proofs.Record.Rewriting
import FlowGate.Proofs.Record.Grammar
import FlowGate.Proofs.Flow.Grammar
import FlowGate.Proofs.Flow.Attribution
import FlowGate.Proofs.Project.Contents
import FlowGate.Proofs.Domain.Counting
import FlowGate.Proofs.Project.Failing
