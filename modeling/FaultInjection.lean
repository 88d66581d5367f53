import FaultInjection.Http.DemoPlane
import FaultInjection.Json.Parser
import FaultInjection.Main
import FaultInjection.ServerEnd
import FaultInjection.Settings.Json
import FaultInjection.Settings.Load
import FaultInjection.Proofs.Term.Chain
import FaultInjection.Proofs.Text.Blank
import FaultInjection.Proofs.Decimal.Nearest
import FaultInjection.Proofs.Decimal.Numeral
import FaultInjection.Proofs.Term.Grammar
import FaultInjection.Proofs.Duration
import FaultInjection.Proofs.Result
import FaultInjection.Proofs.Term.Argument
import FaultInjection.Proofs.Term.Shape
import FaultInjection.Proofs.Term.Gate
import FaultInjection.Proofs.Term.Action
import FaultInjection.Proofs.Term.Parse
import FaultInjection.Proofs.Position
import FaultInjection.Proofs.Registry.Basic
import FaultInjection.Proofs.Draws
import FaultInjection.Proofs.Registry.History
import FaultInjection.Proofs.Registry.Answers
import FaultInjection.Proofs.Assignment
import FaultInjection.Proofs.Registry.Export
import FaultInjection.Proofs.Http.BulkSet
import FaultInjection.Proofs.Http.Atomicity
import FaultInjection.Proofs.Duration.Row
import FaultInjection.Proofs.Run
import FaultInjection.Proofs.Http.Listing
import FaultInjection.Proofs.Http.BulkNames
import FaultInjection.Proofs.Journal
import FaultInjection.Proofs.Text.Percent
import FaultInjection.Proofs.Url.Base
import FaultInjection.Proofs.Url.Segment
import FaultInjection.Proofs.CommandLine.Dispatch
import FaultInjection.Proofs.Http.Target
import FaultInjection.Proofs.Http.ListingLines
import FaultInjection.Proofs.Term.Escaping
import FaultInjection.Proofs.Decimal.Shortest
import FaultInjection.Proofs.Decimal.Digits
import FaultInjection.Proofs.Decimal.Format
import FaultInjection.Proofs.Term.Display
import FaultInjection.Proofs.Json.Grammar
import FaultInjection.Proofs.Json.Literal
import FaultInjection.Proofs.Http.ReturnedValue
import FaultInjection.Proofs.Registry.Composition
import FaultInjection.Proofs.Demo.Labels
import FaultInjection.Proofs.Interchange
import FaultInjection.Proofs.Http.DemoCalls
import FaultInjection.Proofs.Name.Construction
import FaultInjection.Proofs.Registry.Registration
import FaultInjection.Proofs.Settings.Place
import FaultInjection.Proofs.Settings.Reading
import FaultInjection.Proofs.Settings.Sources
import FaultInjection.Proofs.Settings.Isolation
import FaultInjection.Proofs.Decimal.Double
import FaultInjection.Proofs.Settings.TextSettings
import FaultInjection.Proofs.Term.Splitting
import FaultInjection.Proofs.Http.RequestId
import FaultInjection.Proofs.Json.Reading
import FaultInjection.Proofs.Settings.Routes
