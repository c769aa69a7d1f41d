import RouteMatch.Catalogue
import RouteMatch.Main
import RouteMatch.Number.Numeral
import RouteMatch.Session
import RouteMatch.Proofs.Template.Parts
import RouteMatch.Proofs.Template.Transcription
import RouteMatch.Proofs.Evaluation.Conditions
import RouteMatch.Proofs.Pattern.Sketch
import RouteMatch.Proofs.Pattern.Traversal
import RouteMatch.Proofs.Template.Walk
import RouteMatch.Proofs.Path.PlainCheck
import RouteMatch.Proofs.Path.SimpleTemplate
import RouteMatch.Proofs.Text.PercentEncoding
import RouteMatch.Proofs.Path.Substitution
import RouteMatch.Proofs.Text.Integer
import RouteMatch.Proofs.Attributes.Environment
import RouteMatch.Proofs.Attributes.Headers
import RouteMatch.Proofs.Negotiation.Search
import RouteMatch.Proofs.Negotiation.Acceptance
import RouteMatch.Proofs.Pattern.Confined
import RouteMatch.Proofs.Pattern.Standalone
import RouteMatch.Proofs.Template.Bodies
import RouteMatch.Proofs.Pattern.Counts
import RouteMatch.Proofs.Route.Failures
import RouteMatch.Proofs.Route.Bodies
import RouteMatch.Proofs.Pattern.Captures
import RouteMatch.Proofs.Template.OptionalGroup
import RouteMatch.Proofs.Template.Embedding
import RouteMatch.Proofs.Path.EarlierNames
import RouteMatch.Proofs.Template.StrayBraces
import RouteMatch.Proofs.Path.CatchAll
import RouteMatch.Proofs.Session.Isolation
import RouteMatch.Proofs.Json.Decoding
import RouteMatch.Proofs.CommandLine.Agreement
import RouteMatch.Proofs.Template.Placeholders
import RouteMatch.Proofs.Route.Requirements
import RouteMatch.Proofs.Negotiation.LaterEntries
import RouteMatch.Proofs.Negotiation.Scan
import RouteMatch.Proofs.Path.DoubleEncoding
import RouteMatch.Proofs.Text.PercentDecoding
import RouteMatch.Proofs.Evaluation.Overlay
import RouteMatch.Proofs.Evaluation.WildcardPieces
import RouteMatch.Proofs.Evaluation.ConstraintOrder
import RouteMatch.Proofs.Evaluation.Tightening
import RouteMatch.Proofs.Evaluation.ConnectionFacts
import RouteMatch.Proofs.Evaluation.Merge
import RouteMatch.Proofs.Evaluation.Limits
import RouteMatch.Proofs.Session.Log
import RouteMatch.Proofs.Pattern.Places
import RouteMatch.Proofs.Route.RepeatedNames
import RouteMatch.Proofs.Pattern.Idle
import RouteMatch.Proofs.Pattern.Successes
import RouteMatch.Proofs.Pattern.Ending
import RouteMatch.Proofs.Template.TrailingSlashes
import RouteMatch.Proofs.Route.AddedWildcard
import RouteMatch.Proofs.Template.FirstGroup
import RouteMatch.Proofs.Evaluation.Verdict
