import ConceptMap.Main
import ConceptMap.Map.Operation
import ConceptMap.Proofs.Text.Lines
import ConceptMap.Proofs.Text.Token
import ConceptMap.Proofs.Document.Reading
import ConceptMap.Proofs.Predicate
import ConceptMap.Proofs.Document.Grammar
import ConceptMap.Proofs.Graph.Store
import ConceptMap.Proofs.Map.Reachable
import ConceptMap.Proofs.Document.Written
import ConceptMap.Proofs.Map.RoundTrip
import ConceptMap.Proofs.Map.Normalization
import ConceptMap.Proofs.Map.Faithful
import ConceptMap.Proofs.Document.Fault
import ConceptMap.Proofs.Document.Append
import ConceptMap.Proofs.Document.LineEnding
import ConceptMap.Proofs.Map.Rebuilt
import ConceptMap.Proofs.Map.Request
import ConceptMap.Proofs.Map.Restricted
import ConceptMap.Proofs.Map.Relationship
import ConceptMap.Proofs.CommandLine.Session
import ConceptMap.Proofs.CommandLine.Commands
import ConceptMap.Proofs.CommandLine.Export
import ConceptMap.Proofs.Graph.Distance
import ConceptMap.Proofs.Graph.Search
import ConceptMap.Proofs.Map.Visible
import ConceptMap.Proofs.Map.Distance
import ConceptMap.Proofs.Map.VisibleDistance
import ConceptMap.Proofs.Map.Selection
import ConceptMap.Proofs.Map.Monotone
import ConceptMap.Proofs.Dot.Token
import ConceptMap.Proofs.Dot.Drawing
import ConceptMap.Proofs.Map.SetOrder
import ConceptMap.Proofs.CommandLine.Looking
import ConceptMap.Proofs.CommandLine.Rows
import ConceptMap.Proofs.CommandLine.Parts
import ConceptMap.Proofs.CommandLine.SetOrder
import ConceptMap.Proofs.Export.Json
import ConceptMap.Proofs.Files.Tree
import ConceptMap.Proofs.Map.Saved
import ConceptMap.Proofs.Text.ControlSequence
import ConceptMap.Proofs.Text.Utf8
import ConceptMap.Proofs.CommandLine.Output
import ConceptMap.Proofs.Map.Grounded
import ConceptMap.Proofs.CommandLine.Tables
import ConceptMap.Proofs.CommandLine.Showing
import ConceptMap.Proofs.Export.Payload
import ConceptMap.Proofs.Export.Sketch
import ConceptMap.Proofs.Map.Invariant
import ConceptMap.Proofs.Map.Shared
import ConceptMap.Proofs.Preferences
import ConceptMap.Proofs.CommandLine.Settings
import ConceptMap.Proofs.Map.Neighborhood
import ConceptMap.Proofs.Document.Warning
import ConceptMap.Proofs.Predicate.Reading
import ConceptMap.Proofs.Toml.Document
import ConceptMap.Proofs.Preferences.Loaded
import ConceptMap.Proofs.CommandLine.Configured
import ConceptMap.Proofs.Graph.Collision
import ConceptMap.Proofs.Dot.Escape
import ConceptMap.Proofs.Document.Summary
