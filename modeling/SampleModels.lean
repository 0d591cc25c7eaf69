import SampleModels.Association
import SampleModels.Bytes
import SampleModels.CommandLine.Arguments
import SampleModels.CommandLine.RootName
import SampleModels.CommandLine.Run
import SampleModels.Fault
import SampleModels.Files.Generate
import SampleModels.Files.Path
import SampleModels.Files.Tree
import SampleModels.Generation
import SampleModels.Inference
import SampleModels.IoError
import SampleModels.Json.Basic
import SampleModels.Json.Magnitude
import SampleModels.Json.Reader
import SampleModels.LineBuffer.Basic
import SampleModels.LineBuffer.Script
import SampleModels.Log.Directive
import SampleModels.Log.Event
import SampleModels.Log.Filter
import SampleModels.Log.Pattern
import SampleModels.Main
import SampleModels.Model
import SampleModels.Naming
import SampleModels.Pointer
import SampleModels.Proofs.BuiltInNames
import SampleModels.Proofs.ClassNames
import SampleModels.Proofs.Collisions
import SampleModels.Proofs.CommandLine.DefaultNames
import SampleModels.Proofs.CommandLine.Effects
import SampleModels.Proofs.Decoding.Blocks
import SampleModels.Proofs.Decoding.Classes
import SampleModels.Proofs.Decoding.Headers
import SampleModels.Proofs.Decoding.Literals
import SampleModels.Proofs.Decoding.Rows
import SampleModels.Proofs.Decoding.Statements
import SampleModels.Proofs.Decoding.Trees
import SampleModels.Proofs.Delivery
import SampleModels.Proofs.DocumentOrder
import SampleModels.Proofs.EventLog
import SampleModels.Proofs.Failure
import SampleModels.Proofs.Files.Replacement
import SampleModels.Proofs.Files.Writing
import SampleModels.Proofs.Inspection
import SampleModels.Proofs.IssuedNames
import SampleModels.Proofs.KeyOrder
import SampleModels.Proofs.Layout.Absorption
import SampleModels.Proofs.Layout.Alignment
import SampleModels.Proofs.Layout.Balance
import SampleModels.Proofs.Layout.Classes
import SampleModels.Proofs.Layout.Lines
import SampleModels.Proofs.Layout.Preorder
import SampleModels.Proofs.Layout.Printable
import SampleModels.Proofs.Layout.RunningLevels
import SampleModels.Proofs.Layout.Scaling
import SampleModels.Proofs.Layout.Steps
import SampleModels.Proofs.Layout.Width
import SampleModels.Proofs.Layout.Workbenches
import SampleModels.Proofs.LetterCase
import SampleModels.Proofs.Locations
import SampleModels.Proofs.NameRequests
import SampleModels.Proofs.PointerText
import SampleModels.Proofs.Reading
import SampleModels.Proofs.References
import SampleModels.Proofs.RootNames
import SampleModels.Proofs.Shape
import SampleModels.Proofs.Submodels
import SampleModels.Proofs.Walk.Entries
import SampleModels.Proofs.Walk.Marks
import SampleModels.Proofs.Walk.Outcome
import SampleModels.Proofs.Walk.Outline
import SampleModels.Proofs.Walk.Plan
import SampleModels.Proofs.Walk.Renaming
import SampleModels.Proofs.Walk.Visits
import SampleModels.Receiver
import SampleModels.Settings
import SampleModels.Sink
import SampleModels.Source
import SampleModels.Terminal
import SampleModels.Text.CamelCase
import SampleModels.Text.Case
import SampleModels.Text.CodePoints
import SampleModels.Text.Digit
import SampleModels.Text.Escape
import SampleModels.Text.Hidden
import SampleModels.Text.Letter
import SampleModels.Text.Split
