import CrudForge.Artifact
import CrudForge.Command.Arguments
import CrudForge.Command.Console
import CrudForge.Command.Program
import CrudForge.Command.Scaffold
import CrudForge.Command.ScaffoldText
import CrudForge.Command.Stubs
import CrudForge.Command.StubsText
import CrudForge.Decimal.Real64
import CrudForge.Decimal.Shortest
import CrudForge.Diff.Compact
import CrudForge.Diff.Lines
import CrudForge.Diff.Middle
import CrudForge.Diff.Script
import CrudForge.Field.Basic
import CrudForge.Field.Kind
import CrudForge.Field.List
import CrudForge.FileSystem.Access
import CrudForge.FileSystem.Basic
import CrudForge.FileSystem.Change
import CrudForge.FileSystem.Store
import CrudForge.Generation.Generator
import CrudForge.Layout
import CrudForge.Main
import CrudForge.Markup
import CrudForge.Naming.Basic
import CrudForge.Naming.Plural
import CrudForge.Path
import CrudForge.Route
import CrudForge.Settings.Basic
import CrudForge.Settings.Environment
import CrudForge.Settings.Load
import CrudForge.Settings.Origin
import CrudForge.Settings.Stack
import CrudForge.Settings.Value
import CrudForge.Stub.Builtin
import CrudForge.Stub.Source
import CrudForge.Stub.Template
import CrudForge.Text.Blank
import CrudForge.Text.Case
import CrudForge.Text.CaseTable
import CrudForge.Text.EscapedTable
import CrudForge.Text.Lines
import CrudForge.Text.Quoted
import CrudForge.Text.Split
import CrudForge.Text.Word
import CrudForge.Text.WordTable
import CrudForge.Toml.Document
import CrudForge.Toml.Number
import CrudForge.Toml.Quoting
import CrudForge.Toml.Reader
import CrudForge.Toml.Tree
import CrudForge.Proofs.Path.Steps
import CrudForge.Proofs.FileSystem.Walk
import CrudForge.Proofs.FileSystem.Writes
import CrudForge.Proofs.Text.Ascii
import CrudForge.Proofs.Naming.Plural
import CrudForge.Proofs.Generation.Commit
import CrudForge.Proofs.Path.Names
import CrudForge.Proofs.FileSystem.Region
import CrudForge.Proofs.Generation.Standard
import CrudForge.Proofs.Generation.Session
import CrudForge.Proofs.Text.Trim
import CrudForge.Proofs.Field.Spelling
import CrudForge.Proofs.Field.SpelledList
import CrudForge.Proofs.FileSystem.Detour
import CrudForge.Proofs.Stub.Template
import CrudForge.Proofs.Command.Overwrite
import CrudForge.Proofs.FileSystem.Descent
import CrudForge.Proofs.Generation.Render
import CrudForge.Proofs.Generation.Report
import CrudForge.Proofs.Command.Course
import CrudForge.Proofs.Command.Effects
import CrudForge.Proofs.Command.Rehearsal
import CrudForge.Proofs.Stub.Publication
import CrudForge.Proofs.Field.Grammar
import CrudForge.Proofs.Field.Merge
import CrudForge.Proofs.Markup.Control
import CrudForge.Proofs.Markup.Required
import CrudForge.Proofs.Naming.Label
import CrudForge.Proofs.Markup.Identity
import CrudForge.Proofs.Text.Lines
import CrudForge.Proofs.Generation.Listed
import CrudForge.Proofs.Markup.Columns
import CrudForge.Proofs.Path.Components
import CrudForge.Proofs.Generation.Places
import CrudForge.Proofs.Generation.Outcome
import CrudForge.Proofs.Text.Upper
import CrudForge.Proofs.Stub.Parts
import CrudForge.Proofs.Markup.Braceless
import CrudForge.Proofs.Generation.Completion
import CrudForge.Proofs.Text.ByteOrder
import CrudForge.Proofs.FileSystem.Below
import CrudForge.Proofs.Stub.Survey
import CrudForge.Proofs.Stub.Additions
import CrudForge.Proofs.Path.Relative
import CrudForge.Proofs.Markup.OpenTag
import CrudForge.Proofs.Markup.Forms
import CrudForge.Proofs.Settings.Members
import CrudForge.Proofs.Settings.Layers
import CrudForge.Proofs.Stub.Lines
import CrudForge.Proofs.Generation.Lists
import CrudForge.Proofs.Generation.Routes
import CrudForge.Proofs.Diff.Script
import CrudForge.Proofs.Diff.Printed
import CrudForge.Proofs.Command.Differences
import CrudForge.Proofs.Naming.Words
