import JavaChecker.Check.Run
import JavaChecker.Codec.Model
import JavaChecker.Config.Basic
import JavaChecker.Config.Discovery
import JavaChecker.Config.Level
import JavaChecker.Diagnostic
import JavaChecker.Document.Decode
import JavaChecker.Document.Dialect
import JavaChecker.Files.Snapshot
import JavaChecker.Json.Reader
import JavaChecker.Json.Writer
import JavaChecker.Log.Buffer
import JavaChecker.Log.Line
import JavaChecker.Log.Sinks
import JavaChecker.Number.Format
import JavaChecker.Proofs.Appending
import JavaChecker.Proofs.ArgumentRule
import JavaChecker.Proofs.Arguments
import JavaChecker.Proofs.Buffer
import JavaChecker.Proofs.CheckLog
import JavaChecker.Proofs.Chunks
import JavaChecker.Proofs.Codec
import JavaChecker.Proofs.Discovery
import JavaChecker.Proofs.Embedding
import JavaChecker.Proofs.FilterMerge
import JavaChecker.Proofs.FilterText
import JavaChecker.Proofs.Formats
import JavaChecker.Proofs.Growth
import JavaChecker.Proofs.Inheritance
import JavaChecker.Proofs.InheritedMethods
import JavaChecker.Proofs.JsonLog
import JavaChecker.Proofs.JsonText
import JavaChecker.Proofs.LevelText
import JavaChecker.Proofs.LogStream
import JavaChecker.Proofs.Lookup
import JavaChecker.Proofs.LossyText
import JavaChecker.Proofs.Names
import JavaChecker.Proofs.Policies
import JavaChecker.Proofs.Reachable
import JavaChecker.Proofs.Redefinition
import JavaChecker.Proofs.Regrouping
import JavaChecker.Proofs.Renaming
import JavaChecker.Proofs.RenderedExprs
import JavaChecker.Proofs.RenderedTypes
import JavaChecker.Proofs.Renumbering
import JavaChecker.Proofs.Replacement
import JavaChecker.Proofs.SearchSteps
import JavaChecker.Proofs.Settings
import JavaChecker.Proofs.Subtyping
import JavaChecker.Proofs.TomlDocument
import JavaChecker.Proofs.TwoPhase
import JavaChecker.Proofs.Typing
import JavaChecker.Proofs.Unrolling
import JavaChecker.Proofs.Updates
import JavaChecker.Proofs.Visit
import JavaChecker.Text.Alphanumeric
import JavaChecker.Text.Blank
import JavaChecker.Text.Hidden
import JavaChecker.Text.Lines
import JavaChecker.Text.Pieces
import JavaChecker.Text.Quoted
import JavaChecker.Text.Reader
import JavaChecker.Text.Utf8
import JavaChecker.Toml.Reader
