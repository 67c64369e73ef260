import HeaderAbi.Text.Blank
import HeaderAbi.Text.Measure
import HeaderAbi.Uid
import HeaderAbi.Category
import HeaderAbi.Builtin
import HeaderAbi.Data.Decode
import HeaderAbi.Json.Reader
import HeaderAbi.Json.Printer
import HeaderAbi.TypeRef.Spelling
import HeaderAbi.TypeRef.Form
import HeaderAbi.Entity.Record
import HeaderAbi.Entity.EnumType
import HeaderAbi.Entity.Function
import HeaderAbi.Error
import HeaderAbi.Snapshot.Table
import HeaderAbi.Snapshot.Draft
import HeaderAbi.Snapshot.Merge
import HeaderAbi.Snapshot.Fingerprint
import HeaderAbi.Facts.Reader
import HeaderAbi.Extraction
import HeaderAbi.Dump.Binary
import HeaderAbi.Yaml.Printer
import HeaderAbi.Yaml.Reader
import HeaderAbi.Dump.Content
import HeaderAbi.Unicode.Words
import HeaderAbi.Unicode.GeneralCategory
import HeaderAbi.Unicode.Script
import HeaderAbi.Unicode.CaseFold
import HeaderAbi.Pattern.Parser
import HeaderAbi.Diff.Engine
import HeaderAbi.Unicode.Width
import HeaderAbi.Report.Format
import HeaderAbi.Settings.Basic
import HeaderAbi.Settings.Form
import HeaderAbi.Settings.Layer
import HeaderAbi.Settings.Preset
import HeaderAbi.Settings.File
import HeaderAbi.Settings.Check
import HeaderAbi.Settings.Example
import HeaderAbi.Settings.Schema
import HeaderAbi.Host.Memory
import HeaderAbi.Command.Dump
import HeaderAbi.Command.Diff
import HeaderAbi.Command.Validate
import HeaderAbi.Command.SettingsFile
import HeaderAbi.CommandLine.Options
import HeaderAbi.CommandLine.Program
import HeaderAbi.Main
import HeaderAbi.Proofs.CommandLine.Given
import HeaderAbi.Proofs.Data.Form
import HeaderAbi.Proofs.Data.Numeral
import HeaderAbi.Proofs.Data.Written
import HeaderAbi.Proofs.Diff.ByName
import HeaderAbi.Proofs.Diff.Compare
import HeaderAbi.Proofs.Diff.Congruence
import HeaderAbi.Proofs.Diff.Equivalence
import HeaderAbi.Proofs.Diff.Extension
import HeaderAbi.Proofs.Diff.FieldPairing
import HeaderAbi.Proofs.Diff.FieldPartition
import HeaderAbi.Proofs.Diff.Found
import HeaderAbi.Proofs.Diff.Ignoring
import HeaderAbi.Proofs.Diff.InternalLinkage
import HeaderAbi.Proofs.Diff.Leftover
import HeaderAbi.Proofs.Diff.NamePairs
import HeaderAbi.Proofs.Diff.Presence
import HeaderAbi.Proofs.Diff.Reordering
import HeaderAbi.Proofs.Diff.Sections
import HeaderAbi.Proofs.Diff.Soundness
import HeaderAbi.Proofs.Diff.Summary
import HeaderAbi.Proofs.Diff.Symmetry
import HeaderAbi.Proofs.Diff.TypeChanges
import HeaderAbi.Proofs.Diff.Unchanged
import HeaderAbi.Proofs.Dump.Binary
import HeaderAbi.Proofs.Dump.Blank
import HeaderAbi.Proofs.Dump.Normalization
import HeaderAbi.Proofs.Dump.Rebuild
import HeaderAbi.Proofs.Dump.Refusal
import HeaderAbi.Proofs.Dump.Text
import HeaderAbi.Proofs.Entity.Form
import HeaderAbi.Proofs.Entity.Written
import HeaderAbi.Proofs.Extraction.Mapping
import HeaderAbi.Proofs.Extraction.Naming
import HeaderAbi.Proofs.Extraction.Order
import HeaderAbi.Proofs.Extraction.Outcome
import HeaderAbi.Proofs.Extraction.Respelling
import HeaderAbi.Proofs.Extraction.Signatures
import HeaderAbi.Proofs.Extraction.Staging
import HeaderAbi.Proofs.Extraction.Standing
import HeaderAbi.Proofs.Json.Lexing
import HeaderAbi.Proofs.Json.Reading
import HeaderAbi.Proofs.Packed.Codec
import HeaderAbi.Proofs.Packed.Entity
import HeaderAbi.Proofs.Report.CsvReading
import HeaderAbi.Proofs.Report.Grouping
import HeaderAbi.Proofs.Report.MarkdownCells
import HeaderAbi.Proofs.Report.MarkdownLines
import HeaderAbi.Proofs.Report.TableColumns
import HeaderAbi.Proofs.Settings.Layers
import HeaderAbi.Proofs.Snapshot.Agreement
import HeaderAbi.Proofs.Snapshot.ArrayExtent
import HeaderAbi.Proofs.Snapshot.Building
import HeaderAbi.Proofs.Snapshot.CanonicalText
import HeaderAbi.Proofs.Snapshot.ExactLayout
import HeaderAbi.Proofs.Snapshot.InsertionOrder
import HeaderAbi.Proofs.Snapshot.Items
import HeaderAbi.Proofs.Snapshot.Merging
import HeaderAbi.Proofs.Snapshot.Table
import HeaderAbi.Proofs.Snapshot.Union
import HeaderAbi.Proofs.Snapshot.UnionLaws
import HeaderAbi.Proofs.Snapshot.Validity
import HeaderAbi.Proofs.TypeRef.Brackets
import HeaderAbi.Proofs.TypeRef.Declarator
import HeaderAbi.Proofs.TypeRef.FunctionTypes
import HeaderAbi.Proofs.TypeRef.Identity
import HeaderAbi.Proofs.Uid
import HeaderAbi.Proofs.Yaml.Block
import HeaderAbi.Proofs.Yaml.Layout
import HeaderAbi.Proofs.Yaml.Lexing
import HeaderAbi.Proofs.Yaml.Node
import HeaderAbi.Proofs.Yaml.Place
import HeaderAbi.Proofs.Yaml.Plain
import HeaderAbi.Proofs.Yaml.Quoted
import HeaderAbi.Proofs.Yaml.Reading
import HeaderAbi.Proofs.Yaml.Stepping
import HeaderAbi.Proofs.Yaml.Word
