import VectorFamily.Main
import VectorFamily.FileSystem.Disk
import VectorFamily.Builtin.Interface
import VectorFamily.Builtin.Implementation
import VectorFamily.Proofs.Pattern.Match
import VectorFamily.Proofs.Pattern.Scan
import VectorFamily.Proofs.Specialization.Mixed
import VectorFamily.Proofs.Text.Occurrence
import VectorFamily.Proofs.Specialization.Casts
import VectorFamily.Proofs.Specialization.CastsKept
import VectorFamily.Proofs.Pattern.Lines
import VectorFamily.Proofs.Registry.Accepted
import VectorFamily.Proofs.Rule.Lines
import VectorFamily.Proofs.Specialization.Lines
import VectorFamily.Proofs.Template.Markers
import VectorFamily.Proofs.Template.Sections
import VectorFamily.Proofs.FileSystem.Locations
import VectorFamily.Proofs.FileSystem.Change
import VectorFamily.Proofs.FileSystem.Operations
import VectorFamily.Proofs.FileSystem.Files
import VectorFamily.Proofs.FileSystem.Scratch
import VectorFamily.Proofs.FileSystem.Way
import VectorFamily.Proofs.Output.Commit
import VectorFamily.Proofs.CommandLine.Tree
import VectorFamily.Proofs.Output.Names
import VectorFamily.Proofs.Pattern.Token
import VectorFamily.Proofs.Specialization.Export
import VectorFamily.Proofs.Pattern.Segments
import VectorFamily.Proofs.Pattern.Spares
import VectorFamily.Proofs.Specialization.Metadata
import VectorFamily.Proofs.Pattern.Deletion
import VectorFamily.Proofs.Specialization.PrunedOutput
import VectorFamily.Proofs.Specialization.Pruning
import VectorFamily.Proofs.Registry.WellFormed
import VectorFamily.Proofs.Output.Stopped
import VectorFamily.Proofs.Output.CanonicalPair
import VectorFamily.Proofs.Pattern.Find
import VectorFamily.Proofs.Text.Indented
import VectorFamily.Proofs.GenericHeader.Constructor
import VectorFamily.Proofs.Output.Order
import VectorFamily.Proofs.Text.Nesting
import VectorFamily.Proofs.Pattern.Recognition
import VectorFamily.Proofs.GenericHeader.Assembly
import VectorFamily.Proofs.Pattern.Expansion
import VectorFamily.Proofs.GenericHeader.Functions
import VectorFamily.Proofs.GenericHeader.Braces
import VectorFamily.Proofs.GenericHeader.Placeholders
import VectorFamily.Proofs.Pattern.Cleared
import VectorFamily.Proofs.Pattern.Cut
import VectorFamily.Proofs.Template.Slots
import VectorFamily.Proofs.Specialization.Fitting
import VectorFamily.Proofs.Rule.Joined
import VectorFamily.Proofs.Rule.Decided
import VectorFamily.Proofs.Specialization.SlotRules
import VectorFamily.Proofs.Specialization.FilledRows
import VectorFamily.Proofs.Specialization.Leftovers
import VectorFamily.Proofs.Specialization.PrunedRows
import VectorFamily.Proofs.Specialization.UpToDate
import VectorFamily.Proofs.Specialization.CompleteInterface
import VectorFamily.Proofs.Specialization.CompleteImplementation
import VectorFamily.Proofs.GenericHeader.Rendering
import VectorFamily.Proofs.Template.Rows
import VectorFamily.Proofs.Template.LineEnds
import VectorFamily.Proofs.Output.Returns
import VectorFamily.Proofs.Output.Confined
import VectorFamily.Proofs.Output.Digest
import VectorFamily.Proofs.Builtin.Rendering
import VectorFamily.Proofs.Output.FoldedNames
import VectorFamily.Proofs.Output.Contents
import VectorFamily.Proofs.Registry.Keys
import VectorFamily.Proofs.Specialization.Streams
import VectorFamily.Proofs.Output.Braces
import VectorFamily.Proofs.Text.Runs
import VectorFamily.Proofs.Pattern.Runs
import VectorFamily.Proofs.Specialization.ClassNames
import VectorFamily.Proofs.GenericHeader.SectionRows
import VectorFamily.Proofs.GenericHeader.HelperRows
import VectorFamily.Proofs.Pattern.Spans
import VectorFamily.Proofs.Specialization.CastsTogether
import VectorFamily.Proofs.Specialization.IncludedInterface
import VectorFamily.Proofs.Pattern.Templates
