import LogDigest.Export.Bounded
import LogDigest.Export.Buffered
import LogDigest.Main
import LogDigest.Run.Trail
import LogDigest.Proofs.Run.Act
import LogDigest.Proofs.Run.Closing
import LogDigest.Proofs.Run.Schedules
import LogDigest.Proofs.Run.Processing
import LogDigest.Proofs.Run.Shift
import LogDigest.Proofs.Run.Twins
import LogDigest.Proofs.Run.Reading
import LogDigest.Proofs.Run.TwinStages
import LogDigest.Proofs.Run.FreshRun
import LogDigest.Proofs.Run.Standard
import LogDigest.Proofs.Summary
import LogDigest.Proofs.Settings
import LogDigest.Proofs.Run.Returns
import LogDigest.Proofs.Run.Reference
import LogDigest.Proofs.Run.Course
import LogDigest.Proofs.Store
import LogDigest.Proofs.Run.Writing
import LogDigest.Proofs.Run.Saving
import LogDigest.Proofs.Run.Cancelling
import LogDigest.Proofs.Document
import LogDigest.Proofs.Line.Combined
import LogDigest.Proofs.Compiling
import LogDigest.Proofs.Composing
import LogDigest.Proofs.Permissive
import LogDigest.Proofs.Line.Access
import LogDigest.Proofs.Line.Batch
import LogDigest.Proofs.Run.Lines
import LogDigest.Proofs.Printing
import LogDigest.Proofs.Identity
import LogDigest.Proofs.Run.Attribution
import LogDigest.Proofs.Bounded
import LogDigest.Proofs.Run.Rendering
import LogDigest.Proofs.Validation
import LogDigest.Proofs.Csv
import LogDigest.Proofs.Pretty
import LogDigest.Proofs.DocumentList
import LogDigest.Proofs.Thresholds
import LogDigest.Proofs.Attributes
import LogDigest.Proofs.Arguments
import LogDigest.Proofs.Precedence
import LogDigest.Proofs.Line.Levels
import LogDigest.Proofs.Discretion
import LogDigest.Proofs.Causes
import LogDigest.Proofs.Run.Discreet
import LogDigest.Proofs.Run.Previews
import LogDigest.Proofs.Chronology
import LogDigest.Proofs.Counting
import LogDigest.Proofs.Content
import LogDigest.Proofs.Taking
import LogDigest.Proofs.ReportReading
import LogDigest.Proofs.Stamp.Kinds
import LogDigest.Proofs.Stamp.Ambiguity
import LogDigest.Proofs.Stamp.Numbers
import LogDigest.Proofs.Stamp.Slashes
import LogDigest.Proofs.Stamp.Separators
import LogDigest.Proofs.Stamp.Instants
import LogDigest.Proofs.Stamp.Offsets
import LogDigest.Proofs.Triage
import LogDigest.Proofs.Stamp.Distance
import LogDigest.Proofs.ShortWriter
import LogDigest.Proofs.Run.CauseTrail
import LogDigest.Proofs.Line.Attempts
