import SourceExcerpt.Command.Dump
import SourceExcerpt.Command.Survey
import SourceExcerpt.Diagnostic.Draft
import SourceExcerpt.Document.Steps
import SourceExcerpt.Main
import SourceExcerpt.Proofs.Bounded
import SourceExcerpt.Proofs.Columns
import SourceExcerpt.Proofs.Counts
import SourceExcerpt.Proofs.DumpRun
import SourceExcerpt.Proofs.Encoding
import SourceExcerpt.Proofs.Finding
import SourceExcerpt.Proofs.Flagged
import SourceExcerpt.Proofs.Growth
import SourceExcerpt.Proofs.HiddenReturn
import SourceExcerpt.Proofs.Interest
import SourceExcerpt.Proofs.Journal
import SourceExcerpt.Proofs.LineEndings
import SourceExcerpt.Proofs.LineSearch
import SourceExcerpt.Proofs.Listing
import SourceExcerpt.Proofs.Locality
import SourceExcerpt.Proofs.Multiline
import SourceExcerpt.Proofs.Outside
import SourceExcerpt.Proofs.Partition
import SourceExcerpt.Proofs.Places
import SourceExcerpt.Proofs.Repetition
import SourceExcerpt.Proofs.Scan
import SourceExcerpt.Proofs.Severity
import SourceExcerpt.Proofs.ShownColumns
import SourceExcerpt.Proofs.SpanRuns
import SourceExcerpt.Proofs.SurveyRun
import SourceExcerpt.Proofs.Windowing
