import SiteReport.Journal.Request
import SiteReport.Journal.Session
import SiteReport.Main
import SiteReport.Proofs.Autosave
import SiteReport.Proofs.CommandLine.DraftAfter
import SiteReport.Proofs.Composer.Copies
import SiteReport.Proofs.Composer.Discard
import SiteReport.Proofs.Composer.Drag
import SiteReport.Proofs.Composer.FailedSubmit
import SiteReport.Proofs.Composer.Generations
import SiteReport.Proofs.Composer.History
import SiteReport.Proofs.Composer.InFlight
import SiteReport.Proofs.Composer.Listener
import SiteReport.Proofs.Composer.Moves
import SiteReport.Proofs.Composer.News
import SiteReport.Proofs.Composer.OfferedDraft
import SiteReport.Proofs.Composer.Refused
import SiteReport.Proofs.Composer.RemoteLink
import SiteReport.Proofs.Composer.RestoredDraft
import SiteReport.Proofs.Composer.Selection
import SiteReport.Proofs.Description.Partway
import SiteReport.Proofs.Document.Conservation
import SiteReport.Proofs.Document.Moves
import SiteReport.Proofs.Document.Numbering
import SiteReport.Proofs.Document.Rewrites
import SiteReport.Proofs.Gesture.Release
import SiteReport.Proofs.Service.ReportAddress
import SiteReport.Proofs.Settings.Breakdown
import SiteReport.Proofs.Settings.Substitution
import SiteReport.Proofs.Store.DraftCheck
import SiteReport.Proofs.Store.Listing
import SiteReport.Proofs.Store.Previews
import SiteReport.Proofs.Store.Shared
import SiteReport.Proofs.Submission.Batching
import SiteReport.Proofs.Submission.Content
import SiteReport.Proofs.Submission.Phases
import SiteReport.Proofs.Submission.Reuse
import SiteReport.Proofs.Submission.Validity
import SiteReport.Proofs.Written
import SiteReport.Telemetry
