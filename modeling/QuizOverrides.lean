import QuizOverrides.Calendar.Date
import QuizOverrides.Calendar.Instant
import QuizOverrides.Calendar.Stamp
import QuizOverrides.Calendar.Zone
import QuizOverrides.Config.Connection
import QuizOverrides.Config.EnvFile
import QuizOverrides.Config.Import
import QuizOverrides.Config.Settings
import QuizOverrides.Csv.Delimiter
import QuizOverrides.Csv.Scan
import QuizOverrides.Csv.Table
import QuizOverrides.Csv.Writer
import QuizOverrides.Field
import QuizOverrides.Http.Api
import QuizOverrides.Http.Body
import QuizOverrides.Http.Error
import QuizOverrides.Http.ErrorBody
import QuizOverrides.Http.Form
import QuizOverrides.Http.Tracing
import QuizOverrides.Import.Batches
import QuizOverrides.Import.Commit
import QuizOverrides.Import.Refusal
import QuizOverrides.Import.Run
import QuizOverrides.Import.Service
import QuizOverrides.Import.Template
import QuizOverrides.Number.Binary64
import QuizOverrides.Number.Whole
import QuizOverrides.Override.Basic
import QuizOverrides.Override.Mode
import QuizOverrides.Password
import QuizOverrides.Payload.Basic
import QuizOverrides.Payload.Fault
import QuizOverrides.Payload.Innate
import QuizOverrides.Payload.Size
import QuizOverrides.Payload.Text
import QuizOverrides.Proofs.Action
import QuizOverrides.Proofs.Assessment
import QuizOverrides.Proofs.Changes
import QuizOverrides.Proofs.Lookup
import QuizOverrides.Proofs.Run
import QuizOverrides.Row.Cells
import QuizOverrides.Row.Errors
import QuizOverrides.Row.Given
import QuizOverrides.Row.Mode
import QuizOverrides.Row.Reconciliation
import QuizOverrides.Row.Validation
import QuizOverrides.Schema.Description
import QuizOverrides.Schema.Entity
import QuizOverrides.Schema.Migration
import QuizOverrides.Schema.Table
import QuizOverrides.Server.Startup
import QuizOverrides.Session
import QuizOverrides.Site.Audit
import QuizOverrides.Site.Basic
import QuizOverrides.Site.Clock
import QuizOverrides.Site.Description
import QuizOverrides.Site.Fault
import QuizOverrides.Site.Log
import QuizOverrides.Site.Overrides
import QuizOverrides.Site.Records
import QuizOverrides.Site.Tables
import QuizOverrides.Text.Ascii
import QuizOverrides.Text.Blank
import QuizOverrides.Text.Encoding
import QuizOverrides.Text.Units
import QuizOverrides.Uuid
import QuizOverrides.Proofs.Commit
import QuizOverrides.Proofs.Requests
import QuizOverrides.Proofs.Sessions
import QuizOverrides.Proofs.Keys
import QuizOverrides.Proofs.Rows
import QuizOverrides.Proofs.Pinned
import QuizOverrides.Proofs.FailedCommits
import QuizOverrides.Proofs.Faults
import QuizOverrides.Proofs.CommitEffect
import QuizOverrides.Proofs.TableInvariant
import QuizOverrides.Proofs.PreviewCommit
import QuizOverrides.Proofs.Draws
import QuizOverrides.Proofs.RowErrors
import QuizOverrides.Proofs.Retry
import QuizOverrides.Proofs.DelimitedText
import QuizOverrides.Proofs.Decimals
import QuizOverrides.Proofs.Dates
import QuizOverrides.Proofs.Stamps
import QuizOverrides.Proofs.TemplateLines
import QuizOverrides.Proofs.TemplateCells
import QuizOverrides.Proofs.Templates
import QuizOverrides.Proofs.CommitOutcome
import QuizOverrides.Proofs.Scans
import QuizOverrides.Proofs.Refusals
import QuizOverrides.Proofs.CertainCommits
import QuizOverrides.Proofs.RowOrder
import QuizOverrides.Proofs.BatchSteps
import QuizOverrides.Proofs.Rounding
import QuizOverrides.Proofs.BatchLifecycle
import QuizOverrides.Proofs.Blindness
import QuizOverrides.Proofs.AuditFaults
import QuizOverrides.Proofs.Reports
import QuizOverrides.Proofs.PreviewEffect
import QuizOverrides.Proofs.AuditTrail
import QuizOverrides.Proofs.Isolation
import QuizOverrides.Proofs.Messages
import QuizOverrides.Proofs.Resolution
import QuizOverrides.Proofs.RunSteps
import QuizOverrides.Proofs.Classification
import QuizOverrides.Proofs.Duplicates
import QuizOverrides.Proofs.Rules
import QuizOverrides.Proofs.Naming
import QuizOverrides.Proofs.StampGrammar
import QuizOverrides.Proofs.ExportedTimes
import QuizOverrides.Proofs.TemplateText
import QuizOverrides.Proofs.Renderings
import QuizOverrides.Proofs.HeaderLine
import QuizOverrides.Proofs.Encodings
import QuizOverrides.Proofs.ErrorBodies
import QuizOverrides.Proofs.Rectangles
import QuizOverrides.Proofs.PasswordSpace
