import QuizOverrides.Site.Basic

set_option autoImplicit false

/-!
# The audit trail

Components report what was done to the audit trail. A report is saved as a row and told to the log;
if it cannot be saved that is told instead, and the request that made the report goes on.

## Main definitions

* `QuizOverrides.Audit.report` — saving a report.
* `QuizOverrides.Audit.reportFailure` — reporting an error.
* `QuizOverrides.AuditRow.metadata` — the metadata of a saved row.
-/

namespace QuizOverrides

/-- The metadata that every row has for itself, whatever the report says about them. -/
def reservedMetadata : List String := ["timestamp", "errorMessage", "stackTrace"]

/-- **The metadata of a row** apart from the reserved ones: what the report gives. -/
def AuditRow.metadata (row : AuditRow) : List (String × Payload) :=
  ((row.entry.metadata.map Payload.spread).getD []).filter fun (name, _) =>
    !reservedMetadata.contains name

/-- The trace of what storage threw: the call stack of an error, or the bare text. -/
def StorageError.trace : StorageError → Trace
  | bareText text => .text text
  | _ => .callStack

namespace Audit

/-- The component of the log that tells about reports. -/
def component : String := "SystemLoggingService"

/-- The log line of a saved report with its message. Errors are told with their trace, unknown
levels as plain messages. -/
def lineWith (e : AuditEntry) (message : String) : LogLine :=
  let entity := [LogDetail.entity e.entityId e.entityType]
  match e.level with
  | some (.text "error") =>
    ⟨.error, component, message, (e.trace.toOption.map LogDetail.trace).toList ++ entity⟩
  | some (.text "warn") => ⟨.warn, component, message, entity⟩
  | some (.text "debug") => ⟨.debug, component, message, entity⟩
  | _ => ⟨.log, component, message, entity⟩

/-- The log line for a report that could not be saved or told. -/
def failureLine (trace : Trace) : LogLine :=
  ⟨.error, component, "Failed to save log entry", [.trace trace]⟩

/-- The log line of a saved report, which names its component and its action. If one of these has no
text, that is told as a failure. -/
def line (e : AuditEntry) : LogLine :=
  match Payload.word? e.component, Payload.word? e.action with
  | .ok component, .ok action => lineWith e s!"[{component}] {action}"
  | _, _ => failureLine .callStack

/-- **Reporting**: the report is saved and told to the log. This never throws. -/
def report (e : AuditEntry) : StateM Site Unit := do
  match ← (access .audit .save).run with
  | .ok () =>
    modify fun site => { site with audit := site.audit ++ [⟨e, site.clock.instant⟩] }
    logLine (line e)
  | .error thrown => logLine (failureLine thrown.trace)

/-- A value, or a text if the value is left out or counts as not given. -/
def orElse (value : Option Payload) (fallback : String) : Payload :=
  (value.filter fun v => !v.isEmptyValue).getD (.text fallback)

/-- **Reporting an error** with its message and its trace, if it has one. -/
def reportFailure (message : String) (trace : Field Trace) (component action : Option Payload)
    (metadata : List (String × Payload)) : StateM Site Unit :=
  report
    { action := some (orElse action "SYSTEM_ERROR")
      component := some (orElse component "SYSTEM")
      level := some (.text "error")
      errorMessage := some (.text message)
      trace := trace
      metadata := some (.record ((metadata.filter fun (name, _) => name != "description")
        ++ [("description", .text "System error occurred")])) }

end Audit

end QuizOverrides
