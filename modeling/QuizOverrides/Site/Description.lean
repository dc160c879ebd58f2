import QuizOverrides.Site.Tables

set_option autoImplicit false

/-!
# Records as payloads

What the tables of a site hold, and what a search in them finds, as payloads. Times of the clock are
shown as the milliseconds since the clock of a new site.

## Main definitions

* `QuizOverrides.Override.payload`, `QuizOverrides.OverrideDraft.payload` — overrides.
* `QuizOverrides.Batch.payload`, `QuizOverrides.Quiz.payload` — batches and quizzes.
* `QuizOverrides.SubjectLookup.payload` — the outcome of a search.
-/

namespace QuizOverrides

/-! ## Times -/

/-- What a clock shows as a payload; a number that is not finite has no place in one. -/
def ClockReading.payload (now : ClockReading) : Payload :=
  .ofOption .ofWhole (now.since .start)

/-- The instant as a payload, if there is one. -/
def instantPayload (time : Option Calendar.Instant) : Payload :=
  .ofOption (fun i => .text i.text) time

/-! ## Overrides -/

/-- The fields of the settings of an override. -/
def OverrideValues.fields (v : OverrideValues) : List (String × Payload) :=
  [("timeOpen", instantPayload v.timeOpen), ("timeClose", instantPayload v.timeClose),
    ("timeLimit", .ofOption .ofWhole v.timeLimit), ("attempts", .ofOption .ofWhole v.attempts),
    ("password", .ofText? v.password)]

/-- The fields of what an override says. -/
def OverrideData.fields (d : OverrideData) : List (String × Payload) :=
  (Payload.ofGiven [("quizId", Payload.ofField .text d.quizId)]).members ++
    [("userId", .ofText? d.userId), ("groupId", .ofText? d.groupId)] ++ d.values.fields

/-- An override as a payload. -/
def Override.payload (o : Override) : Payload :=
  .record (("id", .ofText? o.id) :: o.data.fields)

/-- An override to be written as a payload. -/
def OverrideDraft.payload (d : OverrideDraft) : Payload :=
  .record (("id", .ofText? d.id) :: d.data.fields)

/-! ## Batches -/

/-- The passwords of rows as a payload: pairs of the number of a row and its password. -/
def RowPasswords.payload (passwords : RowPasswords) : Payload :=
  .list (passwords.map fun (number, p) => .list [.text (Text.intText number), .text p])

/-- **A batch** as a payload. -/
def Batch.payload (b : Batch) : Payload :=
  .record
    [("id", .text b.id), ("quizId", .text b.quizId), ("mode", b.mode.payload),
      ("delimiter", b.delimiter.payload), ("content", .text b.content),
      ("generatedPasswords", b.passwords.payload),
      ("createdAt", (ClockReading.ofInstant? b.createdAt).payload)]

/-! ## Quizzes and subjects -/

/-- **A quiz** as a payload. -/
def Quiz.payload (q : Quiz) : Payload :=
  .record
    [("id", .text q.id), ("courseId", .text q.courseId), ("name", .ofText? q.name),
      ("courseCode", .ofText? q.courseCode)]

/-- A subject as a payload. -/
def Subject.payload (s : Subject) : Payload :=
  .record [("id", .text s.id), ("name", .text s.name)]

/-- **The outcome of a search** as a payload. -/
def SubjectLookup.payload : SubjectLookup → Payload
  | found s => .record [("status", .text "found"), ("subject", s.payload)]
  | missing => .record [("status", .text "missing")]
  | ambiguous n => .record [("status", .text "ambiguous"), ("count", .ofNat n)]

end QuizOverrides
