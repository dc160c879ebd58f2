import QuizOverrides.Import.Refusal

set_option autoImplicit false

/-!
# Batches

Between its preview and its commit an upload is kept as a batch. A batch that has waited longer than
the site allows is removed when it is asked for.

## Main definitions

* `QuizOverrides.Batches.save` — keeping an upload.
* `QuizOverrides.Batches.remove` — removing a batch.
* `QuizOverrides.Batches.find` — the batch of a quiz, if it has not expired.
-/

namespace QuizOverrides.Batches

open Calendar

/-- The identifier of the `n`-th batch. -/
def generatedId (n : Nat) : String :=
  "00000000-0000-4000-8000-" ++ String.ofList (Text.padded 12 n)

/-- **Keeping an upload** under the next identifier, which is returned. -/
def save (quizId : String) (mode : Mode) (delimiter : Csv.DelimiterChoice)
    (content : String) (passwords : RowPasswords) : Action StorageError String := do
  access .batches .save
  let site ← get
  let id := generatedId (site.batchCount + 1)
  let batch : Batch := ⟨id, quizId, mode, delimiter, content, passwords, site.clock.instant?⟩
  set { site with
    batches := putRow Batch.id batch site.batches
    batchCount := site.batchCount + 1 }
  pure id

/-- **Removing a batch.** -/
def remove (id : String) : Action StorageError Unit := do
  access .batches .delete
  modify fun site => { site with batches := site.batches.filter fun b => b.id ≠ id }

/-- The milliseconds for which a batch may be committed. -/
def lifetime (options : ImportOptions) : Whole := options.batchMinutes.times Instant.perMinute

/-- The age of a batch, as far as the clock and the batch show one. -/
def age (now : ClockReading) (batch : Batch) : ClockReading :=
  now.since (.ofInstant? batch.createdAt)

/-- **The batch is older than the site allows.** A batch without an age does not expire. -/
def isExpired (options : ImportOptions) (now : ClockReading) (batch : Batch) : Bool :=
  (age now batch).any fun ms => (lifetime options).less ms

/-- **The batch of a quiz.** An expired batch is removed and refused. -/
def find (quizId importId : Field String) : Action Refusal Batch :=
  match issuedId? importId with
  | none => throw (.importNotFound importId)
  | some id => do
    (access .batches .findOne).mapError .storage
    let site ← get
    match site.batches.find? fun b => b.id == id && quizId.holds (some b.quizId) with
    | none => throw (.importNotFound importId)
    | some batch =>
      if isExpired site.options site.clock batch then
        (remove batch.id).mapError .storage
        throw (.importExpired id)
      else pure batch

end QuizOverrides.Batches
