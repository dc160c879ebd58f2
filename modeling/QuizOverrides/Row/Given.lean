import QuizOverrides.Row.Mode

set_option autoImplicit false

/-!
# Rows of any cells

The cells of a file are texts. A row that is checked on its own may have anything in the place of a
cell, and be of a mode without a text; then its check may fail with the fault of a value. The rules
are those of texts, as far as other values have a part in them.

## Main definitions

* `QuizOverrides.GivenCells` — the cells that a row is given.
* `QuizOverrides.GivenCells.read` — what they are read as.
* `QuizOverrides.validateGiven` — the validation of a row of such cells.

## Main statements

* `QuizOverrides.validateGiven_kind` — on texts, under a kind of subject, it is the validation of a
  row of a file.
-/

namespace QuizOverrides

open Calendar Text

/-- **Why a row could not be checked**: storage failed, or a value cannot be used. -/
inductive CheckFailure where
  | storage (e : StorageError)
  | unusable (fault : ValueFault)
deriving DecidableEq, Repr

/-- **The cells that a row is given.** -/
structure GivenCells where
  subjectId : Payload
  subjectIdNumber : Payload
  subjectName : Payload
  timeOpen : Payload
  timeClose : Payload
  timeLimit : Payload
  attempts : Payload
  password : Payload
  generate : Payload
deriving DecidableEq, Repr

namespace GivenCells

/-- The cells of a row of a file. -/
def ofCells (c : Cells) : GivenCells :=
  ⟨.text c.subjectId, .text c.subjectIdNumber, .text c.subjectName, .text c.timeOpen,
    .text c.timeClose, .text c.timeLimit, .text c.attempts, .text c.password, .text c.generate⟩

/-- A value that cannot be asked for its text without blanks around it. -/
def trimFault (name : String) (p : Payload) : ValueFault :=
  (Payload.partFault? (some p) "trim").getD (.noOperation s!"{name}.trim")

/-- A cell that names the subject, without the blanks around it. -/
def trimmed (name : String) : Payload → Except ValueFault String
  | .text s => .ok (trim s)
  | p => .error (trimFault s!"cells.{name}" p)

/-- The cell of a time. -/
def readTime : Payload → Except ValueFault (CellReading Instant TimeError)
  | .text s => .ok (QuizOverrides.readTime s)
  | p => do
    match ← parseStampValue (some p) with
    | some i => pure (.good i)
    | none => pure (.bad (.malformed (← p.text?)))

/-- The cell of a number: other values are read by their texts, and are not empty. -/
def readNumber : Payload → Except ValueFault (CellReading Whole NumberError)
  | .text s => .ok (QuizOverrides.readNumber s)
  | p => do
    let shown ← p.text?
    pure (if shown = "" then .bad (.malformed shown) else QuizOverrides.readNumber shown)

/-- The cell of a password, which is none if it is null. -/
def readPassword : Payload → Except ValueFault (CellReading String PasswordError)
  | .text s => .ok (QuizOverrides.readPassword s)
  | .null => .ok .empty
  | p => .error (trimFault "password" p)

/-- The cell that asks for a password; other values than texts say neither yes nor no. -/
def readGenerate : Payload → Except ValueFault (CellReading Bool GenerateError)
  | .text s => .ok (QuizOverrides.readGenerate s)
  | p => do pure (.bad ⟨← p.text?⟩)

/-- **What cells are read as**, or the first fault among them. -/
def read (c : GivenCells) : Except ValueFault RowReading := do
  let timeOpen ← readTime c.timeOpen
  let timeClose ← readTime c.timeClose
  let timeLimit ← readNumber c.timeLimit
  let attempts ← readNumber c.attempts
  let password ← readPassword c.password
  let generate ← readGenerate c.generate
  pure { timeOpen, timeClose, timeLimit, attempts, password, generate }

/-- The texts that name the subject: the identifier, the number and the name. The latter two are
asked for only without the first. -/
def names (c : GivenCells) : Except ValueFault (String × String × String) := do
  let id ← trimmed "subjectId" c.subjectId
  if id ≠ "" then pure (id, "", "")
  else
    let number ← trimmed "subjectIdNumber" c.subjectIdNumber
    pure (id, number, ← trimmed "subjectName" c.subjectName)

/-- **A blank row**: no cell asks for a setting. -/
def isBlank (c : GivenCells) : Bool :=
  let values := [c.timeOpen, c.timeClose, c.timeLimit, c.attempts, c.password]
  values.all (· == .text "")
    && (c.generate == .text "" || c.generate == .text Cells.generateNo)

/-- Texts are read by the rules of texts. -/
theorem read_ofCells (c : Cells) : (ofCells c).read = .ok (readCells c) := rfl

/-- A row of texts is blank if it is a blank row of a file. -/
theorem isBlank_ofCells (c : Cells) : (ofCells c).isBlank = c.isBlank := by
  have h (s t : String) : (Payload.text s == Payload.text t) = (s == t) := by
    rw [Bool.eq_iff_iff]
    simp
  simp [isBlank, ofCells, Cells.isBlank, h, Bool.and_assoc]

end GivenCells

/-- The error is told with the word for its subject. -/
def SubjectError.usesWord : SubjectError → Bool
  | unknownId _ => false
  | _ => true

/-- What is known of the subject under a mode, or the fault of a mode without the text that its
error is told with. -/
def SubjectReading.toldIn (mode : Mode) (subject : SubjectReading) :
    Except ValueFault SubjectReading :=
  if subject.error.any SubjectError.usesWord then mode.word?.map fun _ => subject else .ok subject

/-- A kind of subject has a text to tell errors with. -/
theorem SubjectReading.toldIn_kind (k : SubjectKind) (s : SubjectReading) :
    s.toldIn (.kind k) = .ok s := by
  unfold toldIn
  split <;> rfl

/-- A value, or the failure because of its fault. -/
def checked {α : Type} : Except ValueFault α → Action CheckFailure α
  | .ok a => pure a
  | .error fault => throw (.unusable fault)

/-- **The validation of a row** of any mode and any cells: first the subject, then the other cells
in their order. -/
def validateGiven (mode : Mode) (courseId : Field String) (cells : GivenCells) :
    Action CheckFailure ValidatedRow := do
  let (id, number, name) ← checked cells.names
  let subject ← (resolveNamed mode.lookupKind courseId id number name).mapError .storage
  let subject ← checked (subject.toldIn mode)
  pure (assembleRow (← checked cells.read) subject)

/-- With an identifier neither the number nor the name of a subject matters. -/
theorem resolveNamed_of_id {id : String} (h : id ≠ "") (k : SubjectKind) (courseId : Field String)
    (number name : String) :
    resolveNamed k courseId id number name = resolveNamed k courseId id "" "" := by
  simp [resolveNamed, h]

/-- **On texts the rules are those of files**: under a kind of subject, no value has a fault. -/
theorem validateGiven_kind (k : SubjectKind) (courseId : Field String) (c : Cells) :
    validateGiven (.kind k) courseId (.ofCells c) =
      (validate k courseId c).mapError .storage := by
  have hr : checked (GivenCells.ofCells c).read = pure (readCells c) := rfl
  have ht (s : SubjectReading) : checked (s.toldIn (.kind k)) = pure s := by
    rw [s.toldIn_kind]
    rfl
  unfold validate
  rw [← Action.mapError_map]
  unfold validateGiven resolveSubject
  simp only [hr, ht, pure_bind]
  by_cases h : trim c.subjectId = ""
  · have hn : (GivenCells.ofCells c).names =
        .ok (trim c.subjectId, trim c.subjectIdNumber, trim c.subjectName) := by
      simp [GivenCells.names, GivenCells.ofCells, GivenCells.trimmed, h, bind, Except.bind, pure,
        Except.pure]
    simp [hn, checked, Mode.lookupKind]
  · have hn : (GivenCells.ofCells c).names = .ok (trim c.subjectId, "", "") := by
      simp [GivenCells.names, GivenCells.ofCells, GivenCells.trimmed, h, bind, Except.bind, pure,
        Except.pure]
    rw [resolveNamed_of_id h]
    simp [hn, checked, Mode.lookupKind]

end QuizOverrides
