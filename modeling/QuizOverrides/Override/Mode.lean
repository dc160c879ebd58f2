import QuizOverrides.Override.Basic
import QuizOverrides.Payload.Fault

set_option autoImplicit false

/-!
# Modes

A request names the kind of subject of a file as its mode. A request that is not checked may give
anything in its place. Rows of such a mode are looked up as rows of groups, and are called by the
text of whatever was given.

## Main definitions

* `QuizOverrides.Mode` — what a request gives as the mode.
* `QuizOverrides.Mode.lookupKind` — the kind as which rows of the mode are looked up.
* `QuizOverrides.Mode.headerKind?` — the kind whose header files of the mode have to have.
* `QuizOverrides.Mode.word` — the word that subjects of the mode are called by.
-/

namespace QuizOverrides

/-- **What a request gives as its mode**: a kind of subject, or anything else. -/
inductive Mode where
  | kind (kind : SubjectKind)
  | other (given : Option Payload)
deriving DecidableEq, Repr

/-- The default mode is the one of users. -/
instance : Inhabited Mode := ⟨.kind .user⟩

namespace Mode

/-- The mode of a value that may be left out. -/
def ofOption : Option Payload → Mode
  | some (.text word) =>
    match SubjectKind.ofName? word with
    | some k => kind k
    | none => other (some (.text word))
  | given => other given

/-- The kind as which rows of the mode are looked up. -/
def lookupKind : Mode → SubjectKind
  | kind k => k
  | other _ => .group

/-- The text of the mode, or the fault of one that has none. -/
def word? : Mode → Except ValueFault String
  | kind k => .ok k.name
  | other given => Payload.word? given

/-- **The word** that subjects of the mode are called by. -/
def word : Mode → String
  | kind k => k.name
  | other given => Payload.wordOf given

/-- **The kind whose header** files of the mode have to have, if there is one: headers are found by
the text of the mode, which may be that of a kind though the mode is none. -/
def headerKind? : Mode → Option SubjectKind
  | kind k => some k
  | other given => SubjectKind.ofName? (Payload.wordOf given)

/-- The mode as it was given. -/
def payload? : Mode → Option Payload
  | kind k => some (.text k.name)
  | other given => given

/-- The mode as it was given, null if it was left out. -/
def payload (mode : Mode) : Payload := mode.payload?.getD .null

end Mode

end QuizOverrides
