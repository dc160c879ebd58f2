import QuizOverrides.Proofs.Decimals
import QuizOverrides.Row.Errors

set_option autoImplicit false

/-!
# What users are told

The errors of a row are told under the names of its fields. Each error has a message of its own
under its own name, so that the messages say which of the fields have errors.

## Main definitions

* `QuizOverrides.FieldErrors.keys` — the names under which there is a message.

## Main results

* `QuizOverrides.FieldErrors.mem_messages` — the messages of a row, by its errors.
* `QuizOverrides.FieldErrors.mem_keys` — there is one for each field with an error.
* `QuizOverrides.SubjectError.message_duplicate_inj` — a duplicate is told with the first row.
-/

namespace QuizOverrides

/-- What is listed under names is what there is under them. -/
lemma mem_filterMap_named {entries : List (String × Option String)} {name text : String} :
    (name, text) ∈ entries.filterMap (fun (name, text?) => text?.map fun text => (name, text)) ↔
      (name, some text) ∈ entries := by
  rw [List.mem_filterMap]
  constructor
  · rintro ⟨⟨name', text?⟩, hmem, heq⟩
    obtain ⟨text', rfl, hpair⟩ := Option.map_eq_some_iff.mp heq
    obtain ⟨rfl, rfl⟩ := Prod.mk.inj hpair
    exact hmem
  · intro hmem
    exact ⟨(name, some text), hmem, rfl⟩

namespace FieldErrors

variable {kind : SubjectKind} {e : FieldErrors}

/-- **The messages of a row** are those of its errors, under the names of their fields. -/
lemma mem_messages {name text : String} :
    (name, text) ∈ e.messages kind ↔
      (name = kind.idColumn ∧ e.subject.map (·.message kind) = some text) ∨
      (name = "timeopen" ∧ e.timeOpen.map (·.message "timeopen") = some text) ∨
      (name = "timeclose" ∧ e.timeClose.map (·.message "timeclose") = some text) ∨
      (name = "timelimit" ∧ e.timeLimit.map (·.message "Time limit") = some text) ∨
      (name = "attempts" ∧ e.attempts.map (·.message "Attempts") = some text) ∨
      (name = "password" ∧ e.password.map (·.message) = some text) ∨
      (name = "generate" ∧ e.generate.map (·.message) = some text) := by
  refine Iff.trans mem_filterMap_named ?_
  simp only [List.mem_cons, List.not_mem_nil, or_false, Prod.mk.injEq]
  simp only [eq_comm (a := some text)]
  rfl

/-- **The names under which there is a message.** -/
def keys (kind : SubjectKind) (e : FieldErrors) : List String :=
  (e.messages kind).map Prod.fst

/-- There is a message under the names of the fields with errors, and under no others. -/
lemma mem_keys {name : String} :
    name ∈ e.keys kind ↔
      (name = kind.idColumn ∧ e.subject ≠ none) ∨ (name = "timeopen" ∧ e.timeOpen ≠ none) ∨
      (name = "timeclose" ∧ e.timeClose ≠ none) ∨ (name = "timelimit" ∧ e.timeLimit ≠ none) ∨
      (name = "attempts" ∧ e.attempts ≠ none) ∨ (name = "password" ∧ e.password ≠ none) ∨
      (name = "generate" ∧ e.generate ≠ none) := by
  have hmap {ε : Type} (f : ε → String) (error : Option ε) :
      (∃ text, error.map f = some text) ↔ error ≠ none := by
    cases error <;> simp
  have hkeys : name ∈ e.keys kind ↔ ∃ text, (name, text) ∈ e.messages kind := by
    simp [keys]
  rw [hkeys]
  simp only [mem_messages, exists_or, exists_and_left, hmap]

/-- Each name says whether its field has an error. -/
lemma mem_keys_iff (kind : SubjectKind) (e : FieldErrors) :
    (kind.idColumn ∈ e.keys kind ↔ e.subject ≠ none) ∧
      ("timeopen" ∈ e.keys kind ↔ e.timeOpen ≠ none) ∧
      ("timeclose" ∈ e.keys kind ↔ e.timeClose ≠ none) ∧
      ("timelimit" ∈ e.keys kind ↔ e.timeLimit ≠ none) ∧
      ("attempts" ∈ e.keys kind ↔ e.attempts ≠ none) ∧
      ("password" ∈ e.keys kind ↔ e.password ≠ none) ∧
      ("generate" ∈ e.keys kind ↔ e.generate ≠ none) := by
  simp only [mem_keys]
  cases kind <;> simp [SubjectKind.idColumn]

/-- The message about the subject. -/
lemma mem_messages_subject {text : String} :
    (kind.idColumn, text) ∈ e.messages kind ↔ e.subject.map (·.message kind) = some text := by
  rw [mem_messages]
  cases kind <;> simp [SubjectKind.idColumn]

end FieldErrors

/-! ### Duplicates -/

/-- Different numbers are told differently. -/
lemma Text.intText_inj {m n : Nat} (h : Text.intText m = Text.intText n) : m = n := by
  have hdigits : Text.digits m = Text.digits n := String.ofList_injective h
  rw [← Text.digitsValue_digits m, hdigits, Text.digitsValue_digits]

/-- **A duplicate is told with the first row** about its subject, and no other duplicate of that
subject is told alike. -/
lemma SubjectError.message_duplicate_inj {kind : SubjectKind} {x : String} {m n : Nat} :
    (duplicate x m).message kind = (duplicate x n).message kind ↔ m = n := by
  constructor
  · intro h
    simp only [message, messageWith, String.append_right_inj] at h
    exact Text.intText_inj h
  · rintro rfl
    rfl

end QuizOverrides
