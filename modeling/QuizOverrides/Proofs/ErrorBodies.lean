import Mathlib.Tactic.Push
import Mathlib.Tactic.SplitIfs
import QuizOverrides.Http.Body

set_option autoImplicit false

/-!
# What error bodies show

Whatever a request throws is answered with a body. Of an error that is not an HTTP error the body
shows nothing at all. Of an HTTP error it shows the status, the name, a message, and the fields of
the response under all other names; the request itself gives the path and the instant, whatever the
response says. There is no body if the message is a list with an item that has no text.

## Main definitions

* `QuizOverrides.ErrorResponse.Tells` — what a response to an error shows.
* `QuizOverrides.HttpError.CanTell` — all items of the message of an HTTP error have a text.

## Main results

* `QuizOverrides.ErrorBody.response_tells` — what the response of a body shows.
* `QuizOverrides.ErrorBody.response_of_thrown` — the responses to all that may be thrown.
-/

namespace QuizOverrides

open Calendar

/-! ### Responses -/

/-- **A response tells of an error**: the status that is sent is the one of the body, and the body
has the status, the name, the path and the instant, a message that is a text or a list of texts, and
under every other name what is carried over. -/
structure ErrorResponse.Tells (r : ErrorResponse) (status : Field Whole) (name : String)
    (path : Option Payload) (now : Instant) (carried : List (String × Payload)) : Prop where
  sent : Payload.ofField .ofWhole r.status = r.body.field? "statusCode"
  status : r.body.field? "statusCode" = Payload.ofField .ofWhole status
  timestamp : r.body.field? "timestamp" = some (.text now.text)
  path : r.body.field? "path" = path
  error : r.body.field? "error" = some (.text name)
  message : (∃ s, r.body.field? "message" = some (.text s)) ∨
    ∃ texts : List String, r.body.field? "message" = some (.list (texts.map .text))
  others : ∀ key, key ∉ ErrorBody.reserved → r.body.field? key = carried.lookup key

/-! ### Fields -/

/-- A field under a name that is kept is looked up as before. -/
lemma lookup_filter_of_kept {α : Type} {p : String → Bool} {key : String} (h : p key = true)
    (fields : List (String × α)) :
    (fields.filter fun field => p field.1).lookup key = fields.lookup key := by
  induction fields with
  | nil => rfl
  | cons field fields ih =>
    rw [List.filter_cons, List.lookup_cons]
    rcases eq_or_ne key field.1 with rfl | hne
    · rw [if_pos h, List.lookup_cons, beq_self_eq_true]
    · rw [beq_false_of_ne hne]
      split_ifs
      · rw [List.lookup_cons, beq_false_of_ne hne, ih]
      · exact ih

/-- No field is found under a name that no field has. -/
lemma lookup_eq_none_of_not_mem {α : Type} {fields : List (String × α)} {key : String}
    (h : key ∉ fields.map Prod.fst) : fields.lookup key = none := by
  apply List.lookup_eq_none_iff.mpr
  intro field hfield
  apply bne_iff_ne.mpr
  rintro rfl
  exact h (List.mem_map.mpr ⟨field, hfield, rfl⟩)

/-- No field is found under a name that is not kept. -/
lemma lookup_filter_of_dropped {α : Type} {p : String → Bool} {key : String} (h : p key = false)
    (fields : List (String × α)) : (fields.filter fun field => p field.1).lookup key = none := by
  apply lookup_eq_none_of_not_mem
  intro hmem
  obtain ⟨field, hfield, rfl⟩ := List.mem_map.mp hmem
  rw [(List.mem_filter.mp hfield).2] at h
  nomatch h

/-- Of fields with different names those are found that are given. -/
lemma field?_ofGiven {fields : List (String × Option Payload)}
    (hnodup : (fields.map Prod.fst).Nodup) (key : String) :
    (Payload.ofGiven fields).field? key = (fields.lookup key).join := by
  induction fields with
  | nil => rfl
  | cons field fields ih =>
    obtain ⟨name, value⟩ := field
    obtain ⟨hname, hrest⟩ := List.nodup_cons.mp hnodup
    rcases eq_or_ne key name with rfl | hne
    · rw [List.lookup_cons_self]
      cases value with
      | none =>
        refine (ih hrest).trans ?_
        rw [lookup_eq_none_of_not_mem hname]
        rfl
      | some v => exact List.lookup_cons_self
    · rw [List.lookup_cons, beq_false_of_ne hne, ← ih hrest]
      cases value with
      | none => rfl
      | some v =>
        change List.lookup key ((name, v) :: _) = _
        rw [List.lookup_cons, beq_false_of_ne hne]
        rfl

namespace ErrorBody

variable {body : ErrorBody} {carried : List (String × Payload)} {key : String}

/-- A body has its own fields, and those that it carries over. -/
lemma field?_payload (body : ErrorBody) (key : String) :
    body.payload.field? key = ((body.ownFields.lookup key).join).or (body.details.lookup key) := by
  rw [← field?_ofGiven (by simp [ownFields])]
  exact List.lookup_append

/-- The fields that a body has for itself are not carried over. -/
lemma field?_payload_of_reserved
    (h : body.details = carried.filter fun field => !reserved.contains field.1)
    (hkey : key ∈ reserved) : body.payload.field? key = (body.ownFields.lookup key).join := by
  have hdropped : (!reserved.contains key) = false := by simpa using hkey
  rw [field?_payload, h,
    lookup_filter_of_dropped (p := fun key => !reserved.contains key) hdropped, Option.or_none]

/-- All other fields are carried over. -/
lemma field?_payload_of_other
    (h : body.details = carried.filter fun field => !reserved.contains field.1)
    (hkey : key ∉ reserved) : body.payload.field? key = carried.lookup key := by
  have hkept : (!reserved.contains key) = true := by simpa using hkey
  have hnone : body.ownFields.lookup key = none := lookup_eq_none_of_not_mem hkey
  rw [field?_payload, h, hnone,
    lookup_filter_of_kept (p := fun key => !reserved.contains key) hkept]
  rfl

/-- **The response of a body** tells of its error, if the body carries over the fields that are not
its own. -/
lemma response_tells (h : body.details = carried.filter fun field => !reserved.contains field.1) :
    body.response.Tells body.statusCode body.error body.path body.timestamp carried := by
  have hstatus : body.payload.field? "statusCode" = Payload.ofField .ofWhole body.statusCode :=
    field?_payload_of_reserved h (by decide)
  have hmessage : body.payload.field? "message" = some body.message.payload :=
    field?_payload_of_reserved h (by decide)
  constructor
  case sent => exact hstatus.symm
  case status => exact hstatus
  case timestamp => exact field?_payload_of_reserved h (by decide)
  case path => exact field?_payload_of_reserved h (by decide)
  case error => exact field?_payload_of_reserved h (by decide)
  case message =>
    cases hsaid : body.message with
    | text s => exact .inl ⟨s, hmessage.trans (by rw [hsaid]; rfl)⟩
    | list texts => exact .inr ⟨texts, hmessage.trans (by rw [hsaid]; rfl)⟩
  case others =>
    intro key hkey
    exact field?_payload_of_other h hkey

end ErrorBody

/-! ### Messages -/

/-- **An HTTP error can be told**: if the message of its response is a list, each of its items has a
text. -/
def HttpError.CanTell (e : HttpError) : Prop :=
  ∀ items, e.response.field? "message" = some (.list items) → ∀ item ∈ items, item.hasText = true

/-- The texts of items that have one. -/
lemma mapM_text?_of_hasText {items : List Payload} (h : ∀ item ∈ items, item.hasText = true) :
    items.mapM Payload.text? = .ok (items.map Payload.plainText) := by
  induction items with
  | nil => rfl
  | cons item items ih =>
    obtain ⟨hitem, hitems⟩ := List.forall_mem_cons.mp h
    rw [List.mapM_cons, Payload.text?, if_pos hitem, ih hitems]
    rfl

/-- One item without a text is enough to have no texts. -/
lemma mapM_text?_of_not_hasText {items : List Payload} {item : Payload} (hmem : item ∈ items)
    (h : item.hasText = false) : items.mapM Payload.text? = .error .noText := by
  induction items with
  | nil => nomatch hmem
  | cons first items ih =>
    rw [List.mapM_cons, Payload.text?]
    split_ifs with hfirst
    · rcases List.mem_cons.mp hmem with rfl | hmem
      · rw [h] at hfirst
        nomatch hfirst
      · rw [ih hmem]
        rfl
    · rfl

namespace ErrorBody

/-- An error that can be told has a message. -/
lemma exists_messageOf {e : HttpError} (h : e.CanTell) : ∃ message, messageOf e = .ok message := by
  have hread : ∃ message, readMessage e.response e.message = .ok message := by
    unfold readMessage
    split
    next s _ => exact ⟨_, rfl⟩
    next items hitems =>
      rw [mapM_text?_of_hasText (h items hitems)]
      exact ⟨_, rfl⟩
    next => exact ⟨_, rfl⟩
  unfold messageOf
  split
  · exact ⟨_, rfl⟩
  · exact hread
  · exact hread
  · exact ⟨_, rfl⟩

/-- An error that cannot be told has none. -/
lemma messageOf_of_not_canTell {e : HttpError} (h : ¬e.CanTell) :
    messageOf e = .error .noText := by
  unfold HttpError.CanTell at h
  push Not at h
  obtain ⟨items, hitems, item, hmem, hnoText⟩ := h
  have hread : readMessage e.response e.message = .error .noText := by
    rw [readMessage, hitems]
    simp only [mapM_text?_of_not_hasText hmem (Bool.eq_false_iff.mpr hnoText)]
    rfl
  unfold messageOf
  -- only records have fields
  cases hresponse : e.response with
  | record fields => rwa [hresponse] at hread
  | _ =>
    rw [hresponse] at hitems
    nomatch hitems

/-- **Nothing but HTTP errors is shown.** -/
def hidden (path : Option Payload) (now : Instant) : ErrorBody :=
  { statusCode := .given (.finite 500)
    timestamp := now
    path := path
    error := "Internal Server Error"
    message := hiddenMessage
    details := [] }

/-- **What error bodies show**, for every path and at every instant.

* The bodies for all that is thrown but is not an HTTP error are the same, and the response tells of
  a server error and carries nothing over.
* The response to an HTTP error that can be told tells of its status and its name, and carries over
  the fields of its response.
* There is no body for an HTTP error that cannot be told. -/
theorem response_of_thrown (path : Option Payload) (now : Instant) :
    (∃ body, (∀ thrown, (∀ e, thrown ≠ .http e) → ofThrown thrown path now = .ok body) ∧
      body.response.Tells (.given (.finite 500)) "Internal Server Error" path now []) ∧
    (∀ e : HttpError, e.CanTell → ∃ body, ofThrown (.http e) path now = .ok body ∧
      body.response.Tells e.kind.status e.kind.name path now e.response.members) ∧
    ∀ e : HttpError, ¬e.CanTell → ofThrown (.http e) path now = .error .noText := by
  refine ⟨⟨hidden path now, ?same, ?bare⟩, fun e htell => ?told, fun e htell => ?untold⟩
  case same =>
    intro thrown hother
    cases thrown with
    | http e => exact absurd rfl (hother e)
    | error | value => rfl
  case bare => exact response_tells rfl
  case told =>
    obtain ⟨message, hmessage⟩ := exists_messageOf htell
    refine ⟨⟨e.kind.status, now, path, e.kind.name, message, detailsOf e.response⟩, ?_,
      response_tells rfl⟩
    rw [ofThrown, hmessage]
    rfl
  case untold =>
    rw [ofThrown, messageOf_of_not_canTell htell]
    rfl

/-- An HTTP error whose response has a path and a status of its own, and a list of messages. -/
def crowdedError : HttpError :=
  ⟨.gone, .record [("path", .text "/q"), ("statusCode", .ofNat 200), ("rows", .list [.ofNat 7]),
    ("message", .list [.text "first", .null, .record []])]⟩

/-- What is shown of the error, and of an error that is not an HTTP error. -/
theorem response_of_thrown_crowdedError :
    crowdedError.CanTell ∧
    (∃ body, ofThrown (.http crowdedError) (some (.text "/p")) 0 = .ok body ∧
      body.response.Tells (.given (.finite 410)) "GoneException" (some (.text "/p")) 0
        crowdedError.response.members) ∧
    ofThrown (.error "QueryFailedError" "no such table" .callStack) (some (.text "/p")) 0 =
      ofThrown (.value (.text "secret")) (some (.text "/p")) 0 := by
  obtain ⟨⟨body, hsame, -⟩, htold, -⟩ := response_of_thrown (some (.text "/p")) 0
  have htell : crowdedError.CanTell := by
    intro items hitems
    have hgiven : crowdedError.response.field? "message" =
        some (.list [.text "first", .null, .record []]) := by decide
    obtain rfl := Payload.list.inj (Option.some.inj (hgiven.symm.trans hitems))
    decide
  refine ⟨htell, htold crowdedError htell, ?_⟩
  exact (hsame _ (by simp)).trans (hsame _ (by simp)).symm

/-- An error whose message is a list with an item that has no text. -/
def untoldError : HttpError :=
  ⟨.badRequest, .record [("message", .list [.record [("toString", .ofInt 1)]])]⟩

/-- **An HTTP error without a body.** -/
theorem ofThrown_untoldError :
    ofThrown (.http untoldError) (some (.text "/p")) 0 = .error .noText :=
  rfl

end ErrorBody

end QuizOverrides
