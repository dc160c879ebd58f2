import QuizOverrides.Import.Run
import QuizOverrides.Proofs.Changes

set_option autoImplicit false

/-!
# The table of overrides by its keys

An override is found by its quiz, its kind of subject and its subject. A well-formed table has at
most one override for each of these keys. The rows of a run, being about different subjects, then
change one key each and leave every other override as it is.

## Main definitions

* `QuizOverrides.OverrideKey` — what an override is found by.
* `QuizOverrides.WellFormed` — the tables that a database without clashes holds.
* `QuizOverrides.ImportRow.Fits` — a row has been reconciled with a table.

## Main results

* `QuizOverrides.filter_applied` — the overrides of a key after changes.
* `QuizOverrides.filter_applied_insert`, `QuizOverrides.filter_applied_update`,
  `QuizOverrides.filter_applied_delete` — what a row does to its key.
* `QuizOverrides.filter_applied_of_untouched` — what rows leave alone.
* `QuizOverrides.WellFormed.applied` — tables stay well-formed.
-/

namespace QuizOverrides

/-- **A key**: a quiz, a kind of subject and a subject. -/
structure OverrideKey where
  quizId : Field String
  kind : SubjectKind
  subject : String
deriving DecidableEq, Repr

/-- The override is that of the key. -/
def OverrideKey.owns (k : OverrideKey) (o : Override) : Bool :=
  o.data.quizId == k.quizId && o.data.subject k.kind == some k.subject

/-- A key owns the overrides of its quiz that name its subject. -/
lemma OverrideKey.owns_iff {k : OverrideKey} {o : Override} :
    k.owns o = true ↔ o.data.quizId = k.quizId ∧ o.data.subject k.kind = some k.subject := by
  simp [owns]

/-- The search for the override of a subject goes by its key. -/
lemma OverrideFilter.admits_forSubject (quizId : Field String) (kind : SubjectKind)
    (subject : String) :
    (OverrideFilter.forSubject quizId kind subject).admits =
      OverrideKey.owns ⟨quizId, kind, subject⟩ := by
  funext ⟨id, q, u, g, values⟩
  rw [Bool.eq_iff_iff, OverrideKey.owns_iff]
  cases kind
  · cases u <;> simp [forSubject, admits, wants, OverrideData.subject, Field.holds]
    exact fun _ => eq_comm
  · cases g <;> simp [forSubject, admits, wants, OverrideData.subject, Field.holds]
    exact fun _ => eq_comm

/-- The override is set on exactly one of a user and a group. -/
def OverrideData.HasOneSubject (d : OverrideData) : Prop :=
  d.userId.isSome = !d.groupId.isSome

/-- **A well-formed table**: every override has an identifier of its own and exactly one subject,
and no two overrides have the same key. -/
structure WellFormed (table : List Override) : Prop where
  ids_nodup : (table.map Override.id).Nodup
  id_given : ∀ o ∈ table, ∃ id, o.id = some id ∧ id ≠ ""
  single : ∀ o ∈ table, o.data.HasOneSubject
  unique : ∀ k : OverrideKey, (table.filter k.owns).length ≤ 1

namespace WellFormed

variable {table : List Override}

/-- Overrides of one identifier are one. -/
lemma eq_of_id_eq (h : WellFormed table) {o o' : Override} (ho : o ∈ table) (ho' : o' ∈ table)
    (hid : o.id = o'.id) : o = o' :=
  List.inj_on_of_nodup_map h.ids_nodup ho ho' hid

/-- The only override of a key. -/
lemma filter_eq_of_find? (h : WellFormed table) {k : OverrideKey} {o : Override}
    (hfind : table.find? k.owns = some o) : table.filter k.owns = [o] := by
  have hhead : (table.filter k.owns).head? = some o := by
    rw [List.head?_filter, hfind]
  have hlength := h.unique k
  match hlist : table.filter k.owns, hhead, hlength with
  | [o'], hhead, _ => simpa using hhead
  | _ :: _ :: _, _, hlength =>
    simp at hlength

/-- The override of a key is the one that is found. -/
lemma find?_eq_of_owns (h : WellFormed table) {k : OverrideKey} {o : Override} (ho : o ∈ table)
    (howned : k.owns o = true) : table.find? k.owns = some o := by
  obtain ⟨o', hfind⟩ := Option.isSome_iff_exists.mp (List.find?_isSome.mpr ⟨o, ho, howned⟩)
  have hmem : o ∈ table.filter k.owns := List.mem_filter.mpr ⟨ho, howned⟩
  rw [h.filter_eq_of_find? hfind, List.mem_singleton] at hmem
  rw [hfind, hmem]

end WellFormed

/-- The data of a subject have exactly this one. -/
lemma OverrideData.hasOneSubject_forSubject (quizId : Field String) (kind : SubjectKind)
    (subject : String) (values : OverrideValues) :
    (forSubject quizId kind (some subject) values).HasOneSubject := by
  cases kind <;> rfl

/-- An override with the data of the subject of another has the same keys. -/
lemma OverrideKey.owns_forSubject {quizId : Field String} {kind : SubjectKind} {subject : String}
    {o : Override} (howned : (⟨quizId, kind, subject⟩ : OverrideKey).owns o = true)
    (hone : o.data.HasOneSubject) (id : Option String) (values : OverrideValues) (k : OverrideKey) :
    k.owns ⟨id, .forSubject quizId kind (some subject) values⟩ = k.owns o := by
  obtain ⟨hquiz, hsubject⟩ := owns_iff.mp howned
  rcases o with ⟨oid, q, u, g, v⟩
  rcases k with ⟨q', kind', x⟩
  unfold OverrideData.HasOneSubject at hone
  simp only [OverrideData.subject] at hquiz hsubject hone
  subst hquiz
  cases kind <;> cases kind' <;> simp only at hsubject <;> subst hsubject <;>
    simp_all [owns, OverrideData.forSubject, OverrideData.subject]

/-- The data of an override with one subject are data for that subject. -/
lemma OverrideKey.data_eq_of_owns {quizId : Field String} {kind : SubjectKind} {subject : String}
    {o : Override} (howned : (⟨quizId, kind, subject⟩ : OverrideKey).owns o = true)
    (hone : o.data.HasOneSubject) :
    o.data = .forSubject quizId kind (some subject) o.data.values := by
  obtain ⟨hquiz, hsubject⟩ := owns_iff.mp howned
  rcases o with ⟨id, q, u, g, values⟩
  unfold OverrideData.HasOneSubject at hone
  dsimp only at hquiz hone ⊢
  subst hquiz
  cases kind with
  | user =>
    obtain rfl : u = some subject := hsubject
    obtain rfl : g = none := by simpa using hone
    rfl
  | group =>
    obtain rfl : g = some subject := hsubject
    obtain rfl : u = none := by simpa using hone
    rfl

/-- Of the subjects of a kind one alone owns an override. -/
lemma OverrideKey.subject_eq_of_owns {quizId quizId' : Field String} {kind : SubjectKind}
    {x x' : String} {o : Override} (h : (⟨quizId, kind, x⟩ : OverrideKey).owns o = true)
    (h' : (⟨quizId', kind, x'⟩ : OverrideKey).owns o = true) : x = x' :=
  Option.some.inj ((owns_iff.mp h).2.symm.trans (owns_iff.mp h').2)

/-! ### Rows and their keys -/

/-- **A row has been reconciled with a table**: it is about a subject, its override is the one that
the table has for the subject, and it is to be written for the subject. -/
structure ImportRow.Fits (quizId : Field String) (kind : SubjectKind) (table : List Override)
    (row : ImportRow) (x : String) : Prop where
  subject : row.subjectId = some x
  given : x ≠ ""
  existing : row.draft.id = (table.find? (OverrideKey.owns ⟨quizId, kind, x⟩)).bind Override.id
  action : row.action = .decide row.cells.isBlank (given? row.draft.id).isSome
  listed : row.action ≠ .skip
  data : row.draft.data = .forSubject quizId kind (some x) row.draft.data.values

namespace ImportRow.Fits

variable {quizId : Field String} {kind : SubjectKind} {table : List Override} {row : ImportRow}
  {x : String}

/-- An inserted override is for a subject without one. -/
lemma filter_of_insert (h : row.Fits quizId kind table x) (hwf : WellFormed table)
    (haction : row.action = .insert) : table.filter (OverrideKey.owns ⟨quizId, kind, x⟩) = [] := by
  rcases hfind : table.find? (OverrideKey.owns ⟨quizId, kind, x⟩) with _ | o
  · exact List.filter_eq_nil_iff.mpr (List.find?_eq_none.mp hfind)
  · -- the override that there is has an identifier, so that the row would not be an insert
    exfalso
    obtain ⟨id, hid, hgiven⟩ := hwf.id_given o (List.mem_of_find?_eq_some hfind)
    have hexisting : row.draft.id = some id := by
      rw [h.existing, hfind]
      exact hid
    have hdecide := h.action
    rw [haction, hexisting] at hdecide
    cases hblank : row.cells.isBlank <;>
      simp [hblank, OverrideAction.decide, given?, hgiven] at hdecide

/-- **An updated or deleted override** is the only one of its subject. -/
lemma filter_of_target (h : row.Fits quizId kind table x) (hwf : WellFormed table)
    (haction : row.action ≠ .insert) :
    ∃ o, table.filter (OverrideKey.owns ⟨quizId, kind, x⟩) = [o] ∧ row.draft.id = o.id ∧
      row.change.target = o.id := by
  have hgiven : (given? row.draft.id).isSome = true := by
    by_contra hnone
    have hdecide := h.action
    rw [Bool.eq_false_iff.mpr hnone] at hdecide
    cases hblank : row.cells.isBlank <;> rw [hblank] at hdecide
    · exact haction hdecide
    · exact h.listed hdecide
  obtain ⟨id, hid⟩ := Option.isSome_iff_exists.mp hgiven
  obtain ⟨hdraft, -⟩ := Option.filter_eq_some_iff.mp hid
  have hfound := h.existing
  rw [hdraft] at hfound
  obtain ⟨o, hfind, ho⟩ := Option.bind_eq_some_iff.mp hfound.symm
  refine ⟨o, hwf.filter_eq_of_find? hfind, hdraft.trans ho.symm, ?_⟩
  have htarget : row.change.target = row.draft.id? := by
    unfold RowChange.target change
    rcases hrow : row.action with _ | _ | _ | _
    · exact absurd hrow haction
    · rfl
    · rfl
    · exact absurd hrow h.listed
  rw [htarget, ho]
  exact hid

end ImportRow.Fits

/-- **Rows that fit a table**: each has been reconciled with it, they are about different subjects,
and their changes can be applied. -/
structure RowsFit (quizId : Field String) (kind : SubjectKind) (table : List Override)
    (rows : List ImportRow) : Prop where
  fits : ∀ row ∈ rows, ∃ x, row.Fits quizId kind table x
  distinct : (rows.map ImportRow.subjectId).Nodup
  applicable : Applicable (rows.map ImportRow.change) table

/-- What is made of the elements of a list, where a property is left as it is. -/
lemma filter_filterMap_of_kept {α : Type} {p : α → Bool} {f : α → Option α} {l : List α}
    (h : ∀ a ∈ l, ∀ b, f a = some b → p b = p a) :
    (l.filterMap f).filter p = (l.filter p).filterMap f := by
  induction l with
  | nil => rfl
  | cons a rest ih =>
    have ih := ih fun a' ha' => h a' (List.mem_cons_of_mem _ ha')
    rcases hf : f a with _ | b
    · rw [List.filterMap_cons_none hf, ih, List.filter_cons]
      split_ifs
      · rw [List.filterMap_cons_none hf]
      · rfl
    · have hp := h a List.mem_cons_self b hf
      rw [List.filterMap_cons_some hf, List.filter_cons, List.filter_cons, hp, ih]
      split_ifs
      · rw [List.filterMap_cons_some hf]
      · rfl

section Effect

variable {quizId : Field String} {kind : SubjectKind} {table : List Override}
  {rows : List ImportRow} {row : ImportRow} {x : String} {n : Nat}

/-- What rows make of an override: nothing, or the row that is about it rewrites it. -/
lemma RowsFit.rewriteAll_cases (h : RowsFit quizId kind table rows) (hwf : WellFormed table)
    {o : Override} (ho : o ∈ table) :
    rewriteAll (rows.map ImportRow.change) o = some o ∨
      ∃ row ∈ rows, ∃ x, row.Fits quizId kind table x ∧
        OverrideKey.owns ⟨quizId, kind, x⟩ o = true ∧
        rewriteAll (rows.map ImportRow.change) o = row.change.rewrite o := by
  by_cases htargets : ∃ c ∈ rows.map ImportRow.change, c.targets o = true
  · obtain ⟨c, hc, htargets⟩ := htargets
    have hrewrite := rewriteAll_of_targets h.applicable.distinct hc htargets
    obtain ⟨row, hrow, rfl⟩ := List.mem_map.mp hc
    obtain ⟨x, hfits⟩ := h.fits row hrow
    obtain ⟨id, htarget, hid⟩ := RowChange.targets_iff.mp htargets
    have haction : row.action ≠ .insert := by
      intro haction
      have hnone : row.change.target = none := by
        unfold RowChange.target ImportRow.change
        rw [haction]
      rw [hnone] at htarget
      exact absurd htarget (by simp)
    obtain ⟨o', hfilter, -, htarget'⟩ := hfits.filter_of_target hwf haction
    have ho' : o' ∈ table ∧ OverrideKey.owns ⟨quizId, kind, x⟩ o' = true := by
      have hmem : o' ∈ table.filter (OverrideKey.owns ⟨quizId, kind, x⟩) := by simp [hfilter]
      simpa using hmem
    obtain rfl : o' = o :=
      hwf.eq_of_id_eq ho'.1 ho (htarget'.symm.trans (htarget.trans hid.symm))
    exact .inr ⟨row, hrow, x, hfits, ho'.2, hrewrite⟩
  · refine .inl (rewriteAll_of_not_targets fun c hc => Bool.eq_false_iff.mpr fun h => ?_)
    exact htargets ⟨c, hc, h⟩

/-- **Rewriting keeps the keys** of an override. -/
lemma RowsFit.owns_of_rewriteAll (h : RowsFit quizId kind table rows) (hwf : WellFormed table)
    {o o' : Override} (ho : o ∈ table)
    (hrewrite : rewriteAll (rows.map ImportRow.change) o = some o') (k : OverrideKey) :
    k.owns o' = k.owns o := by
  rcases h.rewriteAll_cases hwf ho with hsame | ⟨row, -, x, hfits, howned, hrow⟩
  · rw [hsame] at hrewrite
    rw [Option.some.inj hrewrite]
  · rw [hrow] at hrewrite
    unfold RowChange.rewrite at hrewrite
    split_ifs at hrewrite
    · obtain rfl := Option.some.inj hrewrite
      have hdata : row.change.draft.data = .forSubject quizId kind (some x) row.draft.data.values :=
        hfits.data
      rw [hdata]
      exact OverrideKey.owns_forSubject howned (hwf.single o ho) _ _ k
    · rw [Option.some.inj hrewrite]

/-- **The overrides of a key after changes**: what they make of those that were there, and then the
inserted ones. -/
theorem filter_applied (h : RowsFit quizId kind table rows) (hwf : WellFormed table) (n : Nat)
    (k : OverrideKey) :
    (applied n (rows.map ImportRow.change) table).filter k.owns =
      (table.filter k.owns).filterMap (rewriteAll (rows.map ImportRow.change)) ++
        (inserted n (rows.map ImportRow.change)).filter k.owns := by
  unfold applied
  rw [List.filter_append]
  congr 1
  exact filter_filterMap_of_kept fun o ho o' ho' => h.owns_of_rewriteAll hwf ho ho' k

/-- A row that fits is owned by its key. -/
lemma ImportRow.Fits.owns (h : row.Fits quizId kind table x) (id : Option String)
    (k : OverrideKey) :
    k.owns ⟨id, row.draft.data⟩ = true ↔ k = ⟨quizId, kind, x⟩ := by
  rw [h.data, OverrideKey.owns_iff]
  rcases k with ⟨q, kind', x'⟩
  cases kind <;> cases kind' <;>
    simp [OverrideData.forSubject, OverrideData.subject, eq_comm]

/-- No override is inserted for a key without an insert. -/
lemma RowsFit.filter_inserted_eq_nil (h : RowsFit quizId kind table rows) {k : OverrideKey}
    (hk : ∀ row ∈ rows, row.action = .insert → ∀ x, row.subjectId = some x →
      k ≠ ⟨quizId, kind, x⟩) :
    (inserted n (rows.map ImportRow.change)).filter k.owns = [] := by
  refine List.filter_eq_nil_iff.mpr fun o ho howned => ?_
  obtain ⟨c, hc, hinsert, hdata, -⟩ := exists_of_mem_inserted ho
  obtain ⟨row, hrow, rfl⟩ := List.mem_map.mp hc
  obtain ⟨x, hfits⟩ := h.fits row hrow
  refine hk row hrow hinsert x hfits.subject ((hfits.owns o.id k).mp ?_)
  rcases o with ⟨id, data⟩
  obtain rfl : data = row.draft.data := hdata
  exact howned

/-- Fewer rows fit as well. -/
lemma RowsFit.sublist {fewer : List ImportRow} (h : RowsFit quizId kind table rows)
    (hsub : fewer.Sublist rows) : RowsFit quizId kind table fewer where
  fits row hrow := h.fits row (hsub.subset hrow)
  distinct := h.distinct.sublist (hsub.map _)
  applicable := h.applicable.sublist (hsub.map _)

/-- Rows about one subject are one. -/
lemma RowsFit.eq_of_subjectId_eq (h : RowsFit quizId kind table rows) {r r' : ImportRow}
    (hr : r ∈ rows) (hr' : r' ∈ rows) (heq : r.subjectId = r'.subjectId) : r = r' :=
  List.inj_on_of_nodup_map h.distinct hr hr' heq

/-- The override that an insert puts into the table is the only inserted one of its key. -/
lemma RowsFit.filter_inserted (h : RowsFit quizId kind table rows) (hrow : row ∈ rows)
    (hfits : row.Fits quizId kind table x) (hinsert : row.action = .insert) (n : Nat) :
    ∃ m, n < m ∧ (inserted n (rows.map ImportRow.change)).filter
      (OverrideKey.owns ⟨quizId, kind, x⟩) = [⟨some (generatedId m), row.draft.data⟩] := by
  induction rows generalizing n with
  | nil => simp at hrow
  | cons first rest ih =>
    have hrest : RowsFit quizId kind table rest := h.sublist (List.sublist_cons_self first rest)
    have hfirst : first.subjectId ∉ rest.map ImportRow.subjectId :=
      (List.nodup_cons.mp h.distinct).1
    rcases List.mem_cons.mp hrow with rfl | hmem
    · -- no row after this one is about its subject
      refine ⟨n + 1, Nat.lt_succ_self n, ?_⟩
      have hnone := hrest.filter_inserted_eq_nil (n := n + 1) (k := ⟨quizId, kind, x⟩)
        fun r hr _ x' hx' heq => by
          simp only [OverrideKey.mk.injEq, true_and] at heq
          rw [hfits.subject, heq, ← hx'] at hfirst
          exact hfirst (List.mem_map_of_mem hr)
      have howned : OverrideKey.owns ⟨quizId, kind, x⟩
          ⟨some (generatedId (n + 1)), row.draft.data⟩ = true := (hfits.owns _ _).mpr rfl
      rw [List.map_cons, inserted, if_pos (show row.change.action = .insert from hinsert),
        List.filter_cons_of_pos (by exact howned), hnone]
      rfl
    · rw [List.map_cons, inserted]
      split_ifs with haction
      · have hother : ¬OverrideKey.owns ⟨quizId, kind, x⟩
            ⟨some (generatedId (n + 1)), first.change.draft.data⟩ = true := by
          obtain ⟨x', hfits'⟩ := h.fits first List.mem_cons_self
          intro howned
          have heq := (hfits'.owns _ _).mp howned
          simp only [OverrideKey.mk.injEq, true_and] at heq
          rw [hfits'.subject, ← heq, ← hfits.subject] at hfirst
          exact hfirst (List.mem_map_of_mem hmem)
        obtain ⟨m, hm, heq⟩ := ih hrest hmem (n + 1)
        rw [List.filter_cons_of_neg hother]
        exact ⟨m, by omega, heq⟩
      · exact ih hrest hmem n

/-! ### What a row does to its key -/

/-- **An insert** gives a subject without an override exactly one. -/
theorem filter_applied_insert (h : RowsFit quizId kind table rows) (hwf : WellFormed table)
    (hrow : row ∈ rows) (hfits : row.Fits quizId kind table x) (hinsert : row.action = .insert)
    (n : Nat) :
    table.filter (OverrideKey.owns ⟨quizId, kind, x⟩) = [] ∧
      ∃ m, n < m ∧ (applied n (rows.map ImportRow.change) table).filter
        (OverrideKey.owns ⟨quizId, kind, x⟩) = [⟨some (generatedId m), row.draft.data⟩] := by
  have hnone := hfits.filter_of_insert hwf hinsert
  obtain ⟨m, hm, hinserted⟩ := h.filter_inserted hrow hfits hinsert n
  refine ⟨hnone, m, hm, ?_⟩
  rw [filter_applied h hwf, hnone, hinserted]
  rfl

/-- What an update or a deletion makes of the only override of its subject. -/
lemma RowsFit.filter_applied_target (h : RowsFit quizId kind table rows) (hwf : WellFormed table)
    (hrow : row ∈ rows) (hfits : row.Fits quizId kind table x) (haction : row.action ≠ .insert)
    (n : Nat) :
    ∃ o, table.filter (OverrideKey.owns ⟨quizId, kind, x⟩) = [o] ∧
      (applied n (rows.map ImportRow.change) table).filter (OverrideKey.owns ⟨quizId, kind, x⟩) =
        (if row.action = .delete then none else some ⟨o.id, row.draft.data⟩ : Option _).toList := by
  obtain ⟨o, hfilter, -, htarget⟩ := hfits.filter_of_target hwf haction
  have ho : o ∈ table := by
    have hmem : o ∈ table.filter (OverrideKey.owns ⟨quizId, kind, x⟩) := by simp [hfilter]
    exact (List.mem_filter.mp hmem).1
  obtain ⟨id, hid, -⟩ := hwf.id_given o ho
  have htargets : row.change.targets o = true :=
    RowChange.targets_iff.mpr ⟨id, htarget.trans hid, hid⟩
  have hrewrite := rewriteAll_of_targets h.applicable.distinct (List.mem_map_of_mem hrow) htargets
  have hinserted : (inserted n (rows.map ImportRow.change)).filter
      (OverrideKey.owns ⟨quizId, kind, x⟩) = [] := by
    refine h.filter_inserted_eq_nil fun r hr hinsert x' hx' heq => ?_
    simp only [OverrideKey.mk.injEq, true_and] at heq
    obtain rfl := h.eq_of_subjectId_eq hr hrow (by rw [hx', hfits.subject, heq])
    exact haction hinsert
  refine ⟨o, hfilter, ?_⟩
  rw [filter_applied h hwf, hfilter, hinserted, List.append_nil]
  have hchange : row.change.rewrite o =
      if row.action = .delete then none else some ⟨o.id, row.draft.data⟩ := by
    unfold RowChange.rewrite
    rw [if_pos htargets]
    rfl
  rw [← hchange, ← hrewrite]
  rcases heq : rewriteAll (rows.map ImportRow.change) o with _ | o' <;> simp [heq]

/-- **An update** replaces the data of the only override of its subject. -/
theorem filter_applied_update (h : RowsFit quizId kind table rows) (hwf : WellFormed table)
    (hrow : row ∈ rows) (hfits : row.Fits quizId kind table x) (hupdate : row.action = .update)
    (n : Nat) :
    ∃ o, table.filter (OverrideKey.owns ⟨quizId, kind, x⟩) = [o] ∧
      (applied n (rows.map ImportRow.change) table).filter (OverrideKey.owns ⟨quizId, kind, x⟩) =
        [⟨o.id, row.draft.data⟩] := by
  obtain ⟨o, hfilter, heq⟩ := h.filter_applied_target hwf hrow hfits (by simp [hupdate]) n
  exact ⟨o, hfilter, by simpa [hupdate] using heq⟩

/-- **A deletion** takes the only override of its subject out. -/
theorem filter_applied_delete (h : RowsFit quizId kind table rows) (hwf : WellFormed table)
    (hrow : row ∈ rows) (hfits : row.Fits quizId kind table x) (hdelete : row.action = .delete)
    (n : Nat) :
    ∃ o, table.filter (OverrideKey.owns ⟨quizId, kind, x⟩) = [o] ∧
      (applied n (rows.map ImportRow.change) table).filter (OverrideKey.owns ⟨quizId, kind, x⟩) =
        [] := by
  obtain ⟨o, hfilter, heq⟩ := h.filter_applied_target hwf hrow hfits (by simp [hdelete]) n
  exact ⟨o, hfilter, by simpa [hdelete] using heq⟩

/-- **What the overrides after changes are**: each has been there, or has the data of a row. -/
lemma RowsFit.mem_applied_cases (h : RowsFit quizId kind table rows) (hwf : WellFormed table)
    {o : Override} (ho : o ∈ applied n (rows.map ImportRow.change) table) :
    o ∈ table ∨ ∃ row ∈ rows, ∃ x, row.Fits quizId kind table x ∧ row.action ≠ .delete ∧
      o.data = row.draft.data := by
  rcases mem_applied.mp ho with ⟨o₀, ho₀, hrewrite⟩ | ho
  · rcases h.rewriteAll_cases hwf ho₀ with hsame | ⟨row, hrow, x, hfits, -, hchange⟩
    · rw [hsame] at hrewrite
      exact .inl (Option.some.inj hrewrite ▸ ho₀)
    · rw [hchange] at hrewrite
      unfold RowChange.rewrite at hrewrite
      split_ifs at hrewrite with htargets hdelete
      · exact .inr ⟨row, hrow, x, hfits, hdelete, by rw [← Option.some.inj hrewrite]; rfl⟩
      · exact .inl (Option.some.inj hrewrite ▸ ho₀)
  · obtain ⟨c, hc, hinsert, hdata, -⟩ := exists_of_mem_inserted ho
    obtain ⟨row, hrow, rfl⟩ := List.mem_map.mp hc
    obtain ⟨x, hfits⟩ := h.fits row hrow
    have haction : row.action = .insert := hinsert
    exact .inr ⟨row, hrow, x, hfits, by simp [haction], hdata⟩

/-- **What rows leave alone**: all overrides that none of them is about, in their order. -/
theorem filter_applied_of_untouched (h : RowsFit quizId kind table rows) (hwf : WellFormed table)
    {p : Override → Bool}
    (hp : ∀ row ∈ rows, ∀ x, row.subjectId = some x → ∀ o : Override, o.data.HasOneSubject →
      OverrideKey.owns ⟨quizId, kind, x⟩ o = true → p o = false) (n : Nat) :
    (applied n (rows.map ImportRow.change) table).filter p = table.filter p := by
  -- what a row writes is about its subject, so that `p` does not hold of it
  have hwritten {row : ImportRow} {x : String} (hrow : row ∈ rows)
      (hfits : row.Fits quizId kind table x) (id : Option String) :
      p ⟨id, row.draft.data⟩ = false := by
    refine hp row hrow x hfits.subject _ ?_ ((hfits.owns id _).mpr rfl)
    change row.draft.data.HasOneSubject
    rw [hfits.data]
    exact OverrideData.hasOneSubject_forSubject _ _ _ _
  -- an override stays as it is, or `p` holds neither of it nor of what becomes of it
  have hkept (o : Override) (ho : o ∈ table) :
      rewriteAll (rows.map ImportRow.change) o = some o ∨ p o = false ∧
        ∀ o', rewriteAll (rows.map ImportRow.change) o = some o' → p o' = false := by
    rcases h.rewriteAll_cases hwf ho with hsame | ⟨row, hrow, x, hfits, howned, hchange⟩
    · exact .inl hsame
    · have hold := hp row hrow x hfits.subject o (hwf.single o ho) howned
      refine .inr ⟨hold, fun o' ho' => ?_⟩
      rw [hchange] at ho'
      unfold RowChange.rewrite at ho'
      split_ifs at ho'
      · rw [← Option.some.inj ho']
        exact hwritten hrow hfits _
      · rw [← Option.some.inj ho']
        exact hold
  have hinserted : (inserted n (rows.map ImportRow.change)).filter p = [] := by
    refine List.filter_eq_nil_iff.mpr fun o ho => ?_
    obtain ⟨c, hc, -, hdata, -⟩ := exists_of_mem_inserted ho
    obtain ⟨row, hrow, rfl⟩ := List.mem_map.mp hc
    obtain ⟨x, hfits⟩ := h.fits row hrow
    rcases o with ⟨id, data⟩
    obtain rfl : data = row.draft.data := hdata
    simp [hwritten hrow hfits id]
  have hrewritten : (table.filterMap (rewriteAll (rows.map ImportRow.change))).filter p =
      (table.filter p).filterMap (rewriteAll (rows.map ImportRow.change)) := by
    refine filter_filterMap_of_kept fun o ho o' ho' => ?_
    rcases hkept o ho with hsame | ⟨hold, hnew⟩
    · rw [hsame] at ho'
      rw [Option.some.inj ho']
    · rw [hold, hnew o' ho']
  have hsame : (table.filter p).filterMap (rewriteAll (rows.map ImportRow.change)) =
      (table.filter p).filterMap some := by
    refine List.filterMap_congr fun o ho => ?_
    obtain ⟨ho, hpo⟩ := List.mem_filter.mp ho
    rcases hkept o ho with hsame | ⟨hold, -⟩
    · exact hsame
    · simp [hold] at hpo
  unfold applied
  rw [List.filter_append, hinserted, List.append_nil, hrewritten, hsame, List.filterMap_some]

/-- A key that no row is about has the overrides that it had. -/
lemma RowsFit.filter_applied_of_not_mem (h : RowsFit quizId kind table rows)
    (hwf : WellFormed table) {k : OverrideKey}
    (hk : ∀ row ∈ rows, ∀ x, row.subjectId = some x → k ≠ ⟨quizId, kind, x⟩) (n : Nat) :
    (applied n (rows.map ImportRow.change) table).filter k.owns = table.filter k.owns := by
  refine filter_applied_of_untouched h hwf (fun row hrow x hx o hone howned => ?_) n
  refine Bool.eq_false_iff.mpr fun howned' => hk row hrow x hx ?_
  -- an override with one subject has one key only
  obtain ⟨hquiz, hsubject⟩ := OverrideKey.owns_iff.mp howned
  obtain ⟨hquiz', hsubject'⟩ := OverrideKey.owns_iff.mp howned'
  rcases o with ⟨id, q, u, g, v⟩
  rcases k with ⟨q', kind', x'⟩
  unfold OverrideData.HasOneSubject at hone
  cases kind <;> cases kind' <;> simp_all [OverrideData.subject]

/-- **Tables stay well-formed** under the changes of rows that fit. -/
theorem WellFormed.applied (hwf : WellFormed table) (h : RowsFit quizId kind table rows)
    (hfresh : Fresh n table) : WellFormed (applied n (rows.map ImportRow.change) table) where
  ids_nodup := nodup_ids_applied _ hfresh hwf.ids_nodup
  id_given o ho := by
    rcases mem_applied.mp ho with ⟨o₀, ho₀, hrewrite⟩ | ho
    · rw [id_of_rewriteAll hrewrite]
      exact hwf.id_given o₀ ho₀
    · obtain ⟨-, -, -, -, m, -, -, hid⟩ := exists_of_mem_inserted ho
      exact ⟨_, hid, generatedId_ne_empty m⟩
  single o ho := by
    rcases h.mem_applied_cases hwf ho with ho | ⟨row, -, x, hfits, -, hdata⟩
    · exact hwf.single o ho
    · rw [hdata, hfits.data]
      exact OverrideData.hasOneSubject_forSubject _ _ _ _
  unique k := by
    -- the row about a key settles it, and a key without a row keeps what it had
    by_cases hk : ∃ row ∈ rows, ∃ x, row.subjectId = some x ∧ k = ⟨quizId, kind, x⟩
    · obtain ⟨row, hrow, x, hx, rfl⟩ := hk
      obtain ⟨x', hfits⟩ := h.fits row hrow
      obtain rfl : x' = x := Option.some.inj (hfits.subject.symm.trans hx)
      by_cases haction : row.action = .insert
      · obtain ⟨-, m, -, heq⟩ := filter_applied_insert h hwf hrow hfits haction n
        rw [heq]
        exact Nat.le_refl 1
      · obtain ⟨o, -, heq⟩ := h.filter_applied_target hwf hrow hfits haction n
        rw [heq]
        exact Option.length_toList_le
    · rw [h.filter_applied_of_not_mem hwf (fun row hrow x hx heq => hk ⟨row, hrow, x, hx, heq⟩)]
      exact hwf.unique k

end Effect

end QuizOverrides
