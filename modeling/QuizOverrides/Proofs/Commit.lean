import QuizOverrides.Proofs.Assessment
import QuizOverrides.Proofs.Changes

set_option autoImplicit false

/-!
# Commits

Applicable changes are applied unless a storage fault strikes. A commit that returns leaves the
table after its changes; a commit that throws leaves the table after some first part of them, which
is none where storage takes the rows of a failed transaction back.

## Main definitions

* `QuizOverrides.Site.aside`, `QuizOverrides.Site.unwritten` — what a commit leaves alone.
* `QuizOverrides.Site.Calm` — no fault is waiting for what a commit does.
* `QuizOverrides.Site.Advanced` — a site after changes.

## Main results

* `QuizOverrides.applyChanges_returns`, `QuizOverrides.applyChanges_throws` — applying rows.
* `QuizOverrides.commitChanges_returns`, `QuizOverrides.commitChanges_throws` — the commit.
* `QuizOverrides.commitChanges_throws_of_rows` — where rows are taken back, a commit that throws has
  no effect.
* `QuizOverrides.commitChanges_calm` — where no fault is waiting, a commit returns.
-/

namespace QuizOverrides

open QuizOverrides.Action

/-- All of a site but its overrides, the counts of a commit and what its records leave out. -/
def Site.aside (s : Site) : Site :=
  { s.records with overrides := [], superseded := [], overrideCount := 0, transactions := 0 }

/-! ### One change -/

/-- An update is aimed at the override of its draft. -/
lemma RowChange.target_of_update {c : RowChange} (h : c.action = .update) :
    c.target = c.draft.id? := by
  simp [target, h]

/-- A deletion is aimed at the override of its draft. -/
lemma RowChange.target_of_delete {c : RowChange} (h : c.action = .delete) :
    c.target = c.draft.id? := by
  simp [target, h]

/-- A new row is put at the end of a table. -/
lemma putRow_of_fresh {α κ : Type} [BEq κ] [LawfulBEq κ] {key : α → κ} {row : α} {table : List α}
    (h : ∀ r ∈ table, key r ≠ key row) : putRow key row table = table ++ [row] := by
  have hnone : (table.any fun r => key r == key row) = false := by
    simpa using h
  simp [putRow, hnone]

/-- A column agrees with a text that is given if it holds this text. -/
lemma Field.holds_given_iff {a : String} {column : Option String} :
    (given a).holds column = true ↔ column = some a := by
  cases column with
  | none => simp [holds]
  | some b => exact beq_iff_eq.trans (eq_comm.trans Option.some_inj.symm)

/-- A change is about the overrides of its identifier. -/
lemma RowChange.targets_eq_holds {c : RowChange} {id : String} (h : c.target = some id)
    (o : Override) : c.targets o = (Field.given id).holds o.id := by
  unfold targets
  rw [h, Bool.eq_iff_iff, Field.holds_given_iff]
  simp

/-- Replacing data is what an update makes of the table. -/
lemma replaceData_eq {c : RowChange} (haction : c.action = .update) {id : String}
    (hid : c.draft.id? = some id) (table : List Override) :
    replaceData (.given id) c.draft.data table = table.filterMap c.rewrite := by
  have htarget : c.target = some id := (RowChange.target_of_update haction).trans hid
  unfold replaceData
  rw [← List.filterMap_eq_map]
  refine List.filterMap_congr fun o _ => ?_
  unfold RowChange.rewrite
  rw [RowChange.targets_eq_holds htarget, haction]
  by_cases h : (Field.given id).holds o.id = true <;> simp [h]

/-- Taking an override out is what a deletion makes of the table. -/
lemma removeId_eq {c : RowChange} (haction : c.action = .delete) {id : String}
    (hid : c.draft.id? = some id) (table : List Override) :
    removeId (.given id) table = table.filterMap c.rewrite := by
  have htarget : c.target = some id := (RowChange.target_of_delete haction).trans hid
  unfold removeId
  rw [← List.filterMap_eq_filter]
  refine List.filterMap_congr fun o _ => ?_
  unfold RowChange.rewrite
  rw [RowChange.targets_eq_holds htarget, haction]
  by_cases h : (Field.given id).holds o.id = true <;> simp [h, Option.guard]

/-- A given id is in a table if some override has it. -/
lemma hasId_iff {id : String} {table : List Override} :
    hasId (.given id) table = true ↔ ∃ o ∈ table, o.id = some id := by
  simp only [hasId, List.any_eq_true, Field.holds_given_iff]

/-- **The site after a change** that can be applied. -/
def Site.changed (s : Site) (c : RowChange) : Site :=
  { s with
    overrides := applied s.overrideCount [c] s.overrides
    overrideCount := s.overrideCount + inserts [c]
    superseded :=
      if c.action = .update ∨ c.action = .delete then s.overrides :: s.superseded
      else s.superseded }

/-- A skipped row changes nothing. -/
lemma Site.changed_of_skip {s : Site} {c : RowChange} (h : c.action = .skip) :
    s.changed c = s := by
  have htargets : c.rewrite = some := by
    funext o
    exact RowChange.rewrite_of_not_targets (by simp [RowChange.targets, RowChange.target, h])
  simp [changed, applied_singleton, htargets, h, inserts]

/-- The site with an override inserted. -/
def Site.inserted (s : Site) (data : OverrideData) : Site :=
  { s.putOverride ⟨some (generatedId (s.overrideCount + 1)), data⟩ with
    overrideCount := s.overrideCount + 1 }

/-- The site after an insert. -/
lemma Site.changed_of_insert {s : Site} {c : RowChange} (h : c.action = .insert)
    (hfresh : Fresh s.overrideCount s.overrides) :
    s.changed c = s.inserted c.draft.data := by
  have hrewrite : c.rewrite = some := by
    funext o
    exact RowChange.rewrite_of_not_targets (by simp [RowChange.targets, RowChange.target, h])
  have hput : putRow Override.id ⟨some (generatedId (s.overrideCount + 1)), c.draft.data⟩
      s.overrides = s.overrides ++ [⟨some (generatedId (s.overrideCount + 1)), c.draft.data⟩] :=
    putRow_of_fresh (hfresh _ (Nat.lt_succ_self _))
  simp [changed, Site.inserted, putOverride, applied_singleton, hrewrite, h, inserts, hput]

/-- The site after an update. -/
lemma Site.changed_of_update {s : Site} {c : RowChange} (h : c.action = .update) {id : String}
    (hid : c.draft.id? = some id) :
    s.changed c = s.supersede (replaceData (.given id) c.draft.data s.overrides) := by
  simp [changed, supersede, applied_singleton, replaceData_eq h hid, h, inserts]

/-- The site after a deletion. -/
lemma Site.changed_of_delete {s : Site} {c : RowChange} (h : c.action = .delete) {id : String}
    (hid : c.draft.id? = some id) :
    s.changed c = s.supersede (removeId (.given id) s.overrides) := by
  simp [changed, supersede, applied_singleton, removeId_eq h hid, h, inserts]

/-- The run of an insert: an access, and then the override is put into the table. -/
lemma Overrides.runOn_insert (data : OverrideData) (s : Site) :
    runOn (insert data).run s =
      match runOn (access .overrides .save).run s with
      | (.error e, s₁) => (.error e, s₁)
      | (.ok _, s₁) => (.ok (generatedId (s₁.overrideCount + 1)), s₁.inserted data) := by
  unfold insert
  rw [runOn_run_bind]
  rcases runOn (access .overrides .save).run s with ⟨_ | _, s₁⟩ <;> rfl

/-- The run of an update: an access, and then the data are replaced. Only then it shows whether the
override has been there. -/
lemma Overrides.runOn_update (id : String) (data : OverrideData) (s : Site) :
    runOn (update (.given id) data).run s =
      match runOn (access .overrides .update).run s with
      | (.error e, s₁) => (.error e, s₁)
      | (.ok _, s₁) =>
        (if hasId (.given id) s.overrides then .ok () else .error (.overrideGone (.given id)),
          s₁.supersede (replaceData (.given id) data s₁.overrides)) := by
  unfold update
  rw [runOn_run_bind, runOn_access]
  rcases (strike .overrides .update s.faults).1 with _ | e
  · simp only [runOn_run_bind, runOn_run_get, runOn_run_set, Site.accessed_overrides]
    by_cases h : hasId (.given id) s.overrides = true <;> simp only [h, if_true] <;> rfl
  · rfl

/-- The run of a deletion, in the same way. -/
lemma Overrides.runOn_delete (id : String) (s : Site) :
    runOn (delete (.given id)).run s =
      match runOn (access .overrides .delete).run s with
      | (.error e, s₁) => (.error e, s₁)
      | (.ok _, s₁) =>
        (if hasId (.given id) s.overrides then .ok () else .error (.overrideGone (.given id)),
          s₁.supersede (removeId (.given id) s₁.overrides)) := by
  unfold delete
  rw [runOn_run_bind, runOn_access]
  rcases (strike .overrides .delete s.faults).1 with _ | e
  · simp only [runOn_run_bind, runOn_run_get, runOn_run_set, Site.accessed_overrides]
    by_cases h : hasId (.given id) s.overrides = true <;> simp only [h, if_true] <;> rfl
  · rfl

/-- **Applying a change** that can be applied is an access, which may fail, and then the change. -/
lemma applyChange_run {c : RowChange} {s : Site} (haction : c.action ≠ .skip)
    (happ : Applicable [c] s.overrides) (hfresh : Fresh s.overrideCount s.overrides) :
    ∃ kind, runOn (applyChange c).run s =
      match runOn (access .overrides kind).run s with
      | (.error e, s₁) => (.error (.storage e), s₁)
      | (.ok _, s₁) => (.ok (), s₁.changed c) := by
  unfold applyChange
  rcases haction' : c.action with _ | _ | _ | _
  · refine ⟨.save, ?_⟩
    simp only [runOn_run_bind, runOn_run_mapError, Overrides.runOn_insert, runOn_access]
    rcases (strike .overrides .save s.faults).1 with _ | e
    · exact Prod.ext rfl
        (Site.changed_of_insert (s := s.accessed .overrides .save) haction' hfresh).symm
    · rfl
  · obtain ⟨id, hid, hthere⟩ := happ.present c (List.mem_singleton_self c) (.inl haction')
    refine ⟨.update, ?_⟩
    simp only [hid, runOn_run_mapError, Overrides.runOn_update, hasId_iff.mpr hthere, if_true,
      runOn_access]
    rcases (strike .overrides .update s.faults).1 with _ | e
    · exact Prod.ext rfl
        (Site.changed_of_update (s := s.accessed .overrides .update) haction' hid).symm
    · rfl
  · obtain ⟨id, hid, hthere⟩ := happ.present c (List.mem_singleton_self c) (.inr haction')
    refine ⟨.delete, ?_⟩
    simp only [hid, runOn_run_mapError, Overrides.runOn_delete, hasId_iff.mpr hthere, if_true,
      runOn_access]
    rcases (strike .overrides .delete s.faults).1 with _ | e
    · exact Prod.ext rfl
        (Site.changed_of_delete (s := s.accessed .overrides .delete) haction' hid).symm
    · rfl
  · exact absurd haction' haction

/-- An applied change is made on the site as it is but for an access. -/
lemma applyChange_returns {c : RowChange} {s s' : Site} {u : Unit}
    (happ : Applicable [c] s.overrides) (hfresh : Fresh s.overrideCount s.overrides)
    (h : (applyChange c).Returns s u s') : ∃ s₁ : Site, s₁.still = s.still ∧ s' = s₁.changed c := by
  by_cases hskip : c.action = .skip
  · simp only [applyChange, hskip, returns_pure] at h
    obtain ⟨-, rfl⟩ := h
    exact ⟨s, rfl, (Site.changed_of_skip hskip).symm⟩
  · obtain ⟨kind, hrun⟩ := applyChange_run hskip happ hfresh
    unfold Returns at h
    rw [hrun, runOn_access] at h
    rcases hstrike : (strike .overrides kind s.faults).1 with _ | e <;> simp [hstrike] at h
    exact ⟨s.accessed .overrides kind, rfl, h.symm⟩

/-- A change that can be applied is not made only if storage fails. -/
lemma applyChange_throws {c : RowChange} {s s' : Site} {e : RowFailure}
    (happ : Applicable [c] s.overrides) (hfresh : Fresh s.overrideCount s.overrides)
    (h : (applyChange c).Throws s e s') : (∃ err, e = .storage err) ∧ s'.still = s.still := by
  by_cases hskip : c.action = .skip
  · simp only [applyChange, hskip, throws_pure] at h
  · obtain ⟨kind, hrun⟩ := applyChange_run hskip happ hfresh
    unfold Throws at h
    rw [hrun, runOn_access] at h
    rcases hstrike : (strike .overrides kind s.faults).1 with _ | err <;> simp [hstrike] at h
    obtain ⟨rfl, rfl⟩ := h
    exact ⟨⟨err, rfl⟩, rfl⟩

/-- **No fault is waiting** for the overrides or for the beginning of a transaction. -/
def Site.Calm (s : Site) : Prop :=
  ∀ f ∈ s.faults, f.table ≠ .overrides ∧ ¬(f.table = .transactions ∧ f.access = .begin)

/-- A site without faults is calm. -/
lemma Site.calm_of_quiet {s : Site} (hs : s.faults = []) : s.Calm := by
  intro f hf
  rw [hs] at hf
  simp at hf

/-- On a calm site no access to the overrides fails. -/
lemma Site.Calm.strike_overrides {s : Site} (hs : s.Calm) (kind : Access) :
    strike .overrides kind s.faults = (none, s.faults) :=
  strike_eq_of_forall fun f hf haim => (hs f hf).1 haim.1

/-- On a calm site a transaction begins. -/
lemma Site.Calm.strike_begin {s : Site} (hs : s.Calm) :
    strike .transactions .begin s.faults = (none, s.faults) :=
  strike_eq_of_forall fun f hf => (hs f hf).2

/-- Where no fault is waiting, a change that can be applied is made. -/
lemma applyChange_calm {c : RowChange} {s : Site} (happ : Applicable [c] s.overrides)
    (hfresh : Fresh s.overrideCount s.overrides) (hs : s.Calm) :
    ∃ s', (applyChange c).Returns s () s' ∧ s'.faults = s.faults := by
  by_cases hskip : c.action = .skip
  · exact ⟨s, by simp [applyChange, hskip], rfl⟩
  · obtain ⟨kind, hrun⟩ := applyChange_run hskip happ hfresh
    refine ⟨(s.accessed .overrides kind).changed c, ?_, ?_⟩
    · unfold Returns
      rw [hrun, runOn_access, hs.strike_overrides]
    · unfold Site.changed Site.accessed
      rw [hs.strike_overrides]

/-! ### One change after the other -/

/-- **A site after changes.** What was superseded meanwhile stands before what had been superseded,
and the version that was current at the start has become the table after a first part of the
changes. -/
structure Site.Advanced (s : Site) (changes : List RowChange) (s' : Site) : Prop where
  overrides : s'.overrides = applied s.overrideCount changes s.overrides
  count : s'.overrideCount = s.overrideCount + inserts changes
  aside : s'.aside = s.aside
  versions : ∃ news, s'.superseded = news ++ s.superseded
  start : ∃ done, done <+: changes ∧
    s'.overridesAt s.version = applied s.overrideCount done s.overrides

namespace Site.Advanced

variable {s s₁ s' : Site} {c : RowChange} {rest : List RowChange}

/-- No changes advance a site to one that stands still. -/
lemma refl (h : s'.still = s.still) : s.Advanced [] s' where
  overrides := by rw [applied_nil]; exact congr_of_mask Site.overrides h fun _ => rfl
  count := congr_of_mask Site.overrideCount h fun _ => rfl
  aside := congr_of_mask Site.aside h fun _ => rfl
  versions := ⟨[], congr_of_mask Site.superseded h fun _ => rfl⟩
  start := by
    have hversion : s'.superseded = s.superseded := congr_of_mask Site.superseded h fun _ => rfl
    have hoverrides : s'.overrides = s.overrides := congr_of_mask Site.overrides h fun _ => rfl
    refine ⟨[], List.prefix_rfl, ?_⟩
    rw [applied_nil]
    simp [overridesAt, version, hversion, hoverrides]

/-- **A change and then the rest.** -/
lemma cons (happ : Applicable (c :: rest) s.overrides) (hfresh : Fresh s.overrideCount s.overrides)
    (h₁ : s₁.still = s.still) (h : (s₁.changed c).Advanced rest s') :
    s.Advanced (c :: rest) s' := by
  have hoverrides : s₁.overrides = s.overrides := congr_of_mask Site.overrides h₁ fun _ => rfl
  have hcount : s₁.overrideCount = s.overrideCount :=
    congr_of_mask Site.overrideCount h₁ fun _ => rfl
  have hsuperseded : s₁.superseded = s.superseded := congr_of_mask Site.superseded h₁ fun _ => rfl
  have hinserts : inserts (c :: rest) = inserts [c] + inserts rest := by
    simp only [inserts, List.countP_cons, List.countP_nil]
    omega
  obtain ⟨news, hnews⟩ := h.versions
  obtain ⟨done, hdone, hstart⟩ := h.start
  refine ⟨?_, ?_, ?_, ?_, ?_⟩
  · rw [happ.applied_cons hfresh, h.overrides]
    simp only [changed, hoverrides, hcount]
  · rw [h.count, hinserts]
    simp only [changed, hcount]
    omega
  · have haside : (s₁.changed c).aside = s₁.aside := rfl
    rw [h.aside, haside, congr_of_mask Site.aside h₁ fun _ => rfl]
  · rw [hnews]
    simp only [changed, hsuperseded]
    split_ifs
    · exact ⟨news ++ [s₁.overrides], by simp⟩
    · exact ⟨news, rfl⟩
  · by_cases hc : c.action = .update ∨ c.action = .delete
    · -- the table at the start has been superseded by the first change
      have hnews' : s'.superseded = news ++ s.overrides :: s.superseded := by
        rw [hnews]
        simp only [changed, if_pos hc, hoverrides, hsuperseded]
      refine ⟨[], List.nil_prefix, ?_⟩
      rw [applied_nil]
      simp only [overridesAt, version, hnews', List.length_append, List.length_cons]
      rw [if_pos (by omega), show news.length + (s.superseded.length + 1) - 1 -
        s.superseded.length = news.length by omega]
      simp [List.getD_eq_getElem?_getD]
    · -- the version is the same as before the first change
      have hversion : (s₁.changed c).version = s.version := by
        simp only [version, changed, if_neg hc, hsuperseded]
      have hprefix : (c :: done).Sublist (c :: rest) := hdone.sublist.cons_cons c
      refine ⟨c :: done, List.cons_prefix_cons.mpr ⟨rfl, hdone⟩, ?_⟩
      rw [(happ.sublist hprefix).applied_cons hfresh, ← hversion, hstart]
      simp only [changed, hoverrides, hcount]

end Site.Advanced

/-- After the first change the rest can be applied, and the identifiers to be generated are free. -/
lemma Applicable.changed {c : RowChange} {rest : List RowChange} {s s₁ : Site}
    (happ : Applicable (c :: rest) s.overrides) (hfresh : Fresh s.overrideCount s.overrides)
    (h₁ : s₁.still = s.still) :
    Applicable rest (s₁.changed c).overrides ∧
      Fresh (s₁.changed c).overrideCount (s₁.changed c).overrides := by
  have hoverrides : s₁.overrides = s.overrides :=
    Site.congr_of_mask Site.overrides h₁ fun _ => rfl
  have hcount : s₁.overrideCount = s.overrideCount :=
    Site.congr_of_mask Site.overrideCount h₁ fun _ => rfl
  simp only [Site.changed, hoverrides, hcount]
  exact ⟨happ.step _, hfresh.applied⟩

/-- The count of all changes. -/
def CommitSummary.countAll (summary : CommitSummary) (changes : List RowChange) : CommitSummary :=
  changes.foldl (fun t c => t.count c.action) summary

/-- **Every change is counted under its action.** -/
lemma CommitSummary.countAll_eq (summary : CommitSummary) (changes : List RowChange) :
    summary.countAll changes =
      ⟨summary.inserted + changes.countP fun c => c.action == .insert,
        summary.updated + changes.countP fun c => c.action == .update,
        summary.deleted + changes.countP fun c => c.action == .delete⟩ := by
  induction changes generalizing summary with
  | nil => rfl
  | cons c rest ih =>
    change (summary.count c.action).countAll rest = _
    rw [ih]
    cases haction : c.action <;> simp [count, haction, Nat.add_assoc, Nat.add_comm 1]

/-- **Applied changes** are all counted and made. -/
theorem applyChanges_returns {changes : List RowChange} {summary total : CommitSummary}
    {s s' : Site} (happ : Applicable changes s.overrides)
    (hfresh : Fresh s.overrideCount s.overrides)
    (h : (applyChanges changes summary).Returns s total s') :
    total = summary.countAll changes ∧ s.Advanced changes s' := by
  induction changes generalizing s summary with
  | nil =>
    obtain ⟨rfl, rfl⟩ := returns_pure.mp h
    exact ⟨rfl, .refl rfl⟩
  | cons c rest ih =>
    obtain ⟨_, s₂, hchange, hrest⟩ := returns_bind.mp h
    obtain ⟨s₁, hs₁, rfl⟩ := applyChange_returns happ.head hfresh (returns_mapError.mp hchange)
    obtain ⟨happ', hfresh'⟩ := happ.changed hfresh hs₁
    obtain ⟨htotal, hadvanced⟩ := ih happ' hfresh' hrest
    exact ⟨htotal, .cons happ hfresh hs₁ hadvanced⟩

/-- **Changes that are not applied** have been stopped by a storage fault after a first part of
them. -/
theorem applyChanges_throws {changes : List RowChange} {summary : CommitSummary}
    {s s' : Site} {e : CommitError} (happ : Applicable changes s.overrides)
    (hfresh : Fresh s.overrideCount s.overrides)
    (h : (applyChanges changes summary).Throws s e s') :
    ∃ done, done <+: changes ∧ s.Advanced done s' := by
  induction changes generalizing s summary with
  | nil => exact absurd h throws_pure
  | cons c rest ih =>
    rcases throws_bind.mp h with hchange | ⟨_, s₂, hchange, hrest⟩
    · obtain ⟨_, hchange, -⟩ := throws_mapError.mp hchange
      exact ⟨[], List.nil_prefix, .refl (applyChange_throws happ.head hfresh hchange).2⟩
    · obtain ⟨s₁, hs₁, rfl⟩ := applyChange_returns happ.head hfresh (returns_mapError.mp hchange)
      obtain ⟨happ', hfresh'⟩ := happ.changed hfresh hs₁
      obtain ⟨done, hdone, hadvanced⟩ := ih happ' hfresh' hrest
      have hprefix : (c :: done).Sublist (c :: rest) := hdone.sublist.cons_cons c
      exact ⟨c :: done, List.cons_prefix_cons.mpr ⟨rfl, hdone⟩,
        .cons (happ.sublist hprefix) hfresh hs₁ hadvanced⟩

/-- Where no fault is waiting, changes that can be applied are applied. -/
lemma applyChanges_calm {changes : List RowChange} (summary : CommitSummary) {s : Site}
    (happ : Applicable changes s.overrides) (hfresh : Fresh s.overrideCount s.overrides)
    (hs : s.Calm) :
    ∃ total s', (applyChanges changes summary).Returns s total s' ∧ s'.faults = s.faults := by
  induction changes generalizing s summary with
  | nil => exact ⟨summary, s, returns_pure.mpr ⟨rfl, rfl⟩, rfl⟩
  | cons c rest ih =>
    obtain ⟨s₂, hchange, hs₂⟩ := applyChange_calm happ.head hfresh hs
    obtain ⟨s₁, hs₁, rfl⟩ := applyChange_returns happ.head hfresh hchange
    obtain ⟨happ', hfresh'⟩ := happ.changed hfresh hs₁
    have hcalm : (s₁.changed c).Calm := fun f hf => hs f (hs₂ ▸ hf)
    obtain ⟨total, s', hrest, hs'⟩ := ih (summary.count c.action) happ' hfresh' hcalm
    exact ⟨total, s', returns_bind.mpr ⟨(), _, returns_mapError.mpr hchange, hrest⟩, hs'.trans hs₂⟩

/-! ### Transactions -/

/-- The site on which the work of a transaction is done. -/
def Site.begun (s : Site) : Site :=
  Site.accessed { s with transactions := s.transactions + 1 } .transactions .begin

/-- All of a site but what the beginning of a transaction changes. -/
def Site.unbegun (s : Site) : Site := { s with accesses := [], faults := [], transactions := 0 }

namespace Overrides

variable {ε α : Type} {lift : StorageError → ε} {work : Action ε α} {s s' : Site}

/-- The run of a transaction. -/
lemma runOn_transaction_begun (lift : StorageError → ε) (work : Action ε α) (s : Site) :
    runOn (transaction lift work).run s =
      match (strike .transactions .begin s.faults).1 with
      | some e => (.error (lift e), s.begun)
      | none =>
        match runOn work.run s.begun with
        | (.ok a, s') => (.ok a, s')
        | (.error e, s') => (.error e, s'.rolledBack s.begun) := by
  unfold transaction
  rw [show ∀ x : StateM Site (Except ε α), ExceptT.run (ExceptT.mk x) = x from fun _ => rfl]
  simp only [runOn_bind, runOn_modify, runOn_access]
  rcases (strike .transactions .begin s.faults).1 with _ | e
  · simp only [runOn_bind, runOn_get]
    rcases hwork : runOn work.run s.begun with ⟨e | a, s'⟩ <;>
      simp only [Site.begun] at hwork <;> rw [hwork] <;> rfl
  · rfl

/-- The same, by what is known of the site on which the work is done. -/
lemma runOn_transaction (lift : StorageError → ε) (work : Action ε α) (s : Site) :
    ∃ s₁ : Site, s₁.unbegun = s.unbegun ∧
      s₁.faults = (strike .transactions .begin s.faults).2 ∧
      runOn (transaction lift work).run s =
        match (strike .transactions .begin s.faults).1 with
        | some e => (.error (lift e), s₁)
        | none =>
          match runOn work.run s₁ with
          | (.ok a, s₂) => (.ok a, s₂)
          | (.error e, s₂) => (.error e, s₂.rolledBack s₁) :=
  ⟨s.begun, rfl, rfl, runOn_transaction_begun lift work s⟩

/-- A transaction returns what its work does. -/
lemma transaction_returns {a : α} (h : (transaction lift work).Returns s a s') :
    ∃ s₁ : Site, s₁.unbegun = s.unbegun ∧ work.Returns s₁ a s' := by
  obtain ⟨s₁, hs₁, -, hrun⟩ := runOn_transaction lift work s
  refine ⟨s₁, hs₁, ?_⟩
  unfold Returns at h ⊢
  rw [hrun] at h
  rcases hstrike : (strike .transactions .begin s.faults).1 with _ | e <;>
    rcases hwork : runOn work.run s₁ with ⟨e | b, s₂⟩ <;> simp_all

/-- **A transaction that throws** has not begun, or its work threw and was rolled back. -/
lemma transaction_throws {e : ε} (h : (transaction lift work).Throws s e s') :
    s'.unbegun = s.unbegun ∨
      ∃ s₁ s₂ : Site, s₁.unbegun = s.unbegun ∧ work.Throws s₁ e s₂ ∧ s' = s₂.rolledBack s₁ := by
  obtain ⟨s₁, hs₁, -, hrun⟩ := runOn_transaction lift work s
  unfold Throws at h
  rw [hrun] at h
  rcases hstrike : (strike .transactions .begin s.faults).1 with _ | e'
  · rcases hwork : runOn work.run s₁ with ⟨e' | b, s₂⟩ <;> simp [hstrike, hwork] at h
    obtain ⟨rfl, rfl⟩ := h
    exact .inr ⟨s₁, s₂, hs₁, hwork, rfl⟩
  · simp only [hstrike, Prod.mk.injEq] at h
    exact .inl (h.2 ▸ hs₁)

/-- Where no fault is waiting, a transaction returns if its work does. -/
lemma transaction_calm (hs : s.Calm)
    (hwork : ∀ s₁ : Site, s₁.unbegun = s.unbegun → s₁.faults = s.faults →
      ∃ a s', work.Returns s₁ a s' ∧ s'.faults = s₁.faults) :
    ∃ a s', (transaction lift work).Returns s a s' ∧ s'.faults = s.faults := by
  obtain ⟨s₁, hs₁, hfaults, hrun⟩ := runOn_transaction lift work s
  rw [hs.strike_begin] at hfaults hrun
  obtain ⟨a, s', hreturns, hs'⟩ := hwork s₁ hs₁ hfaults
  refine ⟨a, s', ?_, hs'.trans hfaults⟩
  unfold Returns at hreturns ⊢
  rw [hrun, hreturns]

end Overrides

/-! ### The commit -/

/-- All of a site but its transactions and what its records leave out. -/
def Site.tabled (s : Site) : Site := { s.records with transactions := 0 }

/-- What has advanced does so as well from and to sites that differ in logs and accesses only. -/
lemma Site.Advanced.congr {s s₁ s' s₂ : Site} {changes : List RowChange}
    (h : s₁.Advanced changes s₂) (h₁ : s₁.tabled = s.tabled) (h₂ : s₂.tabled = s'.tabled) :
    s.Advanced changes s' := by
  have htabled : s₁.tabled.Advanced changes s₂.tabled :=
    ⟨h.overrides, h.count, h.aside, h.versions, h.start⟩
  rw [h₁, h₂] at htabled
  exact ⟨htabled.overrides, htabled.count, htabled.aside, htabled.versions, htabled.start⟩

/-- All of a site but what the application of rows writes: the overrides and their count, and the
accesses and the faults that it meets. -/
def Site.unapplied (s : Site) : Site :=
  { s with overrides := [], superseded := [], overrideCount := 0, accesses := [], faults := [] }

/-- All of a site but what a commit writes: the overrides, its counts and its logs. -/
def Site.unwritten (s : Site) : Site :=
  { s with
    overrides := [], superseded := [], overrideCount := 0, transactions := 0, accesses := []
    faults := [], logs := [] }

/-- An access leaves alone all that the application of rows does. -/
lemma access_frames_unapplied (table : Table) (kind : Access) :
    Frames Site.unapplied (access table kind).run :=
  (access_looks table kind).frames.comp Site.unapplied

/-- A change is applied to the overrides only. -/
lemma applyChange_frames_unapplied (c : RowChange) :
    Frames Site.unapplied (applyChange c).run := by
  unfold applyChange
  cases c.action with
  | insert =>
    refine .run_bind (.mapError _ fun s => ?_) fun _ => .pure _
    rw [Overrides.runOn_insert]
    have haccess := access_frames_unapplied .overrides .save s
    rcases hrun : runOn (access .overrides .save).run s with ⟨_ | _, s₁⟩ <;>
      rw [hrun] at haccess <;> exact haccess
  | update | delete =>
    rcases c.draft.id? with _ | id
    · exact .pure _
    · refine .mapError _ (.run_bind (access_frames_unapplied _ _) fun _ s => ?_)
      simp only [runOn_run_bind, runOn_run_get, runOn_run_set]
      split <;> rfl
  | skip => exact .pure _

/-- Changes are applied to the overrides only. -/
lemma applyChanges_frames_unapplied (changes : List RowChange) (summary : CommitSummary) :
    Frames Site.unapplied (applyChanges changes summary).run := by
  induction changes generalizing summary with
  | nil => exact .pure _
  | cons c rest ih => exact .run_bind ((applyChange_frames_unapplied c).mapError _) fun _ => ih _

/-- Applying changes writes no more than a commit does. -/
lemma applyChanges_frames (changes : List RowChange) (summary : CommitSummary) :
    Frames Site.unwritten (applyChanges changes summary).run :=
  (applyChanges_frames_unapplied changes summary).comp
    fun s => { s with transactions := 0, logs := [] }

/-- Rolling back leaves alone what a commit never writes. -/
lemma Site.rolledBack_unwritten (s start : Site) :
    (s.rolledBack start).unwritten = s.unwritten := by
  unfold Site.rolledBack
  split <;> rfl

/-- Rolling back keeps the count of the transactions. -/
lemma Site.rolledBack_transactions (s start : Site) :
    (s.rolledBack start).transactions = s.transactions := by
  unfold Site.rolledBack
  split <;> rfl

/-- **A commit writes** overrides, its counts and logs only. -/
lemma commitChanges_frames_unwritten (changes : List RowChange) :
    Frames Site.unwritten (commitChanges changes).run := by
  refine .run_bind (fun s => ?_) fun total => .run_bind (fun _ => rfl) fun _ => .pure _
  obtain ⟨s₁, hs₁, -, hrun⟩ :=
    Overrides.runOn_transaction CommitError.storage (applyChanges changes .zero) s
  have hbegun : s₁.unwritten = s.unwritten :=
    Site.congr_of_mask Site.unwritten hs₁ fun _ => rfl
  have hwork := applyChanges_frames changes .zero s₁
  rw [hrun]
  rcases (strike .transactions .begin s.faults).1 with _ | e
  · rcases hresult : runOn (applyChanges changes .zero).run s₁ with ⟨e | total, s₂⟩ <;>
      rw [hresult] at hwork
    · exact (Site.rolledBack_unwritten s₂ s₁).trans (hwork.trans hbegun)
    · exact hwork.trans hbegun
  · exact hbegun

/-- A commit of changes leaves the other records alone. -/
lemma commitChanges_frames (changes : List RowChange) :
    Frames Site.aside (commitChanges changes).run :=
  (commitChanges_frames_unwritten changes).comp Site.aside

/-- **A commit begins one transaction**, whatever becomes of it. -/
lemma commitChanges_transactions (changes : List RowChange) (s : Site) :
    (runOn (commitChanges changes).run s).2.transactions = s.transactions + 1 := by
  have htransaction : (runOn (Overrides.transaction CommitError.storage
      (applyChanges changes .zero)).run s).2.transactions = s.begun.transactions := by
    rw [Overrides.runOn_transaction_begun]
    rcases (strike .transactions .begin s.faults).1 with _ | e
    · have hwork := congrArg (·.transactions) (applyChanges_frames_unapplied changes .zero s.begun)
      rcases hrun : runOn (applyChanges changes .zero).run s.begun with ⟨e | total, s₁⟩ <;>
        rw [hrun] at hwork
      · exact (Site.rolledBack_transactions s₁ s.begun).trans hwork
      · exact hwork
    · rfl
  unfold commitChanges
  rw [runOn_run_bind]
  rcases hrun : runOn (Overrides.transaction CommitError.storage
    (applyChanges changes .zero)).run s with ⟨e | total, s₁⟩ <;> rw [hrun] at htransaction <;>
    exact htransaction

/-- A commit that throws has had its transaction throw. -/
lemma commitChanges_throws_iff {changes : List RowChange} {s s' : Site} {e : CommitError} :
    (commitChanges changes).Throws s e s' ↔
      (Overrides.transaction .storage (applyChanges changes .zero)).Throws s e s' := by
  unfold commitChanges
  rw [throws_bind]
  refine ⟨fun h => ?_, .inl⟩
  rcases h with h | ⟨total, s₁, -, h⟩
  · exact h
  · rcases throws_bind.mp h with h | ⟨_, _, -, h⟩
    · exact absurd h throws_lift
    · exact absurd h throws_pure

/-- **A commit that returns** has made all its changes. -/
theorem commitChanges_returns {changes : List RowChange} {s s' : Site} {total : CommitSummary}
    (happ : Applicable changes s.overrides) (hfresh : Fresh s.overrideCount s.overrides)
    (h : (commitChanges changes).Returns s total s') :
    total = CommitSummary.zero.countAll changes ∧ s.Advanced changes s' := by
  obtain ⟨total', s₂, htransaction, h⟩ := returns_bind.mp h
  obtain ⟨_, s₃, hlog, h⟩ := returns_bind.mp h
  obtain ⟨rfl, rfl⟩ := returns_pure.mp h
  obtain ⟨s₁, hs₁, hwork⟩ := Overrides.transaction_returns htransaction
  have hoverrides : s₁.overrides = s.overrides := congrArg (·.overrides) hs₁
  have hcount : s₁.overrideCount = s.overrideCount := congrArg (·.overrideCount) hs₁
  rw [← hoverrides] at happ hfresh
  rw [← hcount] at hfresh
  obtain ⟨htotal, hadvanced⟩ := applyChanges_returns happ hfresh hwork
  have hlogged : s₃.records = s₂.records := (logLine_frames _).lift.returns hlog
  exact ⟨htotal, hadvanced.congr (Site.congr_of_mask Site.tabled hs₁ fun _ => rfl)
    (Site.congr_of_mask Site.tabled hlogged fun _ => rfl).symm⟩

/-- **A commit that throws** leaves the table after a first part of its changes. -/
theorem commitChanges_throws {changes : List RowChange} {s s' : Site} {e : CommitError}
    (happ : Applicable changes s.overrides) (hfresh : Fresh s.overrideCount s.overrides)
    (h : (commitChanges changes).Throws s e s') :
    s'.aside = s.aside ∧ ∃ done, done <+: changes ∧
      s'.overrides = applied s.overrideCount done s.overrides ∧
      s.overrideCount + inserts done ≤ s'.overrideCount := by
  rcases Overrides.transaction_throws (commitChanges_throws_iff.mp h) with
    hnone | ⟨s₁, s₂, hs₁, hwork, rfl⟩
  · have hoverrides : s'.overrides = s.overrides := congrArg (·.overrides) hnone
    have hcount : s'.overrideCount = s.overrideCount := congrArg (·.overrideCount) hnone
    exact ⟨(commitChanges_frames changes).throws h, [], List.nil_prefix,
      by rw [hoverrides, applied_nil], by rw [hcount]; exact Nat.le_refl _⟩
  · have hoverrides : s₁.overrides = s.overrides := congrArg (·.overrides) hs₁
    have hcount : s₁.overrideCount = s.overrideCount := congrArg (·.overrideCount) hs₁
    rw [← hoverrides] at happ hfresh
    rw [← hcount] at hfresh
    obtain ⟨done, hdone, hadvanced⟩ := applyChanges_throws happ hfresh hwork
    obtain ⟨kept, hkept, hstart⟩ := hadvanced.start
    refine ⟨(commitChanges_frames changes).throws h, ?_⟩
    -- what stays of the first part depends on how storage takes rows back
    unfold Site.rolledBack
    cases s₂.rollback with
    | rows =>
      refine ⟨[], List.nil_prefix, by rw [applied_nil]; exact hoverrides, ?_⟩
      change s.overrideCount + 0 ≤ s₂.overrideCount
      rw [hadvanced.count, hcount]
      omega
    | version =>
      refine ⟨kept, hkept.trans hdone, ?_, ?_⟩
      · change s₂.overridesAt s₁.version = _
        rw [hstart, hcount, hoverrides]
      · change s.overrideCount + inserts kept ≤ s₂.overrideCount
        have hle : inserts kept ≤ inserts done := hkept.sublist.countP_le
        rw [hadvanced.count, hcount]
        omega

/-- **Where the rows of a failed transaction are taken back**, a commit that throws leaves the
overrides as they were, whatever its changes are. -/
theorem commitChanges_throws_of_rows {changes : List RowChange} {s s' : Site} {e : CommitError}
    (hrows : s.rollback = .rows) (h : (commitChanges changes).Throws s e s') :
    s'.overrides = s.overrides := by
  rcases Overrides.transaction_throws (commitChanges_throws_iff.mp h) with
    hnone | ⟨s₁, s₂, hs₁, hwork, rfl⟩
  · exact congrArg (·.overrides) hnone
  · have hrollback : s₂.rollback = .rows := by
      have hunwritten := (applyChanges_frames changes .zero).throws hwork
      rw [← hrows]
      exact (congrArg (·.rollback) hunwritten).trans (congrArg (·.rollback) hs₁)
    unfold Site.rolledBack
    rw [hrollback]
    exact congrArg (·.overrides) hs₁

/-- **Where no fault is waiting, a commit of applicable changes returns.** -/
theorem commitChanges_calm {changes : List RowChange} {s : Site}
    (happ : Applicable changes s.overrides) (hfresh : Fresh s.overrideCount s.overrides)
    (hs : s.Calm) :
    ∃ total s', (commitChanges changes).Returns s total s' ∧ s'.faults = s.faults := by
  have hwork (s₁ : Site) (hs₁ : s₁.unbegun = s.unbegun) (hfaults : s₁.faults = s.faults) :
      ∃ total s', (applyChanges changes .zero).Returns s₁ total s' ∧ s'.faults = s₁.faults := by
    have hoverrides : s₁.overrides = s.overrides := congrArg (·.overrides) hs₁
    have hcount : s₁.overrideCount = s.overrideCount := congrArg (·.overrideCount) hs₁
    exact applyChanges_calm _ (by rwa [hoverrides]) (by rwa [hoverrides, hcount])
      fun f hf => hs f (hfaults ▸ hf)
  obtain ⟨total, s₂, htransaction, hs₂⟩ :
      ∃ total s₂, (Overrides.transaction CommitError.storage
        (applyChanges changes .zero)).Returns s total s₂ ∧ s₂.faults = s.faults :=
    Overrides.transaction_calm hs hwork
  exact ⟨total, _, returns_bind.mpr ⟨total, s₂, htransaction,
    returns_bind.mpr ⟨_, _, returns_lift.mpr rfl, returns_pure.mpr ⟨rfl, rfl⟩⟩⟩, hs₂⟩

end QuizOverrides
