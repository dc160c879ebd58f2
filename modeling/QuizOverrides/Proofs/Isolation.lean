import QuizOverrides.Proofs.BatchLifecycle
import QuizOverrides.Proofs.Blindness
import QuizOverrides.Proofs.TableInvariant

set_option autoImplicit false

/-!
# Quizzes do not touch each other

A request for a quiz leaves alone what belongs to other quizzes, and what it does for its own quiz
does not depend on them. Overrides are written and batches are removed by their identifiers alone,
so this rests on where the identifiers come from: they have all been found under the quiz.

## Main definitions

* `QuizOverrides.StayWithin` — changes that write to overrides of one quiz only.
* `QuizOverrides.Site.KeepsOthers` — the overrides and batches of other quizzes are as they were.
* `QuizOverrides.Site.within` — a site without other quizzes.
* `QuizOverrides.SameWithin`, `QuizOverrides.WorkAlike` — sites that differ in nothing but other
  quizzes, between requests and during a transaction.

## Main results

* `QuizOverrides.ImportService.Revalidated.stayWithin` — the changes of a commit are such changes.
* `QuizOverrides.StayWithin.others_applied` — they leave the overrides of other quizzes alone.
* `QuizOverrides.sameWithin_veil` — requests for a quiz do not see other quizzes.
* `QuizOverrides.SameWithin.commitChanges` — changes within a quiz are committed alike.
* `QuizOverrides.quizzes_isolated` — both halves, for every step of a session.
-/

namespace QuizOverrides

open QuizOverrides.Action

/-! ### Changes within a quiz -/

/-- **Changes stay within a quiz**: what they write belongs to the quiz, and so does every override
of the table that a change has the identifier of. -/
structure StayWithin (quizId : Field String) (changes : List RowChange) (table : List Override) :
    Prop where
  data : ∀ c ∈ changes, c.draft.data.quizId = quizId
  owned : ∀ c ∈ changes, ∀ id, c.draft.id? = some id → ∀ o ∈ table, o.id = some id →
    o.data.quizId = quizId

/-- The changes of rows without errors stay within the quiz of the run, since the override of a
subject has been found under the quiz. -/
lemma Site.Lists.stayWithin {s : Site} {st : RunSettings} {number : Nat}
    {records : List (List String)} {rows : List ImportRow} (hl : s.Lists st number records rows)
    (herrors : ∀ row ∈ rows, row.errors.isEmpty = true)
    (hids : (s.overrides.map Override.id).Nodup) :
    StayWithin st.quiz.id (rows.map ImportRow.change) s.overrides := by
  constructor
  case data =>
    intro c hc
    obtain ⟨row, hrow, rfl⟩ := List.mem_map.mp hc
    obtain ⟨record, password, -, hlisted⟩ := hl.listedRow hrow (herrors row hrow)
    show row.draft.data.quizId = st.quiz.id
    rw [hlisted.data, RunSettings.draftData_quizId]
  case owned =>
    intro c hc id hid o ho hoid
    obtain ⟨row, hrow, rfl⟩ := List.mem_map.mp hc
    obtain ⟨x, -, o', ho', hoid', howned⟩ := hl.exists_owned hrow (herrors row hrow) hid
    obtain rfl : o = o' := List.inj_on_of_nodup_map hids ho ho' (hoid.trans hoid'.symm)
    exact (OverrideKey.owns_iff.mp howned).1

/-- The changes of a run that can be imported stay within the quiz. -/
lemma ImportService.Revalidated.stayWithin {quizId importId : Field String} {s : Site} {quiz : Quiz}
    {batch : Batch} {run : ImportRun} (h : Revalidated s quizId importId quiz batch run)
    (hcan : run.canImport = true) (hids : (s.overrides.map Override.id).Nodup) :
    StayWithin quizId (changesOf run) s.overrides := by
  obtain ⟨table, -, hpasses⟩ := h.passes
  obtain ⟨hlists, herrors, -⟩ := hpasses.rows_of_canImport hcan
  rw [given_of_quiz? h.quiz_found]
  exact hlists.stayWithin herrors hids

namespace StayWithin

variable {quizId : Field String} {changes : List RowChange} {table : List Override}

/-- Fewer changes stay within the quiz as well. -/
lemma sublist {fewer : List RowChange} (h : StayWithin quizId changes table)
    (hsub : fewer.Sublist changes) : StayWithin quizId fewer table :=
  ⟨fun c hc => h.data c (hsub.subset hc), fun c hc => h.owned c (hsub.subset hc)⟩

/-- They stay within the quiz on another table as well, if the overrides that this one has besides
belong to the quiz. -/
lemma of_mem {table' : List Override} (h : StayWithin quizId changes table)
    (hmem : ∀ o ∈ table', o ∈ table ∨ o.data.quizId = quizId) :
    StayWithin quizId changes table' where
  data := h.data
  owned c hc id hid o ho hoid := by
    rcases hmem o ho with hold | hquiz
    · exact h.owned c hc id hid o hold hoid
    · exact hquiz

/-- What the changes make of an override of the quiz belongs to the quiz. -/
lemma quizId_of_rewriteAll (hdata : ∀ c ∈ changes, c.draft.data.quizId = quizId) {o o' : Override}
    (ho : o.data.quizId = quizId) (h : rewriteAll changes o = some o') :
    o'.data.quizId = quizId := by
  induction changes generalizing o with
  | nil =>
    obtain rfl := Option.some.inj h
    exact ho
  | cons c rest ih =>
    obtain ⟨hc, hrest⟩ := List.forall_mem_cons.mp hdata
    obtain ⟨o₁, h₁, h₂⟩ := Option.bind_eq_some_iff.mp h
    refine ih hrest ?_ h₂
    change c.rewrite o = some o₁ at h₁
    unfold RowChange.rewrite at h₁
    split_ifs at h₁
    · exact Option.some.inj h₁ ▸ hc
    · exact Option.some.inj h₁ ▸ ho

/-- An override of another quiz stays as it is. -/
lemma rewriteAll_of_other (h : StayWithin quizId changes table) {o : Override} (ho : o ∈ table)
    (hother : o.data.quizId ≠ quizId) : rewriteAll changes o = some o := by
  refine rewriteAll_of_not_targets fun c hc => Bool.eq_false_iff.mpr fun htargets => ?_
  obtain ⟨id, htarget, hid⟩ := RowChange.targets_iff.mp htargets
  exact hother (h.owned c hc id (RowChange.id?_of_target htarget) o ho hid)

/-- **The overrides of other quizzes** are left alone. -/
theorem others_applied (h : StayWithin quizId changes table) (n : Nat) :
    (applied n changes table).filter (fun o => o.data.quizId != quizId) =
      table.filter fun o => o.data.quizId != quizId := by
  have hinserted : (inserted n changes).filter (fun o => o.data.quizId != quizId) = [] := by
    refine List.filter_eq_nil_iff.mpr fun o ho => ?_
    obtain ⟨c, hc, -, hdata, -⟩ := exists_of_mem_inserted ho
    simp [hdata, h.data c hc]
  have hkept : ∀ o ∈ table, ∀ o', rewriteAll changes o = some o' →
      (o'.data.quizId != quizId) = (o.data.quizId != quizId) := by
    intro o ho o' ho'
    by_cases hother : o.data.quizId = quizId
    · rw [quizId_of_rewriteAll h.data hother ho', hother]
    · rw [h.rewriteAll_of_other ho hother] at ho'
      rw [Option.some.inj ho']
  have hothers : (table.filter fun o => o.data.quizId != quizId).filterMap (rewriteAll changes) =
      (table.filter fun o => o.data.quizId != quizId).filterMap some := by
    refine List.filterMap_congr fun o ho => ?_
    obtain ⟨ho, hother⟩ := List.mem_filter.mp ho
    exact h.rewriteAll_of_other ho (by simpa using hother)
  unfold applied
  rw [List.filter_append, hinserted, List.append_nil, filter_filterMap_of_kept hkept, hothers,
    List.filterMap_some]

/-- The overrides of the quiz say whether there is one to be changed. -/
lemma hasId_filter (h : StayWithin quizId changes table) {c : RowChange} (hc : c ∈ changes)
    {id : String} (hid : c.draft.id? = some id) :
    hasId (.given id) (table.filter fun o => o.data.quizId == quizId) =
      hasId (.given id) table := by
  rw [Bool.eq_iff_iff, hasId_iff, hasId_iff]
  constructor
  · rintro ⟨o, ho, hoid⟩
    exact ⟨o, List.mem_of_mem_filter ho, hoid⟩
  · rintro ⟨o, ho, hoid⟩
    exact ⟨o, List.mem_filter.mpr ⟨ho, beq_iff_eq.mpr (h.owned c hc id hid o ho hoid)⟩, hoid⟩

/-- Data are replaced among the overrides of the quiz. -/
lemma filter_replaceData (h : StayWithin quizId changes table) {c : RowChange} (hc : c ∈ changes)
    {id : String} (hid : c.draft.id? = some id) :
    (replaceData (.given id) c.draft.data table).filter (fun o => o.data.quizId == quizId) =
      replaceData (.given id) c.draft.data (table.filter fun o => o.data.quizId == quizId) := by
  unfold replaceData
  rw [List.filter_map]
  congr 1
  refine List.filter_congr fun o ho => ?_
  by_cases hholds : (Field.given id).holds o.id = true
  · have hquiz := h.owned c hc id hid o ho (Field.holds_given_iff.mp hholds)
    simp [hholds, hquiz, h.data c hc]
  · simp [hholds]

end StayWithin

/-! ### What is left alone -/

/-- **The overrides and the batches of other quizzes** are as they were, in their order. -/
structure Site.KeepsOthers (quizId : Field String) (s s' : Site) : Prop where
  overrides : (s'.overrides.filter fun o => o.data.quizId != quizId) =
    s.overrides.filter fun o => o.data.quizId != quizId
  batches : (s'.batches.filter fun b => !quizId.holds (some b.quizId)) =
    s.batches.filter fun b => !quizId.holds (some b.quizId)

/-- A batch that is taken away by its identifier is one of the quiz. -/
lemma Site.Numbered.others_of_removed {s : Site} (h : s.Numbered) {quizId importId : Field String}
    {batch : Batch} (hmem : batch ∈ s.batches) (hnamed : batch.NamedBy quizId importId) :
    (s.batches.filter fun b => b.id ≠ batch.id).filter (fun b => !quizId.holds (some b.quizId)) =
      s.batches.filter fun b => !quizId.holds (some b.quizId) := by
  rw [List.filter_filter]
  refine List.filter_congr fun b hb => ?_
  by_cases hid : b.id = batch.id
  · obtain rfl := h.unique b hb batch hmem hid
    simp [Field.holds_some_iff.mpr hnamed.2]
  · simp [hid]

/-- **A request leaves the batches of other quizzes alone.** -/
lemma Request.BatchEffect.others {r : Request} {s s' : Site} {result : Except Refusal Answer}
    (h : r.BatchEffect s result s') (hs : s.Numbered) :
    (s'.batches.filter fun b => !r.quizId.holds (some b.quizId)) =
      s.batches.filter fun b => !r.quizId.holds (some b.quizId) := by
  cases h with
  | left hbatches => rw [hbatches]
  | previewed hquiz hnew hid hbatches =>
    rw [hbatches, hs.freshBatches.putRow_eq (hid.trans hnew), List.filter_append, hquiz]
    simp [Field.holds]
  | committed hr hmem hnamed hbatches | discarded hr hmem hnamed hbatches =>
    subst hr
    rw [hbatches]
    exact hs.others_of_removed hmem hnamed
  | expired habout hmem hnamed _ hbatches =>
    rw [hbatches, Request.quizId_of_about habout]
    exact hs.others_of_removed hmem hnamed

/-- **A request leaves the overrides of other quizzes alone.** -/
lemma Request.others (r : Request) {s : Site} (hids : (s.overrides.map Override.id).Nodup)
    (hfresh : Fresh s.overrideCount s.overrides) :
    ((runOn r.answer.run s).2.overrides.filter fun o => o.data.quizId != r.quizId) =
      s.overrides.filter fun o => o.data.quizId != r.quizId := by
  by_cases hcommit : ∃ quizId importId origin, r = .commit quizId importId origin
  · obtain ⟨quizId, importId, origin, rfl⟩ := hcommit
    unfold answer
    rw [runOn_run_map]
    rcases ImportService.commit_table quizId importId origin rfl hids hfresh with
      ⟨hsame, -⟩ | ⟨quiz, batch, run, done, hrevalidated, hcan, hdone, happlied, -⟩
    · rw [hsame]
    · rw [happlied]
      have hstay := hrevalidated.stayWithin hcan hids
      exact (hstay.sublist (hdone.sublist.map _)).others_applied _
  · rw [overrides_of_ne_commit fun quizId importId origin hr => hcommit ⟨_, _, _, hr⟩]

/-! ### What makes no difference -/

/-- **A site within a quiz**: without the overrides and the batches of other quizzes, and without
the versions of the table that have been superseded. -/
def Site.within (s : Site) (quizId : Field String) : Site :=
  { s with
    overrides := s.overrides.filter fun o => o.data.quizId == quizId
    superseded := []
    batches := s.batches.filter fun b => quizId.holds (some b.quizId) }

/-- Within a quiz there is no other quiz. -/
lemma Site.within_within (s : Site) (quizId : Field String) :
    (s.within quizId).within quizId = s.within quizId := by
  simp [within, List.filter_filter]

/-- Identifiers are those of a database within a quiz as well. -/
lemma Site.FreshIds.within {s : Site} (h : s.FreshIds) (quizId : Field String) :
    (s.within quizId).FreshIds where
  ids_nodup := h.ids_nodup.sublist (List.filter_sublist.map _)
  freshOverrides m hm o ho := h.freshOverrides m hm o (List.mem_of_mem_filter ho)
  freshBatches m hm b hb := h.freshBatches m hm b (List.mem_of_mem_filter hb)

/-- **The sites differ in nothing but other quizzes**, and the identifiers that batches are to be
given are free. -/
structure SameWithin (quizId : Field String) (s t : Site) : Prop where
  within : s.within quizId = t.within quizId
  fresh_left : s.FreshBatches
  fresh_right : t.FreshBatches

namespace SameWithin

variable {quizId : Field String} {s t : Site}

/-- What does not depend on overrides and batches is the same. -/
lemma congr {γ : Type} (h : SameWithin quizId s t) (f : Site → γ)
    (hf : ∀ s : Site, f (s.within quizId) = f s) : f s = f t := by
  rw [← hf s, ← hf t, h.within]

/-- What is done to a site without regard to overrides and batches makes no difference. -/
lemma map (h : SameWithin quizId s t) (f : Site → Site)
    (hf : ∀ s : Site, f (s.within quizId) = (f s).within quizId)
    (hfresh : ∀ s : Site, s.FreshBatches → (f s).FreshBatches) : SameWithin quizId (f s) (f t) where
  within := (hf s).symm.trans ((congrArg f h.within).trans (hf t))
  fresh_left := hfresh s h.fresh_left
  fresh_right := hfresh t h.fresh_right

/-- The overrides of the quiz are the same. -/
lemma overrides (h : SameWithin quizId s t) :
    (s.overrides.filter fun o => o.data.quizId == quizId) =
      t.overrides.filter fun o => o.data.quizId == quizId :=
  congrArg Site.overrides h.within

/-- Sites that agree within a quiz look alike to it. -/
lemma looksLike (h : SameWithin quizId s t) : s.LooksLike quizId t where
  users := h.congr Site.users fun _ => rfl
  groups := h.congr Site.groups fun _ => rfl
  quizzes := h.congr Site.quizzes fun _ => rfl
  options := h.congr Site.options fun _ => rfl
  runtime := h.congr Site.runtime fun _ => rfl
  clock := h.congr Site.clock fun _ => rfl
  overrides := h.overrides
  batches := congrArg Site.batches h.within

/-- An access keeps the agreement within a quiz. -/
lemma accessed (h : SameWithin quizId s t) (table : Table) (kind : Access) :
    SameWithin quizId (s.accessed table kind) (t.accessed table kind) :=
  h.map (fun s => s.accessed table kind) (fun _ => rfl) fun _ hs => hs

/-- An access does not tell sites apart that agree within a quiz. -/
lemma blind_access (table : Table) (kind : Access) :
    Blind (SameWithin quizId) (access table kind).run where
  alike s t h := by
    constructor <;> rw [runOn_access, runOn_access]
    · dsimp only
      rw [h.congr Site.faults fun _ => rfl]
    · exact h.accessed table kind

end SameWithin

/-- A site with a new batch, whose identifiers are free again. -/
lemma Site.FreshBatches.withBatch {s : Site} (h : s.FreshBatches) {batch : Batch}
    (hid : batch.id = Batches.generatedId (s.batchCount + 1)) :
    (s.withBatch batch).FreshBatches := by
  intro m hm b hb
  rcases mem_putRow hb with rfl | hb
  · exact Site.generatedId_ne ⟨s.batchCount + 1, Nat.le_refl _, hid⟩ hm
  · exact h m (Nat.lt_of_succ_lt hm) b hb

/-- **A batch of the quiz** is added within it. -/
lemma SameWithin.withBatch {s t : Site} {id : String} (h : SameWithin (.given id) s t) (mode : Mode)
    (delimiter : Csv.DelimiterChoice) (content : String) (passwords : RowPasswords) :
    SameWithin (.given id) (s.withBatch (s.newBatch id mode delimiter content passwords))
      (t.withBatch (t.newBatch id mode delimiter content passwords)) := by
  have hwithin {s : Site} (hs : s.FreshBatches) :
      (s.withBatch (s.newBatch id mode delimiter content passwords)).within (.given id) =
        { s.within (.given id) with
          batches := (s.within (.given id)).batches ++
            [(s.within (.given id)).newBatch id mode delimiter content passwords]
          batchCount := (s.within (.given id)).batchCount + 1 } := by
    unfold Site.withBatch Site.within
    rw [hs.putRow_eq rfl, List.filter_append]
    simp [Site.newBatch, Field.holds]
  refine ⟨?_, h.fresh_left.withBatch rfl, h.fresh_right.withBatch rfl⟩
  rw [hwithin h.fresh_left, hwithin h.fresh_right, h.within]

/-- **Requests for a quiz do not see other quizzes.** -/
theorem sameWithin_veil (quizId : Field String) : Veil (SameWithin quizId) quizId := by
  refine .of_writes (fun _ _ h => h.looksLike)
    (fun _ _ h => ⟨h.congr Site.batchCount fun _ => rfl, h.congr Site.drawSource fun _ => rfl,
      h.congr Site.drawsMade fun _ => rfl⟩)
    (fun table kind _ => SameWithin.blind_access table kind)
    (fun line _ _ h =>
      h.map (fun s => { s with logs := s.logs ++ [line] }) (fun _ => rfl) fun _ hs => hs)
    (fun f _ _ h =>
      h.map (fun s => { s with console := f s.console }) (fun _ => rfl) fun _ hs => hs)
    (fun _ _ h =>
      h.map (fun s => { s with drawsMade := s.drawsMade + 1 }) (fun _ => rfl) fun _ hs => hs)
    (fun id mode delimiter content passwords hquiz s t h => ?save) fun id s t h => ?remove
  case save =>
    subst hquiz
    exact h.withBatch mode delimiter content passwords
  case remove =>
    refine h.map (fun s => { s with batches := s.batches.filter fun b => b.id ≠ id })
      (fun s => ?_) fun s hs m hm b hb => hs m hm b (List.mem_of_mem_filter hb)
    unfold Site.within
    dsimp only
    rw [List.filter_comm]

/-- Nor does a report. -/
lemma sameWithin_reports (quizId : Field String) : BlindReports (SameWithin quizId) := by
  intro entry
  refine .bind (SameWithin.blind_access .audit .save) fun result => ?_
  rcases result with e | u
  · exact (sameWithin_veil quizId).logLine _
  · refine .bind (.modify fun s t h => ?_) fun _ => (sameWithin_veil quizId).logLine _
    exact h.map (fun s => { s with audit := s.audit ++ [⟨entry, s.clock.instant⟩] })
      (fun _ => rfl) fun _ hs => hs

/-! ### Commits -/

/-- **A site at work within a quiz**: the identifiers that overrides are to be given are free, and
the changes to be made stay within the quiz. -/
structure Site.Works (quizId : Field String) (changes : List RowChange) (s : Site) : Prop where
  fresh : Fresh s.overrideCount s.overrides
  stays : StayWithin quizId changes s.overrides

namespace Site.Works

variable {quizId : Field String} {changes : List RowChange} {s : Site} {c : RowChange}

/-- The site goes on working after an insert. -/
lemma inserted (h : s.Works quizId changes) (hc : c ∈ changes) :
    (s.inserted c.draft.data).Works quizId changes where
  fresh m hm o ho hid := by
    have hm : s.overrideCount + 1 < m := hm
    rcases mem_putRow ho with rfl | ho
    · have := generatedId_injective (Option.some.inj hid)
      omega
    · exact h.fresh m (Nat.lt_of_succ_lt hm) o ho hid
  stays := h.stays.of_mem fun o ho => by
    rcases mem_putRow ho with rfl | ho
    · exact .inr (h.stays.data c hc)
    · exact .inl ho

/-- The site goes on working after an update. -/
lemma replaced (h : s.Works quizId changes) (hc : c ∈ changes) (id : String) :
    (s.supersede (replaceData (.given id) c.draft.data s.overrides)).Works quizId changes where
  fresh m hm o ho hid := by
    obtain ⟨o₀, ho₀, rfl⟩ := List.mem_map.mp ho
    refine h.fresh m hm o₀ ho₀ (Eq.trans ?_ hid)
    split_ifs <;> rfl
  stays := h.stays.of_mem fun o ho => by
    obtain ⟨o₀, ho₀, rfl⟩ := List.mem_map.mp ho
    split_ifs
    · exact .inr (h.stays.data c hc)
    · exact .inl ho₀

/-- The site goes on working after a deletion. -/
lemma removed (h : s.Works quizId changes) (id : String) :
    (s.supersede (removeId (.given id) s.overrides)).Works quizId changes where
  fresh m hm o ho := h.fresh m hm o (List.mem_of_mem_filter ho)
  stays := h.stays.of_mem fun _ ho => .inl (List.mem_of_mem_filter ho)

end Site.Works

/-- The version that was current when others began to be superseded. -/
lemma Site.overridesAt_of_superseded {s : Site} {news olds : List (List Override)}
    (h : s.superseded = news ++ olds) :
    s.overridesAt olds.length = news.getLastD s.overrides := by
  unfold overridesAt version
  rw [h, List.length_append]
  rcases List.eq_nil_or_concat news with rfl | ⟨later, first, rfl⟩
  · simp
  · simp [List.getD_eq_getElem?_getD]

/-- **Sites at work that differ in nothing but other quizzes**, since a transaction began on both of
them. The versions that it has superseded do not differ otherwise either. -/
structure WorkAlike (quizId : Field String) (changes : List RowChange) (start start' s t : Site) :
    Prop where
  same : SameWithin quizId s t
  left : s.Works quizId changes
  right : t.Works quizId changes
  versions : ∃ us vs,
    s.superseded = us ++ start.superseded ∧ t.superseded = vs ++ start'.superseded ∧
    us.map (List.filter fun o => o.data.quizId == quizId) =
      vs.map (List.filter fun o => o.data.quizId == quizId)

namespace WorkAlike

variable {quizId : Field String} {changes : List RowChange} {start start' s t : Site}
  {c : RowChange}

/-- An access does not tell sites apart on which the same changes are at work. -/
lemma blind_access (table : Table) (kind : Access) :
    Blind (WorkAlike quizId changes start start') (access table kind).run where
  alike s t h := by
    obtain ⟨hvalue, hsites⟩ := (SameWithin.blind_access table kind).alike s t h.same
    refine ⟨hvalue, hsites, ?_, ?_, ?_⟩ <;> simp only [runOn_access]
    · exact ⟨h.left.fresh, h.left.stays⟩
    · exact ⟨h.right.fresh, h.right.stays⟩
    · exact h.versions

/-- An override of the quiz is inserted within it. -/
lemma inserted (h : WorkAlike quizId changes start start' s t) (hc : c ∈ changes) :
    WorkAlike quizId changes start start' (s.inserted c.draft.data) (t.inserted c.draft.data) := by
  have hwithin {s : Site} (hs : s.Works quizId changes) :
      (s.inserted c.draft.data).within quizId =
        { s.within quizId with
          overrides := (s.within quizId).overrides ++
            [⟨some (generatedId ((s.within quizId).overrideCount + 1)), c.draft.data⟩]
          overrideCount := (s.within quizId).overrideCount + 1 } := by
    unfold Site.inserted Site.putOverride Site.within
    rw [putRow_of_fresh (hs.fresh _ (Nat.lt_succ_self _)), List.filter_append]
    simp [hs.stays.data c hc]
  refine ⟨⟨?_, h.same.fresh_left, h.same.fresh_right⟩, h.left.inserted hc, h.right.inserted hc,
    h.versions⟩
  rw [hwithin h.left, hwithin h.right, h.same.within]

/-- The table is superseded within the quiz, if what becomes of the overrides of the quiz does not
depend on the others. -/
lemma supersede (h : WorkAlike quizId changes start start' s t)
    {f : List Override → List Override}
    (hf : ∀ table, StayWithin quizId changes table →
      (f table).filter (fun o => o.data.quizId == quizId) =
        f (table.filter fun o => o.data.quizId == quizId))
    (hworks : ∀ s : Site, s.Works quizId changes →
      (s.supersede (f s.overrides)).Works quizId changes) :
    WorkAlike quizId changes start start' (s.supersede (f s.overrides))
      (t.supersede (f t.overrides)) := by
  have hwithin {s : Site} (hs : s.Works quizId changes) :
      (s.supersede (f s.overrides)).within quizId =
        { s.within quizId with overrides := f (s.within quizId).overrides } := by
    unfold Site.supersede Site.within
    dsimp only
    rw [hf _ hs.stays]
  obtain ⟨us, vs, hs, ht, hsame⟩ := h.versions
  refine ⟨⟨?_, h.same.fresh_left, h.same.fresh_right⟩, hworks s h.left, hworks t h.right,
    s.overrides :: us, t.overrides :: vs, congrArg (_ :: ·) hs, congrArg (_ :: ·) ht, ?_⟩
  · rw [hwithin h.left, hwithin h.right, h.same.within]
  · rw [List.map_cons, List.map_cons, hsame, h.same.overrides]

/-- **Changes that stay within the quiz are applied alike.** -/
lemma blind_applyChanges :
    Blind (WorkAlike quizId changes start start') (applyChanges changes .zero).run := by
  refine .applyChanges (fun c hc => .applyChange (fun kind => blind_access .overrides kind)
    (fun s t h => h.same.congr Site.overrideCount fun _ => rfl) (fun s t h => h.inserted hc)
    (fun id hid s t h => ?_) (fun id hid s t h => ?_) fun id _ s t h => ?_) _
  · rw [← h.left.stays.hasId_filter hc hid, ← h.right.stays.hasId_filter hc hid, h.same.overrides]
  · exact h.supersede (fun table htable => htable.filter_replaceData hc hid)
      fun s hs => hs.replaced hc id
  · exact h.supersede (fun table _ => List.filter_comm _ _ table) fun s hs => hs.removed id

/-- **What the transaction returns to** differs in nothing but other quizzes. -/
lemma rolledBack (h : WorkAlike quizId changes start start' s t)
    (hstart : SameWithin quizId start start') :
    SameWithin quizId (s.rolledBack start) (t.rolledBack start') := by
  obtain ⟨us, vs, hs, ht, hsame⟩ := h.versions
  have hwithin (s start : Site) : (s.rolledBack start).within quizId =
      { s.within quizId with
        overrides := (s.rolledBack start).overrides.filter fun o => o.data.quizId == quizId } := by
    unfold Site.rolledBack
    cases s.rollback <;> rfl
  have hbatches (s start : Site) (hs : s.FreshBatches) : (s.rolledBack start).FreshBatches := by
    unfold Site.rolledBack
    cases s.rollback <;> exact hs
  have hversion : (s.overridesAt start.version).filter (fun o => o.data.quizId == quizId) =
      (t.overridesAt start'.version).filter fun o => o.data.quizId == quizId := by
    unfold Site.version
    rw [Site.overridesAt_of_superseded hs, Site.overridesAt_of_superseded ht]
    rw [← List.getLastD_map (f := List.filter fun o : Override => o.data.quizId == quizId), hsame,
      h.same.overrides, List.getLastD_map]
  have hoverrides : (s.rolledBack start).overrides.filter (fun o => o.data.quizId == quizId) =
      (t.rolledBack start').overrides.filter fun o => o.data.quizId == quizId := by
    unfold Site.rolledBack
    rw [h.same.congr Site.rollback fun _ => rfl]
    cases t.rollback with
    | rows => exact hstart.overrides
    | version => exact hversion
  refine ⟨?_, hbatches _ _ h.same.fresh_left, hbatches _ _ h.same.fresh_right⟩
  rw [hwithin, hwithin, h.same.within, hoverrides]

end WorkAlike

/-- **Changes that stay within a quiz are committed alike.** -/
lemma SameWithin.commitChanges {quizId : Field String} {changes : List RowChange} {s t : Site}
    (h : SameWithin quizId s t) (hs : s.Works quizId changes) (ht : t.Works quizId changes) :
    Alike (SameWithin quizId) (commitChanges changes).run s t := by
  have hbegun : SameWithin quizId s.begun t.begun :=
    h.map Site.begun (fun _ => rfl) fun _ hs => hs
  have hwork : WorkAlike quizId changes s.begun t.begun s.begun t.begun :=
    ⟨hbegun, ⟨hs.fresh, hs.stays⟩, ⟨ht.fresh, ht.stays⟩, [], [], rfl, rfl, rfl⟩
  refine Alike.run_bind (.transaction _ ?_ hbegun (WorkAlike.blind_applyChanges.alike _ _ hwork)
    (fun _ _ h' => h'.same) fun _ _ h' => h'.rolledBack hbegun) fun summary _ _ _ _ h' => ?_
  · rw [h.congr Site.faults fun _ => rfl]
  · refine Blind.alike (.run_bind (.lift ?_) fun _ => .pure _) _ _ h'
    exact (sameWithin_veil quizId).logLine _

/-- After a revalidation the site works within the quiz. -/
lemma ImportService.works_of_revalidate {quizId importId : Field String} {s s₁ : Site} {quiz : Quiz}
    {batch : Batch} {run : ImportRun}
    (h : (revalidate quizId importId).Returns s (quiz, batch, run) s₁) (hcan : run.canImport = true)
    (hs : s.FreshIds) : s₁.Works quizId (changesOf run) := by
  obtain ⟨hrevalidated, hrecords⟩ := revalidate_returns h
  constructor
  · rw [show s₁.overrides = s.overrides from congrArg (·.overrides) hrecords,
      show s₁.overrideCount = s.overrideCount from congrArg (·.overrideCount) hrecords]
    exact hs.freshOverrides
  · rw [show s₁.overrides = s.overrides from congrArg (·.overrides) hrecords]
    exact hrevalidated.stayWithin hcan hs.ids_nodup

/-- **Batches of a quiz are committed alike** on sites that differ in nothing but other quizzes. -/
lemma SameWithin.commitsAlike {quizId : Field String} {s t : Site} (hs : s.FreshIds)
    (ht : t.FreshIds) : CommitsAlike (SameWithin quizId) quizId s t :=
  fun _ _ _ _ _ _ hrunS hrunT h hcan =>
    h.commitChanges (ImportService.works_of_revalidate hrunS hcan hs)
      (ImportService.works_of_revalidate hrunT hcan ht)

/-! ### Isolation -/

/-- **Quizzes do not touch each other.** Let a session make a request for a quiz, where identifiers
are those of a database. The request leaves the overrides and the batches of other quizzes as they
are. On every site with such identifiers that differs from this one in nothing but other quizzes, it
has the same outcome and does the same to the overrides and the batches of its quiz and to all else.

**Proof sketch.** A commit writes to overrides that its run has found for subjects of the quiz, and
writes data of the quiz to them; an identifier has one override, so no other quiz has it. What takes
a batch away has found it under the quiz as well. Two sites are then followed side by side. What a
request reads of the overrides and the batches is a search within the quiz, and what it writes
commutes with leaving the other quizzes out, also where a transaction is taken back to a version. -/
theorem quizzes_isolated {start : Site} {events : List Event} {step : SessionStep} {r : Request}
    (hbatches : start.batches = []) (hstep : step ∈ sessionSteps start events)
    (hrequest : step.event.request? = some r) (hids : step.before.FreshIds) :
    step.before.KeepsOthers r.quizId step.after ∧
      ∀ t : Site, t.FreshIds → t.within r.quizId = step.before.within r.quizId →
        (runOn step.event.run t).1 = step.outcome ∧
          (runOn step.event.run t).2.within r.quizId = step.after.within r.quizId := by
  constructor
  · cases step.effect with
    | idle hnone => simp [hrequest] at hnone
    | @asks r' _ _ hrequest' hrun _ hstored _ heffect =>
      obtain rfl : r' = r := Option.some.inj (hrequest'.symm.trans hrequest)
      refine ⟨?_, heffect.others (SessionStep.numbered_of_mem_sessionSteps hbatches hstep)⟩
      have hothers := r'.others hids.ids_nodup hids.freshOverrides
      rw [hrun] at hothers
      rw [show step.after.overrides = _ from congrArg (·.overrides) hstored]
      exact hothers
  · intro t ht hsame
    have h : SameWithin r.quizId t step.before := ⟨hsame, ht.freshBatches, hids.freshBatches⟩
    have halike := (sameWithin_veil r.quizId).event hrequest (sameWithin_reports r.quizId) h
      (SameWithin.commitsAlike ht hids)
    obtain ⟨hvalue, hsites⟩ := halike
    rw [step.runs] at hvalue hsites
    exact ⟨hvalue, hsites.within⟩

/-- The small site with another quiz, which has an override of its own. -/
def crowdedSite : Site :=
  { smallSite with
    quizzes := smallSite.quizzes ++
      [⟨"00000000-0000-4000-8000-0000000000b2", "c-1", some "Other quiz", none⟩]
    overrides := smallSite.overrides ++
      [⟨some "second", .forSubject (.given "00000000-0000-4000-8000-0000000000b2") .user
        (some "u-1") ⟨none, none, some (.finite 5), none, none⟩⟩] }

/-- The ids of the crowded site are not taken by the next inserts. -/
lemma crowdedSite_fresh : Fresh 0 crowdedSite.overrides := by
  intro m hm o ho hid
  rcases List.mem_append.mp ho with ho | ho
  · exact smallSite_fresh m hm o ho hid
  · obtain rfl := List.mem_singleton.mp ho
    have hletter := congrArg (fun id => id.toList.head?) (Option.some.inj hid)
    simp [generatedId] at hletter

/-- The upload of the small file to both quizzes, and the commit of the one to the small quiz. -/
def crowdedSession : List Event :=
  [.request (.preview (.given "00000000-0000-4000-8000-0000000000b2")
      (some ⟨.given "text/csv", smallFile⟩) smallForm ⟨none, none⟩),
    smallUpload, .request (.commit smallQuiz (.given (Batches.generatedId 2)) ⟨none, none⟩)]

/-- On the crowded site the small quiz is handled as if there were no other. -/
theorem quizzes_isolated_crowdedSession :
    (((runOn (runSession crowdedSession) crowdedSite).2.overrides.map fun o =>
        (o.id, o.data.quizId == smallQuiz, o.data.values.timeLimit)) =
      [(some "first", true, some (.finite 60)), (some "second", false, some (.finite 5)),
        (some (generatedId 1), true, none)] ∧
    (runOn (runSession crowdedSession) crowdedSite).2.batches.map Batch.id =
      [Batches.generatedId 1]) ∧
    ∀ step ∈ sessionSteps crowdedSite crowdedSession, ∀ r, step.event.request? = some r →
      step.before.KeepsOthers r.quizId step.after ∧
        (runOn step.event.run (step.before.within r.quizId)).1 = step.outcome ∧
          (runOn step.event.run (step.before.within r.quizId)).2.within r.quizId =
            step.after.within r.quizId := by
  have hsteps : ∀ step ∈ sessionSteps crowdedSite crowdedSession,
      step.before.overrides = crowdedSite.overrides ∧ step.before.overrideCount = 0 := by
    decide +kernel
  refine ⟨by decide +kernel, fun step hstep r hrequest => ?_⟩
  obtain ⟨hoverrides, hcount⟩ := hsteps step hstep
  have hids : step.before.FreshIds := by
    refine ⟨?_, ?_, ?_⟩
    · rw [hoverrides]
      decide
    · rw [hoverrides, hcount]
      exact crowdedSite_fresh
    · exact (SessionStep.numbered_of_mem_sessionSteps rfl hstep).freshBatches
  obtain ⟨hkept, hsame⟩ := quizzes_isolated rfl hstep hrequest hids
  exact ⟨hkept, hsame _ (hids.within r.quizId) (Site.within_within _ _)⟩

end QuizOverrides
