import QuizOverrides.Proofs.Pinned
import QuizOverrides.Proofs.Values

set_option autoImplicit false

/-!
# The invariant of the table of overrides

A table of overrides that is well-formed and has sound values stays so through every session in
which nobody else writes to it. The database does not see to this; the validation of rows does,
together with the passwords that batches have kept.

## Main definitions

* `QuizOverrides.SoundTable` — the tables in question.
* `QuizOverrides.Event.Indirect` — an event that does not write to the table itself.
* `QuizOverrides.Site.Sound` — the invariant of sites, which says more about batches.

## Main results

* `QuizOverrides.ImportService.commit_table` — the table after a commit, whatever it comes to.
* `QuizOverrides.Event.Step.sound` — what an event keeps.
* `QuizOverrides.soundTable_runSession` — what sessions keep.
-/

namespace QuizOverrides

open QuizOverrides.Action

/-- **A sound table**: a well-formed one, in which the values of every override are sound. -/
structure SoundTable (table : List Override) : Prop where
  wellFormed : WellFormed table
  values : ∀ o ∈ table, o.data.values.Sound

/-- **The invariant of sites.** -/
structure Site.Sound (s : Site) : Prop where
  hasIds : s.HasIds
  options : s.options.Admitted
  draws : ∀ n ∈ s.drawSource, 0 ≤ n
  fresh : Fresh s.overrideCount s.overrides
  table : SoundTable s.overrides
  pinned : ∀ batch ∈ s.batches, batch.Pinned ∧ ∀ entry ∈ batch.passwords, SoundPassword entry.2

/-- Nobody writes to the table of overrides, and users and groups that are added have
identifiers. -/
def SiteChange.Indirect : SiteChange → Prop
  | .addUser user => user.id ≠ ""
  | .addGroup group => group.id ≠ ""
  | .addOverride _ _ => False
  | .removeOverride _ => False
  | _ => True

/-- **The event does not write to the table of overrides itself.** It is a request that names a kind
of subject, or an indirect change. -/
def Event.Indirect : Event → Prop
  | .change c => c.Indirect
  | e => e.Typed

/-! ### Commits -/

namespace ImportService

/-- **The table after a commit**, whatever the commit comes to: it is the table before, or that
after the changes of a first part of the rows. -/
theorem commit_table (quizId importId : Field String) (origin : RequestOrigin) {s s' : Site}
    (hs' : s'.records = (runOn (commit quizId importId origin).run s).2.records)
    (hids : (s.overrides.map Override.id).Nodup) (hfresh : Fresh s.overrideCount s.overrides) :
    (s'.overrides = s.overrides ∧ s.overrideCount ≤ s'.overrideCount) ∨
      ∃ quiz batch run done, Revalidated s quizId importId quiz batch run ∧ run.canImport = true ∧
        done <+: run.rows ∧
        s'.overrides = applied s.overrideCount (done.map ImportRow.change) s.overrides ∧
        s.overrideCount + inserts (done.map ImportRow.change) ≤ s'.overrideCount := by
  -- the outcome for a site of which the overrides and their count are known
  have hkept {s₁ : Site} (h : s₁.unbatched = s.unbatched) (hs₁ : s'.records = s₁.records) :
      s'.overrides = s.overrides ∧ s.overrideCount ≤ s'.overrideCount := by
    have hunbatched : s'.unbatched = s.unbatched :=
      (Site.congr_of_mask Site.unbatched hs₁ fun _ => rfl).trans h
    have hcount : s'.overrideCount = s.overrideCount := congrArg (·.overrideCount) hunbatched
    exact ⟨congrArg (·.overrides) hunbatched, Nat.le_of_eq hcount.symm⟩
  have hmade {s₂ s₃ : Site} {run : ImportRun} (hadvanced : s.Advanced (changesOf run) s₂)
      (h : s₃.unbatched = s₂.unbatched) (hs₃ : s'.records = s₃.records) :
      s'.overrides = applied s.overrideCount (run.rows.map ImportRow.change) s.overrides ∧
        s.overrideCount + inserts (run.rows.map ImportRow.change) ≤ s'.overrideCount := by
    have hunbatched : s'.unbatched = s₂.unbatched :=
      (Site.congr_of_mask Site.unbatched hs₃ fun _ => rfl).trans h
    have hcount : s'.overrideCount = s.overrideCount + inserts (changesOf run) :=
      (congrArg (·.overrideCount) hunbatched).trans hadvanced.count
    exact ⟨(congrArg (·.overrides) hunbatched).trans hadvanced.overrides,
      Nat.le_of_eq hcount.symm⟩
  rcases returns_or_throws (commit quizId importId origin) s with ⟨total, s'', h⟩ | ⟨e, s'', h⟩ <;>
    rw [show runOn (commit quizId importId origin).run s = _ from h] at hs'
  · obtain ⟨quiz, batch, run, s₁, s₂, s₃, hrevalidate, hcan, hcommit, hremove, hs₃⟩ :=
      commit_returns h
    have hadvanced := (commitChanges_returns_of_revalidate hrevalidate hcan hcommit hids hfresh).2
    have hremoved := ((Batches.remove_sheds _).returns hremove).unbatched
    exact .inr ⟨quiz, batch, run, run.rows, (revalidate_returns hrevalidate).1, hcan,
      List.prefix_rfl, hmade hadvanced hremoved (hs'.trans hs₃)⟩
  · cases commit_throws h with
    | revalidation hrevalidate =>
      exact .inl (hkept ((revalidate_sheds _ _).throws hrevalidate).unbatched hs')
    | errors hrevalidate =>
      exact .inl (hkept ((revalidate_sheds _ _).returns hrevalidate).unbatched hs')
    | @changes quiz batch run e s₁ s₂ _ hrevalidate hcan hcommit hs'' =>
      obtain ⟨-, done, hdone, hoverrides, hcount⟩ :=
        commitChanges_throws_of_revalidate hrevalidate hcan hcommit hids hfresh
      obtain ⟨rows, hrows, rfl⟩ := List.prefix_map_iff.mp hdone
      have hs₂ : s'.records = s₂.records := hs'.trans hs''
      refine .inr ⟨quiz, batch, run, rows, (revalidate_returns hrevalidate).1, hcan, hrows, ?_, ?_⟩
      · rw [← hoverrides]
        exact Site.congr_of_mask Site.overrides hs₂ fun _ => rfl
      · rw [show s'.overrideCount = s₂.overrideCount from
          Site.congr_of_mask Site.overrideCount hs₂ fun _ => rfl]
        exact hcount
    | @removal quiz batch run total e s₁ s₂ _ hrevalidate hcan hcommit hremove =>
      have hadvanced := (commitChanges_returns_of_revalidate hrevalidate hcan hcommit hids hfresh).2
      have hremoved := ((Batches.remove_sheds _).throws hremove).unbatched
      exact .inr ⟨quiz, batch, run, run.rows, (revalidate_returns hrevalidate).1, hcan,
        List.prefix_rfl, hmade hadvanced hremoved hs'⟩

end ImportService

/-- **A commit keeps the table sound.** -/
theorem Site.Sound.commit {s s' : Site} (h : s.Sound) {quizId importId : Field String}
    {origin : RequestOrigin}
    (hs' : s'.records = (runOn (ImportService.commit quizId importId origin).run s).2.records) :
    Fresh s'.overrideCount s'.overrides ∧ SoundTable s'.overrides := by
  have hwf := h.table.wellFormed
  rcases ImportService.commit_table _ _ _ hs' hwf.ids_nodup h.fresh with
      ⟨hoverrides, hcount⟩ |
      ⟨quiz, batch, run, done, hrevalidated, hcan, hdone, hoverrides, hcount⟩ <;>
    rw [hoverrides]
  · exact ⟨h.fresh.mono hcount, h.table⟩
  · obtain ⟨id, -, hfound⟩ := hrevalidated.batch_found.found
    obtain ⟨hpinned, hpasswords⟩ := h.pinned batch (List.mem_of_find?_eq_some hfound)
    obtain ⟨kind, hmode⟩ := hpinned.mode
    obtain ⟨csv, hcsv, hpasses⟩ := hrevalidated.passes
    have hfit := (hrevalidated.rowsFit hcan hmode h.hasIds hwf).sublist hdone.sublist
    refine ⟨h.fresh.applied.mono hcount, hwf.applied hfit h.fresh, fun o ho => ?_⟩
    rcases hfit.mem_applied_cases hwf ho with hold | ⟨row, hrow, x, -, haction, hdata⟩
    · exact h.table.values o hold
    · have hrow := hdone.subset hrow
      obtain ⟨record, password, -, hlisted, hgenerate⟩ :=
        hrevalidated.listedRow hcan hpinned hcsv hrow
      have herrors := (hpasses.rows_of_canImport hcan).2.1 row hrow
      rw [hdata]
      refine hlisted.sound herrors haction fun hyes => ?_
      obtain ⟨p, hp⟩ := hgenerate hyes
      refine ⟨p, hp, ?_⟩
      obtain ⟨before, after, hlist, -⟩ := List.lookup_eq_some_iff.mp hp
      exact hpasswords (row.number, p) (by simp [hlist])

/-! ### Events -/

/-- A site is sound if it has the users, the groups and the settings of a sound one. -/
lemma Site.Sound.of_settled {s s' : Site} (h : s.Sound) (hs' : s'.settled = s.settled)
    (htable : Fresh s'.overrideCount s'.overrides ∧ SoundTable s'.overrides)
    (hbatches : ∀ batch ∈ s'.batches,
      batch.Pinned ∧ ∀ entry ∈ batch.passwords, SoundPassword entry.2) : s'.Sound where
  hasIds := by
    have husers : s'.users = s.users := congrArg (·.users) hs'
    have hgroups : s'.groups = s.groups := congrArg (·.groups) hs'
    have hids := h.hasIds
    unfold HasIds at hids ⊢
    rwa [husers, hgroups]
  options := by
    rw [show s'.options = s.options from congrArg (·.options) hs']
    exact h.options
  draws := by
    rw [show s'.drawSource = s.drawSource from congrArg (·.drawSource) hs']
    exact h.draws
  fresh := htable.1
  table := htable.2
  pinned := hbatches

/-- What leaves all records but the batches alone keeps the table sound. -/
lemma Site.Sound.of_unbatched {s s' : Site} (h : s.Sound) (hs' : s'.unbatched = s.unbatched)
    (hbatches : ∀ batch ∈ s'.batches,
      batch.Pinned ∧ ∀ entry ∈ batch.passwords, SoundPassword entry.2) : s'.Sound := by
  refine h.of_settled (congr_of_mask Site.settled hs' fun _ => rfl) ?_ hbatches
  rw [show s'.overrides = s.overrides from congrArg (·.overrides) hs',
    show s'.overrideCount = s.overrideCount from congrArg (·.overrideCount) hs']
  exact ⟨h.fresh, h.table⟩

/-- **Indirect changes** keep a site sound. -/
lemma SiteChange.Indirect.sound {c : SiteChange} (hc : c.Indirect) {s : Site} (h : s.Sound) :
    (c.apply s).Sound := by
  have hids := h.hasIds
  cases c with
  | advance ms => exact ⟨h.hasIds, h.options, h.draws, h.fresh, h.table, h.pinned⟩
  | addUser user =>
    refine ⟨⟨fun u hu => ?_, hids.2⟩, h.options, h.draws, h.fresh, h.table, h.pinned⟩
    rcases mem_putRow hu with rfl | hu
    · exact hc
    · exact hids.1 u hu
  | removeUser id =>
    refine ⟨⟨fun u hu => ?_, hids.2⟩, h.options, h.draws, h.fresh, h.table, h.pinned⟩
    exact hids.1 u (List.mem_filter.mp hu).1
  | addGroup group =>
    refine ⟨⟨hids.1, fun g hg => ?_⟩, h.options, h.draws, h.fresh, h.table, h.pinned⟩
    rcases mem_putRow hg with rfl | hg
    · exact hc
    · exact hids.2 g hg
  | removeGroup id =>
    refine ⟨⟨hids.1, fun g hg => ?_⟩, h.options, h.draws, h.fresh, h.table, h.pinned⟩
    exact hids.2 g (List.mem_filter.mp hg).1
  | addOverride id data => exact absurd hc not_false
  | removeOverride id => exact absurd hc not_false
  | addQuiz quiz => exact ⟨h.hasIds, h.options, h.draws, h.fresh, h.table, h.pinned⟩
  | removeQuiz id => exact ⟨h.hasIds, h.options, h.draws, h.fresh, h.table, h.pinned⟩
  | schedule fault => exact ⟨h.hasIds, h.options, h.draws, h.fresh, h.table, h.pinned⟩

/-- Events that do not write to the table themselves are typed. -/
lemma Event.Indirect.typed {e : Event} (he : e.Indirect) : e.Typed := by
  cases e with
  | change c => trivial
  | request r => exact he
  | httpRequest r => exact he

/-- **Every event that does not write to the table itself keeps a site sound.** -/
theorem Event.Step.sound {e : Event} (he : e.Indirect) {s s' : Site} (h : s.Sound)
    (hstep : e.Step s s') : s'.Sound := by
  -- a batch is an old one, or the step has kept an upload with the passwords that it has generated
  have hbatches (batch : Batch) (hbatch : batch ∈ s'.batches) :
      batch.Pinned ∧ ∀ entry ∈ batch.passwords, SoundPassword entry.2 := by
    rcases hstep.batches hbatch with
      hold | ⟨quizId, form, quiz, content, run, hmode, hexamined, rfl⟩
    · exact h.pinned batch hold
    · refine ⟨hexamined.pinned (hmode he.typed), fun entry hentry => ?_⟩
      obtain ⟨table, -, hpasses⟩ := hexamined.passes
      obtain ⟨k, hk⟩ := hpasses.exists_of_mem_generatedPasswords hentry
      rw [hk]
      exact Site.soundPassword_passwordFrom h.options h.draws k
  cases hstep with
  | @change c _ hc hs' =>
    rw [hc] at he
    rw [hs']
    exact he.sound h
  | shed hsheds => exact h.of_unbatched hsheds.unbatched hbatches
  | keep hmode hexamined hs' =>
    have hunbatched : s'.unbatched = (s.withBatch _).unbatched :=
      Site.congr_of_mask Site.unbatched hs' fun _ => rfl
    exact h.of_unbatched hunbatched hbatches
  | @commit quizId importId origin _ hs' =>
    refine h.of_settled ?_ (h.commit hs') hbatches
    have hsettled :
        s'.settled = (runOn (ImportService.commit quizId importId origin).run s).2.settled :=
      Site.congr_of_mask Site.settled hs' fun _ => rfl
    exact hsettled.trans (ImportService.commit_spares _ _ _ _).settled

/-- **The table stays sound through every session** in which nobody else writes to it, if there are
no batches at the start.

**Proof sketch.** The invariant also says that all batches have sound passwords for the rows that
ask for them. A preview keeps such a batch; a commit writes a first part of the rows of a run
without errors, which fit the table; everything else leaves the table alone. -/
theorem soundTable_runSession {events : List Event} {s : Site}
    (hevents : ∀ e ∈ events, Event.Indirect e) (hids : s.HasIds) (hoptions : s.options.Admitted)
    (hdraws : ∀ n ∈ s.drawSource, 0 ≤ n) (hbatches : s.batches = [])
    (hfresh : Fresh s.overrideCount s.overrides) (htable : SoundTable s.overrides) :
    SoundTable (runOn (runSession events) s).2.overrides := by
  have hs : s.Sound := ⟨hids, hoptions, hdraws, hfresh, htable, by simp [hbatches]⟩
  have hkeeps : (runOn (runSession events) s).2.Sound :=
    runSession_keeps (fun e he _ _ h hstep => hstep.sound (hevents e he) h) hs
  exact hkeeps.table

/-- The table of the small site is sound. -/
lemma smallSite_soundTable : SoundTable smallSite.overrides where
  wellFormed := smallSite_wellFormed
  values o ho := by
    obtain rfl := List.mem_singleton.mp ho
    refine ⟨fun w hw => ?_, fun w hw => ?_, fun p hp => ?_, fun o c hopen => ?_, ?_⟩
    · simp [OverrideData.forSubject] at hw
    · obtain rfl : Whole.finite 1 = w := by simpa [OverrideData.forSubject] using hw
      exact ⟨1, rfl, by decide⟩
    · simp [OverrideData.forSubject] at hp
    · simp [OverrideData.forSubject] at hopen
    · simp [OverrideData.forSubject]

/-- The table of the small site, after its upload has been committed. -/
theorem soundTable_smallSession :
    (runOn (runSession [smallUpload, smallCommit]) smallSite).2.overrides.length = 2 ∧
      SoundTable (runOn (runSession [smallUpload, smallCommit]) smallSite).2.overrides := by
  have hevents : ∀ e ∈ [smallUpload, smallCommit], Event.Indirect e := by
    intro e he
    rcases List.mem_cons.mp he with rfl | he
    · exact smallUpload_typed
    · obtain rfl := List.mem_singleton.mp he
      trivial
  have hoptions : smallSite.options.Admitted := by
    constructor <;> decide
  refine ⟨by decide +kernel, ?_⟩
  exact soundTable_runSession hevents smallSite_hasIds hoptions (by simp [smallSite]) rfl
    smallSite_fresh smallSite_soundTable

end QuizOverrides
