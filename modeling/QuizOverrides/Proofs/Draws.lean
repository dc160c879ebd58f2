import QuizOverrides.Proofs.PreviewCommit

set_option autoImplicit false

/-!
# Random draws

Passwords are drawn for previews only. The batch of a preview has a password for every record that
asks for one, so that a commit finds each of them there: it makes no draw, whatever has become of
the tables in the meantime, and it writes the passwords that the preview has shown.

## Main definitions

* `QuizOverrides.ShownPasswords` — rows have the passwords that earlier rows have shown.

## Main results

* `QuizOverrides.scanRecords_drawsMade` — a run with all passwords makes no draw.
* `QuizOverrides.ImportService.commit_drawsMade` — neither does the commit of a batch with all of
  its passwords.
* `QuizOverrides.ImportService.passwords_of_preview` — the passwords of a preview and its commit.
-/

namespace QuizOverrides

open QuizOverrides.Action

/-! ### Runs without draws -/

/-- What look-ups leave alone includes the number of draws. -/
lemma Frames.drawsMade {α : Type} {x : StateM Site α} (h : Frames Site.still x) :
    Frames Site.drawsMade x :=
  h.comp Site.drawsMade

/-- A line of the log makes no draw. -/
lemma logLine_frames_drawsMade (line : LogLine) : Frames Site.drawsMade (logLine line) :=
  fun _ => rfl

/-- A password that is there already is not drawn. -/
lemma rowPassword_drawsMade {row : ValidatedRow} {pinned : Option String}
    (h : row.asksPassword = true → ∃ p, pinned = some p) :
    Frames Site.drawsMade (rowPassword row pinned) := by
  intro s
  unfold rowPassword
  split_ifs with hasks
  · obtain ⟨p, rfl⟩ := h hasks
    rfl
  · rfl

/-- No draw is made for a record whose password is there if it asks for one. -/
lemma assessRecord_drawsMade {st : RunSettings} {number : Nat} {record : List String}
    (h : (Cells.ofRecord record).generate = Cells.generateYes →
      ∃ p, st.pinned.lookup number = some p) :
    Frames Site.drawsMade (assessRecord st number record).run := by
  rw [assessRecord_eq]
  have hlooks := st.lookUp_looks record
  refine hlooks.frames_bind hlooks.frames.drawsMade fun s => .run_bind (.lift ?_) fun _ => .pure _
  exact rowPassword_drawsMade fun hasks => h (Site.asksPassword_rowOf.mp hasks)

/-- **A run with all passwords** makes no draw. -/
theorem scanRecords_drawsMade {st : RunSettings} {number : Nat} {records : List (List String)}
    (h : ∀ (i : Nat) (record : List String), records[i]? = some record →
      (Cells.ofRecord record).generate = Cells.generateYes →
      ∃ p, st.pinned.lookup (number + i + 1) = some p) :
    Frames Site.drawsMade (scanRecords st number records) :=
  scanRecords_frames_of fun i record hi => assessRecord_drawsMade (h i record hi)

/-! ### Commits without draws -/

/-- A report makes no draw. -/
lemma Audit.report_drawsMade (e : AuditEntry) : Frames Site.drawsMade (Audit.report e) := by
  refine .bind (access_looks _ _).frames.drawsMade fun result => ?_
  rcases result with _ | _
  · exact logLine_frames_drawsMade _
  · exact .bind (fun _ => rfl) fun _ => logLine_frames_drawsMade _

/-- Removing a batch makes no draw. -/
lemma Batches.remove_drawsMade (id : String) : Frames Site.drawsMade (remove id).run := by
  intro s
  rw [runOn_remove, runOn_access]
  rcases (strike .batches .delete s.faults).1 with _ | e <;> rfl

/-- Finding a batch makes no draw. -/
lemma Batches.find_drawsMade (quizId importId : Field String) :
    Frames Site.drawsMade (find quizId importId).run :=
  find_frames_of (access_looks _ _).frames.drawsMade remove_drawsMade quizId importId

/-- Committing changes makes no draw. -/
lemma commitChanges_drawsMade (changes : List RowChange) :
    Frames Site.drawsMade (commitChanges changes).run :=
  (commitChanges_frames_unwritten changes).comp Site.drawsMade

/-- The commit of a run makes no draw. -/
lemma ImportRun.commit_drawsMade (run : ImportRun) : Frames Site.drawsMade run.commit :=
  ImportService.commit_frames_of logLine_frames_drawsMade (commitChanges_drawsMade _)

namespace ImportService

/-- A batch with all of its passwords is revalidated without a draw. -/
lemma revalidate_drawsMade {quizId importId : Field String} {s : Site}
    (h : ∀ id, issuedId? importId = some id → ∀ batch ∈ s.batches, batch.id = id →
      batch.HasPasswords) :
    (runOn (revalidate quizId importId).run s).2.drawsMade = s.drawsMade := by
  refine Frames.run_bind_of_returns ((findQuiz_frames quizId).drawsMade s)
    fun quiz s₁ hquiz => ?_
  refine Frames.run_bind_of_returns (Batches.find_drawsMade _ _ s₁) fun batch s₂ hbatch => ?_
  obtain ⟨⟨id, hissued, hfound⟩, -⟩ := (Batches.find_returns hbatch).1
  have hpasswords : batch.HasPasswords := by
    have hbatches : s₁.batches = s.batches :=
      Site.congr_of_mask Site.batches (findQuiz_returns hquiz).2 fun _ => rfl
    rw [hbatches] at hfound
    have hid := List.find?_some hfound
    simp only [Bool.and_eq_true, beq_iff_eq] at hid
    exact h id hissued batch (List.mem_of_find?_eq_some hfound) hid.1
  refine Frames.run_bind_of_returns (usable_frames _ s₂) fun table s₃ htable => ?_
  refine Frames.run_bind (runTable_frames_of logLine_frames_drawsMade ?_) (fun _ => .pure _) s₃
  refine scanRecords_drawsMade fun i record hi hasks => ?_
  rw [Nat.zero_add]
  exact hpasswords table (returns_usable.mp htable).1 i record hi hasks

/-- **The commit of a batch with all of its passwords** makes no draw, whether it returns or
throws. -/
theorem commit_drawsMade {quizId importId : Field String} (origin : RequestOrigin) {s : Site}
    (h : ∀ id, issuedId? importId = some id → ∀ batch ∈ s.batches, batch.id = id →
      batch.HasPasswords) :
    (runOn (commit quizId importId origin).run s).2.drawsMade = s.drawsMade := by
  refine Frames.run_bind_of_returns (revalidate_drawsMade h) fun found s₁ _ => ?_
  obtain ⟨quiz, batch, run⟩ := found
  dsimp only
  split_ifs
  · exact Frames.run_bind_of_returns rfl fun _ _ h => absurd h returns_throw
  · refine Frames.run_bind (.lift run.commit_drawsMade) (fun result => ?_) s₁
    obtain ⟨-, run'⟩ := result
    dsimp only
    split
    · exact .run_bind (.lift (Audit.report_drawsMade _)) fun _ => .pure _
    · exact .run_bind (.mapError _ (Batches.remove_drawsMade _)) fun _ =>
        .run_bind (.lift (Audit.report_drawsMade _)) fun _ => .pure _

end ImportService

/-! ### Shown passwords -/

/-- **Rows have the passwords that earlier rows have shown**, where both are rows of the records of
`csv`. A record that asks for a password is inserted or updated with the one that has been shown
under its number. Any other record has the password of its own cell, or none. -/
structure ShownPasswords (csv : Csv.Table) (shown rows : List ImportRow) : Prop where
  asked : ∀ (i : Nat) (record : List String), csv.records[i]? = some record →
    (Cells.ofRecord record).generate = Cells.generateYes →
    ∃ p, (∃ row ∈ shown, row.number = i + 1) ∧
      (∀ row ∈ shown, row.number = i + 1 → row.draft.data.values.password = some p) ∧
      ∃ row ∈ rows, row.number = i + 1 ∧ (row.action = .insert ∨ row.action = .update) ∧
        row.draft.data.values.password = some p
  own : ∀ row ∈ rows, ∃ i record, row.number = i + 1 ∧ csv.records[i]? = some record ∧
    ((Cells.ofRecord record).generate ≠ Cells.generateYes →
      row.draft.data.values.password = given? (some (Cells.ofRecord record).password))

/-- A password cell without an error is the password, unless it is empty. -/
lemma readPassword_value {cell : String} (h : (readPassword cell).error = none) :
    (readPassword cell).value = given? (some cell) := by
  unfold readPassword at h ⊢
  split_ifs at h ⊢ with hempty
  · rw [hempty]
    rfl
  · simp [CellReading.bad] at h
  · simp [CellReading.bad] at h
  · exact (given?_some hempty).symm

/-- A row that is not blank is an insert or an update. -/
lemma OverrideAction.decide_of_not_blank (existing : Bool) :
    decide false existing = .insert ∨ decide false existing = .update := by
  cases existing
  · exact .inl rfl
  · exact .inr rfl

/-- **A later run with the passwords of an earlier one** has the passwords that the earlier one has
shown, whatever has become of the tables. -/
theorem Site.Passes.shownPasswords {s t : Site} {csv : Csv.Table} {mode mode' : Mode}
    {quiz quiz' : Quiz} {run run' : ImportRun} (h : s.Passes csv mode quiz [] run)
    (h' : t.Passes csv mode' quiz' run.generatedPasswords run') (hcan : run'.canImport = true) :
    ShownPasswords csv run.rows run'.rows := by
  obtain ⟨rows, hlists, hrows⟩ := h.listed
  obtain ⟨hlists', herrors, -⟩ := h'.rows_of_canImport hcan
  -- what the listed rows are made of, by the record of each
  have hlisted (row : ImportRow) (hrow : row ∈ run'.rows) : ∃ i record, row.number = i + 1 ∧
      csv.records[i]? = some record ∧ row.action = .decide (Cells.ofRecord record).isBlank
        (given? row.draft.id).isSome ∧
      row.draft.data.values =
        (Cells.ofRecord record).written (run.generatedPasswords.lookup row.number) ∧
      (readPassword (Cells.ofRecord record).password).error = none := by
    obtain ⟨record, password, hrecord, hlisted⟩ := hlists'.listedRow hrow (herrors row hrow)
    obtain ⟨_, _, ⟨hpositive, -⟩, -⟩ := hlists'.exists_record hrow
    have hnumber : row.number = row.number - 0 - 1 + 1 := by omega
    have hvalues := hlisted.values fun hgenerate => by
      rw [hlisted.cells] at hgenerate
      obtain ⟨p, hp, -⟩ := hlists.exists_generated hrows hrecord hgenerate
      exact ⟨p, by rw [hnumber]; exact hp⟩
    have haction := hlisted.action
    have herror := herrors row hrow
    rw [hlisted.errors] at herror
    rw [hlisted.cells] at hvalues haction
    exact ⟨_, record, hnumber, hrecord, haction, hvalues,
      (errors_of_assembleRow herror).2.2.2.2.1⟩
  refine ⟨fun i record hrecord hgenerate => ?_, fun row hrow => ?_⟩
  · obtain ⟨p, hp, row, hrow, hnumber, hpassword⟩ :=
      hlists.exists_generated hrows hrecord hgenerate
    -- marking duplicates changes neither numbers nor passwords
    have hshown : run.rows.map (fun row => (row.number, row.draft.data.values.password)) =
        rows.map fun row => (row.number, row.draft.data.values.password) := by
      rw [hrows]
      exact markFrom_map _ (fun _ _ => rfl) [] rows
    refine ⟨p, ?_, fun row' hrow' hnumber' => ?_, ?_⟩
    · have hmem := List.mem_map_of_mem (f := fun row : ImportRow =>
        (row.number, row.draft.data.values.password)) hrow
      rw [← hshown] at hmem
      obtain ⟨row', hrow', heq⟩ := List.mem_map.mp hmem
      exact ⟨row', hrow', (congrArg Prod.fst heq).trans hnumber⟩
    · have hmem := List.mem_map_of_mem (f := fun row : ImportRow =>
        (row.number, row.draft.data.values.password)) hrow'
      rw [hshown] at hmem
      obtain ⟨row'', hrow'', heq⟩ := List.mem_map.mp hmem
      have hnumber'' : row''.number = row.number :=
        (congrArg Prod.fst heq).trans (hnumber'.trans hnumber.symm)
      obtain rfl := hlists.eq_of_number hrow'' hrow hnumber''
      exact (congrArg Prod.snd heq).symm.trans hpassword
    · obtain ⟨row', hrow', hnumber', hgenerated⟩ := hlists'.exists_row_of_asks hrecord
        (Site.asksPassword_rowOf.mpr hgenerate)
      rw [Nat.zero_add] at hnumber'
      obtain ⟨j, record', hj, hrecord', haction, hvalues, -⟩ := hlisted row' hrow'
      obtain rfl : j = i := by omega
      obtain rfl : record' = record := Option.some.inj (hrecord'.symm.trans hrecord)
      refine ⟨row', hrow', hnumber', ?_, ?_⟩
      · have hasks : (t.rowOf (.ofQuiz mode' quiz' run.generatedPasswords)
            record').asksPassword = true := Site.asksPassword_rowOf.mpr hgenerate
        rw [haction, Site.not_blank_of_asks hasks]
        exact OverrideAction.decide_of_not_blank _
      · rw [hvalues, hnumber', hp]
        unfold Cells.written
        rw [if_pos hgenerate]
  · obtain ⟨i, record, hi, hrecord, -, hvalues, herror⟩ := hlisted row hrow
    refine ⟨i, record, hi, hrecord, fun hgenerate => ?_⟩
    rw [hvalues, ← readPassword_value herror]
    unfold Cells.written
    rw [if_neg hgenerate]

namespace ImportService

/-- **The passwords of a preview and its commit.** After a preview and any session that follows it,
the commit of the import makes no draw. If it returns, then the changes of its transaction are those
of rows over the records of the upload: a record that asks for a password is inserted or updated
with the one that the preview has shown under its number, and any other row has the password of its
own cell. In a table whose identifiers are different, and the next ones free, these rows have been
written.

**Proof sketch.** The batch has a password for every record that asks for one, because such a record
is never blank and therefore always listed. Batches do not change, so the commit finds the password
of each of these records under its number, at whatever subject and override it arrives. -/
theorem passwords_of_preview {quizId : Field String} {bytes : ByteArray} {form : ImportForm}
    {origin : RequestOrigin} {s s₁ t : Site} {p : Preview} {events : List Event}
    (hpreview : (preview quizId bytes form origin).Returns s p s₁)
    (ht : (runOn (runSession events) s₁).2 = t) (quizId' : Field String)
    (origin' : RequestOrigin) :
    (runOn (commit quizId' (.given p.importId) origin').run t).2.drawsMade = t.drawsMade ∧
    ∀ total t', (commit quizId' (.given p.importId) origin').Returns t total t' →
      ∃ label content csv rows t₁ t₂,
        encodingLabel form = .ok label ∧
          decodeUpload s.runtime.decoders label bytes = .ok content ∧
        Csv.Table.ofChoice content form.delimiter = .ok csv ∧ t₁.records = t.records ∧
        (commitChanges (rows.map ImportRow.change)).Returns t₁ total t₂ ∧
        t'.overrides = t₂.overrides ∧ ShownPasswords csv p.rows rows ∧
        ((t.overrides.map Override.id).Nodup → Fresh t.overrideCount t.overrides →
          RowsWritten rows t.overrides t'.overrides) := by
  obtain ⟨quiz, content, run, s₀, hexamine, rfl, hs₁⟩ := preview_returns_examine hpreview
  obtain ⟨⟨label, hlabel, hdecoded⟩, hexamined⟩ := examine_returns_decoded hexamine
  obtain ⟨csv, hcsv, hpasses⟩ := hexamined.passes
  -- whatever batch is found under the identifier of the preview is the one that it has kept
  have hkept (id : String) (hissued : issuedId?
      (.given (Batches.generatedId (s.batchCount + 1))) = some id) (batch : Batch)
      (hbatch : batch ∈ t.batches) (hid : batch.id = id) : batch = s.newBatch quiz.id form.mode
        form.delimiter content run.generatedPasswords := by
    have hgiven : some (Batches.generatedId (s.batchCount + 1)) = some id :=
      (Option.filter_eq_some_iff.mp hissued).1
    obtain rfl := Option.some.inj hgiven
    subst ht
    exact eq_of_kept hs₁ events hbatch hid
  refine ⟨commit_drawsMade origin' fun id hissued batch hbatch hid => ?_,
    fun total t' hcommit => ?_⟩
  · rw [hkept id hissued batch hbatch hid]
    exact hexamined.hasPasswords
  · obtain ⟨quiz', batch, run', t₁, t₂, t₃, hrevalidate, hcan, hchanges, hremove, ht'⟩ :=
      commit_returns hcommit
    obtain ⟨hrevalidated, ht₁⟩ := revalidate_returns hrevalidate
    obtain ⟨id, hissued, hfound⟩ := hrevalidated.batch_found.found
    have hid := List.find?_some hfound
    simp only [Bool.and_eq_true, beq_iff_eq] at hid
    obtain rfl := hkept id hissued batch (List.mem_of_find?_eq_some hfound) hid.1
    obtain ⟨csv', hcsv', hpasses'⟩ := hrevalidated.passes
    obtain rfl : csv' = csv := Except.ok.inj (hcsv'.symm.trans hcsv)
    have hoverrides : t'.overrides = t₂.overrides :=
      (Site.congr_of_mask Site.overrides ht' fun _ => rfl).trans
        (congrArg (·.overrides) ((Batches.remove_sheds _).returns hremove).unbatched)
    refine ⟨label, content, csv', run'.rows, t₁, t₂, hlabel, hdecoded, hcsv, ht₁, hchanges,
      hoverrides, hpasses.shownPasswords hpasses' hcan, fun hids hfree => ?_⟩
    have happlied :=
      (commitChanges_returns_of_revalidate hrevalidate hcan hchanges hids hfree).2.overrides
    rw [hoverrides, happlied]
    exact (hrevalidated.applicable hcan hids).rowsWritten hfree hids

/-- The small site after the preview of the small file, and after others have given an override to
the second user, whose row was to insert one. -/
def overtakenSite : Site :=
  (runOn (runSession [.change (.addOverride (.given "second")
      (.forSubject smallQuiz .user (some "u-2") ⟨none, none, none, some (.finite 3), none⟩))])
    (runOn (preview smallQuiz smallFile smallForm ⟨none, none⟩).run smallSite).2).2

/-- The identifiers of its overrides are different, and the next ones are free. -/
lemma overtakenSite_ids : (overtakenSite.overrides.map Override.id).Nodup ∧
    Fresh overtakenSite.overrideCount overtakenSite.overrides := by
  have hids : overtakenSite.overrides.map Override.id = [some "first", some "second"] := by
    decide +kernel
  refine ⟨by rw [hids]; decide, fun m _ o ho hid => ?_⟩
  have hmem : some (generatedId m) ∈ overtakenSite.overrides.map Override.id :=
    List.mem_map.mpr ⟨o, ho, hid⟩
  rw [hids] at hmem
  simp [generatedId, String.ext_iff] at hmem

/-- The passwords of the small file, where the row that asks for one becomes an update. -/
theorem passwords_of_preview_smallFile : ∃ p s₁ total t' label content csv rows t₁ t₂,
    (preview smallQuiz smallFile smallForm ⟨none, none⟩).Returns smallSite p s₁ ∧
    (runOn (commit smallQuiz (.given p.importId) ⟨none, none⟩).run overtakenSite).2.drawsMade =
      overtakenSite.drawsMade ∧
    (commit smallQuiz (.given p.importId) ⟨none, none⟩).Returns overtakenSite total t' ∧
    encodingLabel smallForm = .ok label ∧
      decodeUpload smallSite.runtime.decoders label smallFile = .ok content ∧
    Csv.Table.ofChoice content smallForm.delimiter = .ok csv ∧
    t₁.records = overtakenSite.records ∧
    (commitChanges (rows.map ImportRow.change)).Returns t₁ total t₂ ∧
    t'.overrides = t₂.overrides ∧ ShownPasswords csv p.rows rows ∧
    RowsWritten rows overtakenSite.overrides t'.overrides := by
  have hrun : (runOn (preview smallQuiz smallFile smallForm
      ⟨none, none⟩).run smallSite).1.toOption.map Preview.importId =
        some (Batches.generatedId 1) ∧
      (runOn (commit smallQuiz (.given (Batches.generatedId 1)) ⟨none, none⟩).run
        overtakenSite).1.isOk = true := by
    decide +kernel
  obtain ⟨hpreview, hcommit⟩ := hrun
  rcases hresult : runOn (preview smallQuiz smallFile smallForm ⟨none, none⟩).run smallSite with
    ⟨e | p, s₁⟩
  · simp [hresult, Except.toOption] at hpreview
  · have hid : p.importId = Batches.generatedId 1 := by
      rw [hresult] at hpreview
      exact Option.some.inj hpreview
    have ht : (runOn (runSession [.change (.addOverride (.given "second")
        (.forSubject smallQuiz .user (some "u-2")
          ⟨none, none, none, some (.finite 3), none⟩))]) s₁).2 = overtakenSite := by
      unfold overtakenSite
      rw [hresult]
    obtain ⟨total, hreturns⟩ := exists_returns_of_isOk hcommit
    rw [← hid] at hreturns
    obtain ⟨hdraws, hpasswords⟩ := passwords_of_preview hresult ht smallQuiz ⟨none, none⟩
    obtain ⟨label, content, csv, rows, t₁, t₂, hlabel, hcontent, hcsv, hrecords, hchanges,
      hoverrides, hshown, hwritten⟩ := hpasswords total _ hreturns
    obtain ⟨hids, hfree⟩ := overtakenSite_ids
    exact ⟨p, s₁, total, _, label, content, csv, rows, t₁, t₂, hresult, hdraws, hreturns, hlabel,
      hcontent, hcsv, hrecords, hchanges, hoverrides, hshown, hwritten hids hfree⟩

end ImportService

end QuizOverrides
