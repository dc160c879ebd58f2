import QuizOverrides.Proofs.Commit
import QuizOverrides.Proofs.Faults
import QuizOverrides.Proofs.Sessions

set_option autoImplicit false

/-!
# What a commit comes to

A commit may be asked to apply any rows, whether a run has listed them or not. Each row either
writes to the table that the rows before it have left or fails on it, and which of the two is a
matter of the table, of the row and of the schedule of faults. The first row that fails is named by
the error of the commit, and where the storage takes the rows of a failed transaction back, nothing
has been written then.

## Main definitions

* `QuizOverrides.Ledger` — what a row finds.
* `QuizOverrides.Ledger.after` — what it leaves.
* `QuizOverrides.RowChange.Fails` — when a row fails, and how.
* `QuizOverrides.CommitOutcome` — what a commit comes to.

## Main results

* `QuizOverrides.applyChange_outcome` — one row.
* `QuizOverrides.applyChanges_outcome` — rows one after the other.
* `QuizOverrides.commitChanges_outcome` — the commit.
-/

namespace QuizOverrides

open QuizOverrides.Action

/-! ### One row -/

/-- **A ledger**: what the rows of a commit find, which is the overrides, how many identifiers have
been generated, and the schedule of faults. -/
structure Ledger where
  overrides : List Override
  overrideCount : Nat
  faults : List ScheduledFault

/-- The ledger of a site. -/
def Site.ledger (s : Site) : Ledger := ⟨s.overrides, s.overrideCount, s.faults⟩

/-- The access that a row makes, if it makes one. -/
def RowChange.accesses (c : RowChange) : List (Table × Access) :=
  match c.action, c.draft.id? with
  | .insert, _ => [(.overrides, .save)]
  | .update, some _ => [(.overrides, .update)]
  | .delete, some _ => [(.overrides, .delete)]
  | _, _ => []

/-- **What a row writes.** An insert puts an override into the table under the next generated
identifier, an update replaces the data of the identifier, a deletion takes the identifier out. -/
def RowChange.write (c : RowChange) (count : Nat) (table : List Override) : List Override :=
  match c.action, c.draft.id? with
  | .insert, _ => putRow Override.id ⟨some (generatedId (count + 1)), c.draft.data⟩ table
  | .update, some id => replaceData (.given id) c.draft.data table
  | .delete, some id => removeId (.given id) table
  | _, _ => table

/-- **The ledger after a row** that does not fail. -/
def Ledger.after (l : Ledger) (c : RowChange) : Ledger where
  overrides := c.write l.overrideCount l.overrides
  overrideCount := l.overrideCount + inserts [c]
  faults := (strikes c.accesses l.faults).2

/-- **How a row fails** on a ledger: it is about an override and does not say which, storage fails,
or the override is not there. -/
inductive RowChange.Fails (c : RowChange) (l : Ledger) : RowFailure → Prop where
  | noOverride (haction : c.action = .update ∨ c.action = .delete) (hid : c.draft.id? = none) :
      c.Fails l (.noOverride c.action)
  | storage {e : StorageError} (hstruck : (strikes c.accesses l.faults).1 = some e) :
      c.Fails l (.storage e)
  | gone {id : String} (haction : c.action = .update ∨ c.action = .delete)
      (hid : c.draft.id? = some id) (hcalm : (strikes c.accesses l.faults).1 = none)
      (hgone : ∀ o ∈ l.overrides, o.id ≠ some id) :
      c.Fails l (.storage (.overrideGone (.given id)))

/-- **What a row comes to** at a site: it is applied, or it fails. In both cases its access has worn
the schedule. -/
inductive RowOutcome (c : RowChange) (s : Site) : Prop where
  | applied {s' : Site} (hrun : (applyChange c).Returns s () s')
      (hfails : ∀ reason, ¬c.Fails s.ledger reason) (hledger : s'.ledger = s.ledger.after c)
  | failed {reason : RowFailure} {s' : Site} (hrun : (applyChange c).Throws s reason s')
      (hfails : c.Fails s.ledger reason) (hfaults : s'.faults = (strikes c.accesses s.faults).2)

/-- A row that is skipped leaves the ledger as it is. -/
lemma Ledger.after_of_skip {c : RowChange} (h : c.action = .skip) (l : Ledger) :
    l.after c = l := by
  have haccesses : c.accesses = [] := by
    unfold RowChange.accesses
    rw [h]
  have hwrite : c.write l.overrideCount l.overrides = l.overrides := by
    unfold RowChange.write
    rw [h]
  have hinserts : inserts [c] = 0 := by simp [inserts, h]
  unfold after
  rw [haccesses, hwrite, hinserts]
  rfl

/-- A row that is skipped does not fail. -/
lemma RowChange.not_fails_of_skip {c : RowChange} (h : c.action = .skip) (l : Ledger)
    (reason : RowFailure) : ¬c.Fails l reason := by
  intro hfails
  cases hfails with
  | noOverride haction => simp [h] at haction
  | storage hstruck => simp [accesses, h, strikes] at hstruck
  | gone haction => simp [h] at haction

/-- What a row comes to that makes an access: the access is struck, or the row comes to what the
table says. -/
lemma applyChange_outcome_of_access {c : RowChange} {s : Site} {kind : Access}
    (failure : Option RowFailure) (t : Site) (haccesses : c.accesses = [(.overrides, kind)])
    (hrun : runOn (applyChange c).run s =
      match runOn (access .overrides kind).run s with
      | (.error e, s₁) => (.error (.storage e), s₁)
      | (.ok _, _) => (failure.elim (.ok ()) .error, t))
    (hfaults : t.faults = (strike .overrides kind s.faults).2)
    (hfails : (strike .overrides kind s.faults).1 = none →
      ∀ reason, failure = some reason ↔ c.Fails s.ledger reason)
    (hledger : failure = none → t.ledger = s.ledger.after c) :
    RowOutcome c s := by
  rw [runOn_access] at hrun
  have hworn : (strike .overrides kind s.faults).2 = (strikes c.accesses s.faults).2 := by
    rw [haccesses, strikes_singleton]
  rcases hstrike : (strike .overrides kind s.faults).1 with _ | e <;>
    simp only [hstrike] at hrun hfails
  · rcases failure with _ | reason
    · refine .applied hrun (fun reason hreason => ?_) (hledger rfl)
      simpa using (hfails trivial reason).mpr hreason
    · exact .failed hrun ((hfails trivial reason).mp rfl) (hworn ▸ hfaults)
  · refine .failed hrun (.storage ?_) hworn
    rw [haccesses, strikes_singleton]
    exact hstrike

/-- A row about an override that it names fails where the override is not there. -/
lemma RowChange.fails_iff_gone {c : RowChange} {l : Ledger} {id : String}
    (haction : c.action = .update ∨ c.action = .delete) (hid : c.draft.id? = some id)
    (hcalm : (strikes c.accesses l.faults).1 = none) (reason : RowFailure) :
    (if hasId (.given id) l.overrides then none
      else some (RowFailure.storage (.overrideGone (.given id)))) = some reason ↔
      c.Fails l reason := by
  constructor
  · intro h
    split_ifs at h with hthere
    obtain rfl := Option.some.inj h
    exact .gone haction hid hcalm fun o ho hoid => hthere (hasId_iff.mpr ⟨o, ho, hoid⟩)
  · intro h
    cases h with
    | noOverride _ hnone => simp [hid] at hnone
    | storage hstruck => simp [hcalm] at hstruck
    | gone _ hid' _ hgone =>
      obtain rfl := Option.some.inj (hid.symm.trans hid')
      rw [if_neg fun hthere => ?_]
      obtain ⟨o, ho, hoid⟩ := hasId_iff.mp hthere
      exact hgone o ho hoid

/-- What a row comes to that is about an override and does not say which. -/
lemma applyChange_outcome_of_noId {c : RowChange} (s : Site)
    (haction : c.action = .update ∨ c.action = .delete) (hid : c.draft.id? = none) :
    RowOutcome c s := by
  have hrun : (applyChange c).Throws s (.noOverride c.action) s := by
    unfold applyChange
    rcases haction with haction | haction <;> simp only [haction, hid] <;>
      exact throws_throw.mpr ⟨rfl, rfl⟩
  refine .failed hrun (.noOverride haction hid) ?_
  rcases haction with haction | haction <;> simp [RowChange.accesses, haction, hid, strikes]

/-- What a row comes to that is about an override and says which: after the access the table is
rewritten, and the row fails if the override was not there. -/
lemma applyChange_outcome_of_id {c : RowChange} {s : Site} {kind : Access} {id : String}
    (rewrite : List Override → List Override) (haction : c.action = .update ∨ c.action = .delete)
    (hid : c.draft.id? = some id) (haccesses : c.accesses = [(.overrides, kind)])
    (hwrite : c.write s.overrideCount s.overrides = rewrite s.overrides)
    (hrun : runOn (applyChange c).run s =
      match runOn (access .overrides kind).run s with
      | (.error e, s₁) => (.error (.storage e), s₁)
      | (.ok _, s₁) =>
        (if hasId (.given id) s.overrides then .ok ()
          else .error (.storage (.overrideGone (.given id))),
          s₁.supersede (rewrite s₁.overrides))) :
    RowOutcome c s := by
  have hinserts : inserts [c] = 0 := by rcases haction with h | h <;> simp [inserts, h]
  refine applyChange_outcome_of_access _
    ((s.accessed .overrides kind).supersede (rewrite s.overrides)) haccesses ?_ rfl
    (fun hcalm reason => RowChange.fails_iff_gone haction hid ?_ reason) fun _ => ?_
  · rw [hrun, runOn_access]
    rcases (strike .overrides kind s.faults).1 with _ | e
    · by_cases hthere : hasId (.given id) s.overrides = true <;>
        simp only [hthere, Site.ledger, if_true] <;> rfl
    · rfl
  · rw [haccesses, strikes_singleton]
    exact hcalm
  · unfold Ledger.after
    rw [haccesses, strikes_singleton, hinserts]
    simp only [Site.ledger, hwrite]
    rfl

/-- An insert is applied unless its access is struck. -/
lemma applyChange_outcome_of_insert {c : RowChange} (haction : c.action = .insert) (s : Site) :
    RowOutcome c s := by
  have haccesses : c.accesses = [(.overrides, .save)] := by simp [RowChange.accesses, haction]
  have hwrite (n : Nat) (table : List Override) :
      c.write n table = putRow Override.id ⟨some (generatedId (n + 1)), c.draft.data⟩ table := by
    unfold RowChange.write
    rw [haction]
  have hinserts : inserts [c] = 1 := by simp [inserts, haction]
  refine applyChange_outcome_of_access none
    ((s.accessed .overrides .save).inserted c.draft.data) haccesses ?_ rfl
    (fun hcalm reason => ?_) fun _ => ?_
  · unfold applyChange
    simp only [haction, runOn_run_bind, runOn_run_mapError, Overrides.runOn_insert, runOn_access]
    rcases (strike .overrides .save s.faults).1 with _ | e <;> rfl
  · refine ⟨fun h => by simp at h, fun h => ?_⟩
    cases h with
    | noOverride h => simp [haction] at h
    | storage hstruck =>
      rw [haccesses, strikes_singleton] at hstruck
      exact absurd (hcalm.symm.trans hstruck) (by simp)
    | gone h => simp [haction] at h
  · unfold Ledger.after
    rw [haccesses, hwrite, hinserts, strikes_singleton]
    rfl

/-- **A row is applied or fails.** -/
theorem applyChange_outcome (c : RowChange) (s : Site) : RowOutcome c s := by
  cases haction : c.action with
  | insert => exact applyChange_outcome_of_insert haction s
  | update =>
    rcases hid : c.draft.id? with _ | id
    · exact applyChange_outcome_of_noId s (.inl haction) hid
    · have haccesses : c.accesses = [(.overrides, .update)] := by
        simp [RowChange.accesses, haction, hid]
      refine applyChange_outcome_of_id (replaceData (.given id) c.draft.data) (.inl haction) hid
        haccesses (by simp [RowChange.write, haction, hid]) ?_
      unfold applyChange
      simp only [haction, hid, runOn_run_mapError, Overrides.runOn_update, runOn_access]
      rcases (strike .overrides .update s.faults).1 with _ | e
      · by_cases hthere : hasId (.given id) s.overrides = true <;>
          simp only [hthere, if_true] <;> rfl
      · rfl
  | delete =>
    rcases hid : c.draft.id? with _ | id
    · exact applyChange_outcome_of_noId s (.inr haction) hid
    · have haccesses : c.accesses = [(.overrides, .delete)] := by
        simp [RowChange.accesses, haction, hid]
      refine applyChange_outcome_of_id (removeId (.given id)) (.inr haction) hid haccesses
        (by simp [RowChange.write, haction, hid]) ?_
      unfold applyChange
      simp only [haction, hid, runOn_run_mapError, Overrides.runOn_delete, runOn_access]
      rcases (strike .overrides .delete s.faults).1 with _ | e
      · by_cases hthere : hasId (.given id) s.overrides = true <;>
          simp only [hthere, if_true] <;> rfl
      · rfl
  | skip =>
    have hrun : (applyChange c).Returns s () s := by
      unfold applyChange
      simp only [haction]
      exact returns_pure.mpr ⟨rfl, rfl⟩
    exact .applied hrun (RowChange.not_fails_of_skip haction _)
      (Ledger.after_of_skip haction _).symm

/-! ### Rows one after the other -/

/-- **A ledger takes rows**: each of them is applied to what the rows before it have left. -/
def Ledger.Takes : Ledger → List RowChange → Prop
  | _, [] => True
  | l, c :: rest => (∀ reason, ¬c.Fails l reason) ∧ (l.after c).Takes rest

/-- **What rows come to** one after the other: all of them are applied and counted, or the first one
that fails is named. -/
inductive RowsOutcome (changes : List RowChange) (summary : CommitSummary) (s : Site) : Prop where
  | applied {s' : Site} (htakes : s.ledger.Takes changes)
      (hrun : (applyChanges changes summary).Returns s (summary.countAll changes) s')
      (hledger : s'.ledger = changes.foldl Ledger.after s.ledger)
  | failed {before after : List RowChange} {c : RowChange} {reason : RowFailure} {s' : Site}
      (hchanges : changes = before ++ c :: after) (htakes : s.ledger.Takes before)
      (hfails : c.Fails (before.foldl Ledger.after s.ledger) reason)
      (hrun : (applyChanges changes summary).Throws s (.row c.number c.action reason) s')
      (hfaults : s'.faults =
        (strikes c.accesses (before.foldl Ledger.after s.ledger).faults).2)

/-- **Rows are applied up to the first one that fails.** -/
theorem applyChanges_outcome (changes : List RowChange) (summary : CommitSummary) (s : Site) :
    RowsOutcome changes summary s := by
  induction changes generalizing summary s with
  | nil => exact .applied trivial (returns_pure.mpr ⟨rfl, rfl⟩) rfl
  | cons c rest ih =>
    cases applyChange_outcome c s with
    | failed hrun hfails hfaults =>
      exact .failed (List.nil_append (c :: rest)).symm trivial hfails
        (throws_bind.mpr (.inl (throws_mapError.mpr ⟨_, hrun, rfl⟩))) hfaults
    | @applied s₁ hrun hnot hledger =>
      have hfirst :
          ((applyChange c).mapError (CommitError.row c.number c.action)).Returns s () s₁ :=
        returns_mapError.mpr hrun
      cases ih (summary.count c.action) s₁ with
      | applied htakes hrest hledger' =>
        rw [hledger] at htakes hledger'
        exact .applied ⟨hnot, htakes⟩ (returns_bind.mpr ⟨_, _, hfirst, hrest⟩) hledger'
      | @failed before after c' reason s' hchanges htakes hfails hrest hfaults =>
        rw [hledger] at htakes hfails hfaults
        have hchanges' : c :: rest = (c :: before) ++ c' :: after := congrArg (c :: ·) hchanges
        exact .failed hchanges' ⟨hnot, htakes⟩ hfails
          (throws_bind.mpr (.inr ⟨_, _, hfirst, hrest⟩)) hfaults

/-- Applying a row adds no fault. -/
lemma applyChange_wears (c : RowChange) : Wears (applyChange c).run := by
  intro s
  cases applyChange_outcome c s with
  | @applied s' hrun _ hledger =>
    rw [show runOn (applyChange c).run s = _ from hrun]
    show Worn s.faults s'.faults
    rw [show s'.faults = (strikes c.accesses s.faults).2 from congrArg Ledger.faults hledger]
    exact worn_strikes _ _
  | @failed _ s' hrun _ hfaults =>
    rw [show runOn (applyChange c).run s = _ from hrun]
    show Worn s.faults s'.faults
    rw [hfaults]
    exact worn_strikes _ _

/-- Applying changes adds no fault. -/
lemma applyChanges_wears (changes : List RowChange) (summary : CommitSummary) :
    Wears (applyChanges changes summary).run := by
  induction changes generalizing summary with
  | nil => exact .of_frames (.pure _)
  | cons c rest ih => exact .run_bind ((applyChange_wears c).mapError _) fun _ => ih _

/-- A row that can be applied fails because a fault strikes. -/
lemma applyChange_not_unstruck {c : RowChange} {s s' : Site} {reason : RowFailure}
    (happ : Applicable [c] s.overrides) (h : (applyChange c).Throws s reason s') :
    ¬s.Unstruck s' := by
  have hpresent := happ.present c (List.mem_singleton_self c)
  cases applyChange_outcome c s with
  | applied hrun => exact absurd h hrun.not_throws
  | @failed reason' s₁ hrun hfails hfaults =>
    obtain ⟨-, rfl⟩ := Prod.mk.inj (hrun.symm.trans h)
    intro hunstruck
    cases hfails with
    | noOverride haction hnone =>
      obtain ⟨id, hid, -⟩ := hpresent haction
      simp [hid] at hnone
    | storage hstruck =>
      have hlt := length_lt_of_strikes hstruck
      rw [show (strikes c.accesses s.ledger.faults).2 = s₁.faults from hfaults.symm] at hlt
      exact absurd hunstruck.length_eq (Nat.ne_of_lt hlt)
    | gone haction hid _ hgone =>
      obtain ⟨id', hid', o, ho, hoid⟩ := hpresent haction
      obtain rfl := Option.some.inj (hid.symm.trans hid')
      exact hgone o ho hoid

/-- So do rows that can be applied one after the other. -/
lemma applyChanges_not_unstruck {changes : List RowChange} {summary : CommitSummary}
    {s s' : Site} {e : CommitError} (happ : Applicable changes s.overrides)
    (hfresh : Fresh s.overrideCount s.overrides)
    (h : (applyChanges changes summary).Throws s e s') : ¬s.Unstruck s' := by
  induction changes generalizing s summary with
  | nil => exact absurd h throws_pure
  | cons c rest ih =>
    rcases throws_bind.mp h with hchange | ⟨_, s₂, hchange, hrest⟩
    · obtain ⟨_, hchange, -⟩ := throws_mapError.mp hchange
      exact applyChange_not_unstruck happ.head hchange
    · have hchange := returns_mapError.mp hchange
      obtain ⟨s₁, hs₁, rfl⟩ := applyChange_returns happ.head hfresh hchange
      obtain ⟨happ', hfresh'⟩ := happ.changed hfresh hs₁
      intro hunstruck
      have hparts := hunstruck.parts ((applyChange_wears c).returns hchange)
        ((applyChanges_wears rest _).throws hrest)
      exact ih happ' hfresh' hrest hparts.2

/-- Rows that are skipped leave no trace. -/
lemma Ledger.foldl_filter_skip (changes : List RowChange) (l : Ledger) :
    (changes.filter fun c => c.action != .skip).foldl Ledger.after l =
      changes.foldl Ledger.after l := by
  induction changes generalizing l with
  | nil => rfl
  | cons c rest ih =>
    by_cases hskip : c.action = .skip
    · rw [List.filter_cons_of_neg (by simp [hskip]), ih, List.foldl_cons, after_of_skip hskip]
    · rw [List.filter_cons_of_pos (by simpa using hskip), List.foldl_cons, List.foldl_cons, ih]

/-- Rows that are not skipped are inserts, updates and deletions. -/
lemma countP_not_skip (changes : List RowChange) :
    (changes.countP fun c => c.action != .skip) =
      (changes.countP fun c => c.action == .insert) +
        (changes.countP fun c => c.action == .update) +
        changes.countP fun c => c.action == .delete := by
  induction changes with
  | nil => rfl
  | cons c rest ih =>
    simp only [List.countP_cons, ih]
    cases c.action <;> simp <;> omega

/-! ### The commit -/

/-- The ledger that the first row of a commit finds, the transaction having begun. -/
def Site.opened (s : Site) : Ledger :=
  ⟨s.overrides, s.overrideCount, (strike .transactions .begin s.faults).2⟩

/-- The ledger once the transaction has begun. -/
lemma Site.ledger_of_begun {s s₁ : Site} (hs₁ : s₁.unbegun = s.unbegun)
    (hfaults : s₁.faults = (strike .transactions .begin s.faults).2) : s₁.ledger = s.opened := by
  unfold ledger opened
  rw [show s₁.overrides = s.overrides from congrArg (·.overrides) hs₁,
    show s₁.overrideCount = s.overrideCount from congrArg (·.overrideCount) hs₁, hfaults]

/-- A commit that returns has met no row that fails. -/
lemma commitChanges_takes {changes : List RowChange} {s s' : Site} {total : CommitSummary}
    (h : (commitChanges changes).Returns s total s') : s.opened.Takes changes := by
  obtain ⟨total', s₂, htransaction, -⟩ := returns_bind.mp h
  obtain ⟨s₁, hs₁, hfaults, hrun⟩ :=
    Overrides.runOn_transaction CommitError.storage (applyChanges changes .zero) s
  rw [show runOn (Overrides.transaction CommitError.storage (applyChanges changes .zero)).run s = _
    from htransaction] at hrun
  cases hbegin : (strike .transactions .begin s.faults).1 with
  | some e => simp [hbegin] at hrun
  | none =>
    cases applyChanges_outcome changes .zero s₁ with
    | applied htakes => exact Site.ledger_of_begun hs₁ hfaults ▸ htakes
    | failed _ _ _ hwork =>
      simp [hbegin, show runOn (applyChanges changes .zero).run s₁ = _ from hwork] at hrun

/-- Rolling back leaves the faults as they are. -/
lemma Site.rolledBack_faults (s start : Site) : (s.rolledBack start).faults = s.faults := by
  unfold rolledBack
  split <;> rfl

/-- **A commit of rows that can be applied** throws only if a fault has struck. -/
theorem commitChanges_not_unstruck {changes : List RowChange} {s s' : Site} {e : CommitError}
    (happ : Applicable changes s.overrides) (hfresh : Fresh s.overrideCount s.overrides)
    (h : (commitChanges changes).Throws s e s') : ¬s.Unstruck s' := by
  obtain ⟨s₁, hs₁, hfaults, hrun⟩ :=
    Overrides.runOn_transaction CommitError.storage (applyChanges changes .zero) s
  rw [show runOn (Overrides.transaction CommitError.storage (applyChanges changes .zero)).run s = _
    from commitChanges_throws_iff.mp h] at hrun
  intro hunstruck
  rw [← strikes_singleton (.transactions, .begin)] at hfaults
  cases hbegin : (strike .transactions .begin s.faults).1 with
  | some e' =>
    simp only [hbegin, Prod.mk.injEq] at hrun
    obtain ⟨-, rfl⟩ := hrun
    have hstruck : (strikes [(.transactions, .begin)] s.faults).1 = some e' := by
      rw [strikes_singleton]
      exact hbegin
    have hlt := length_lt_of_strikes hstruck
    rw [← hfaults] at hlt
    exact absurd hunstruck.length_eq (Nat.ne_of_lt hlt)
  | none =>
    -- a row has failed; but rows that can be applied fail for faults only
    rcases hwork : runOn (applyChanges changes .zero).run s₁ with ⟨e' | total, s₂⟩ <;>
      simp [hbegin, hwork] at hrun
    obtain ⟨-, rfl⟩ := hrun
    have hoverrides : s₁.overrides = s.overrides := congrArg (·.overrides) hs₁
    have hcount : s₁.overrideCount = s.overrideCount := congrArg (·.overrideCount) hs₁
    have hwears : s.Wears s₁ := by
      unfold Site.Wears
      rw [hfaults]
      exact worn_strikes _ _
    have hunstruck₂ : s.Unstruck s₂ := by
      unfold Site.Unstruck at hunstruck ⊢
      rwa [Site.rolledBack_faults] at hunstruck
    have hparts := hunstruck₂.parts hwears ((applyChanges_wears changes _).throws hwork)
    exact applyChanges_not_unstruck (hoverrides ▸ happ) (by rwa [hoverrides, hcount]) hwork hparts.2

/-- **What a commit comes to.** -/
inductive CommitOutcome (changes : List RowChange) (s : Site) :
    Except CommitError CommitSummary × Site → Prop where
  /-- The transaction could not be begun. Its error is passed on as it is. -/
  | unbegun {e : StorageError} {s' : Site}
      (hbegin : (strike .transactions .begin s.faults).1 = some e)
      (htable : s'.overrides = s.overrides) : CommitOutcome changes s (.error (.storage e), s')
  /-- A row has failed, the first one to do so. Where the rows of a failed transaction are taken
  back, the table is as it was before. -/
  | stopped {before after : List RowChange} {c : RowChange} {reason : RowFailure} {s' : Site}
      (hbegin : (strike .transactions .begin s.faults).1 = none)
      (hchanges : changes = before ++ c :: after) (htakes : s.opened.Takes before)
      (hfails : c.Fails (before.foldl Ledger.after s.opened) reason)
      (htable : s.rollback = .rows → s'.overrides = s.overrides) :
      CommitOutcome changes s (.error (.row c.number c.action reason), s')
  /-- All rows have been applied, those that are skipped without effect, and counted. -/
  | made {total : CommitSummary} {s' : Site}
      (hbegin : (strike .transactions .begin s.faults).1 = none)
      (htakes : s.opened.Takes changes)
      (htable : s'.overrides = (changes.foldl Ledger.after s.opened).overrides)
      (hskip : s'.overrides =
        ((changes.filter fun c => c.action != .skip).foldl Ledger.after s.opened).overrides)
      (htotal : total =
        ⟨changes.countP fun c => c.action == .insert, changes.countP fun c => c.action == .update,
          changes.countP fun c => c.action == .delete⟩)
      (hsum : total.inserted + total.updated + total.deleted =
        changes.countP fun c => c.action != .skip) :
      CommitOutcome changes s (.ok total, s')

/-- A commit returns what its transaction does. -/
lemma commitChanges_returns_of_transaction {changes : List RowChange} {s s' : Site}
    {total : CommitSummary} (h : (Overrides.transaction .storage
      (applyChanges changes .zero)).Returns s total s') :
    ∃ s'', (commitChanges changes).Returns s total s'' ∧ s''.ledger = s'.ledger :=
  ⟨_, returns_bind.mpr ⟨total, s', h,
    returns_bind.mpr ⟨_, _, returns_lift.mpr rfl, returns_pure.mpr ⟨rfl, rfl⟩⟩⟩, rfl⟩

/-- **All or nothing.** A commit of any rows, whatever faults are waiting, comes to one of three
things: the transaction is not begun, the first row that fails stops it, or all rows are applied.
In the first case the table is as it was before, and so it is in the second where the storage takes
back the rows of a failed transaction.

**Proof sketch.** A row is applied to the ledger that the rows before it have left, or fails on it,
and this is decided by the table and by the schedule as its access finds it. By induction the rows
are applied up to the first one that fails; the transaction then returns to the table that it began
with. -/
theorem commitChanges_outcome (s : Site) (changes : List RowChange) :
    CommitOutcome changes s (runOn (commitChanges changes).run s) := by
  obtain ⟨s₁, hs₁, hfaults, hrun⟩ :=
    Overrides.runOn_transaction CommitError.storage (applyChanges changes .zero) s
  have hoverrides : s₁.overrides = s.overrides := congrArg (·.overrides) hs₁
  have hopened := Site.ledger_of_begun hs₁ hfaults
  cases hbegin : (strike .transactions .begin s.faults).1 with
  | some e =>
    simp only [hbegin] at hrun
    rw [show runOn (commitChanges changes).run s = _ from commitChanges_throws_iff.mpr hrun]
    exact .unbegun hbegin hoverrides
  | none =>
    simp only [hbegin] at hrun
    cases applyChanges_outcome changes .zero s₁ with
    | @failed before after c reason s₂ hchanges htakes hfails hwork _ =>
      -- the rows have met the ledger of the opened transaction, not that of the site
      simp only [show runOn (applyChanges changes .zero).run s₁ = _ from hwork] at hrun
      have hthrows := commitChanges_throws_iff.mpr hrun
      rw [show runOn (commitChanges changes).run s = _ from hthrows]
      rw [hopened] at htakes hfails
      exact .stopped hbegin hchanges htakes hfails
        fun hrows => commitChanges_throws_of_rows hrows hthrows
    | @applied s₂ htakes hwork hledger =>
      simp only [show runOn (applyChanges changes .zero).run s₁ = _ from hwork] at hrun
      obtain ⟨s', hreturns, hs'⟩ := commitChanges_returns_of_transaction hrun
      rw [show runOn (commitChanges changes).run s = _ from hreturns]
      rw [hopened] at htakes hledger
      have htable : s'.overrides = (changes.foldl Ledger.after s.opened).overrides :=
        congrArg Ledger.overrides (hs'.trans hledger)
      have htotal := CommitSummary.zero.countAll_eq changes
      refine .made hbegin htakes htable ?_ ?_ ?_
      · rw [htable, Ledger.foldl_filter_skip]
      · rw [htotal]
        simp [CommitSummary.zero]
      · rw [htotal, countP_not_skip]
        simp [CommitSummary.zero]

/-- Rows that insert an override, delete that of the first user of the small site, and then update
it. -/
def clashingRows : List RowChange :=
  let data : OverrideData := .forSubject smallQuiz .user (some "u-2") ⟨none, none, none, none, none⟩
  [⟨.given (.finite 1), .insert, ⟨none, data⟩⟩, ⟨.given (.finite 2), .delete, ⟨some "first", data⟩⟩,
    ⟨.given (.finite 3), .update, ⟨some "first", data⟩⟩]

/-- An update of an override that an earlier row has deleted stops the commit, and the table is as
it was before. -/
theorem commitChanges_outcome_clashingRows : smallSite.rollback = .rows ∧
    (runOn (commitChanges clashingRows).run smallSite).1 =
      .error (.row (.given (.finite 3)) .update (.storage (.overrideGone (.given "first")))) ∧
    (runOn (commitChanges clashingRows).run smallSite).2.overrides = smallSite.overrides ∧
    CommitOutcome clashingRows smallSite (runOn (commitChanges clashingRows).run smallSite) :=
  ⟨rfl, by decide +kernel, by decide +kernel, commitChanges_outcome smallSite clashingRows⟩

end QuizOverrides
