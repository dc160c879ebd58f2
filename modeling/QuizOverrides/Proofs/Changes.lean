import Mathlib.Data.List.Nodup
import Mathlib.Tactic.Lemma
import QuizOverrides.Import.Commit

set_option autoImplicit false

/-!
# The effect of changes on the table of overrides

Changes that are applied one after the other come to this: every override that was there is kept,
replaced or taken out, and the inserted ones come after them. This holds for changes that are about
different overrides, all of which are there, as long as the identifiers to be generated are free.

## Main definitions

* `QuizOverrides.RowChange.target` — the override that a change is about.
* `QuizOverrides.rewriteAll` — what changes make of an override that is there.
* `QuizOverrides.inserted` — the overrides that changes insert.
* `QuizOverrides.applied` — the table after changes.
* `QuizOverrides.Fresh` — the identifiers to be generated are free.
* `QuizOverrides.Applicable` — changes that can be applied to a table.

## Main results

* `QuizOverrides.applied_cons` — a change and then the rest.
* `QuizOverrides.rewriteAll_of_targets` — an override is changed by the one change that is about it.
* `QuizOverrides.nodup_ids_applied` — identifiers stay distinct.
* `QuizOverrides.applied_of_stored` — changes that write what is stored leave the table as it is.
-/

namespace QuizOverrides

/-! ### Generated identifiers -/

/-- Generated identifiers differ. -/
lemma generatedId_injective {m n : Nat} (h : generatedId m = generatedId n) : m = n := by
  have hdigits : Nat.toDigits 10 m = Nat.toDigits 10 n := by
    have := congrArg String.toList h
    simpa [generatedId, Text.intText, Text.digits] using this
  rw [← Nat.ofDigitChars_ten_toDigits (n := m), hdigits, Nat.ofDigitChars_ten_toDigits]

/-- Generated identifiers are not empty. -/
lemma generatedId_ne_empty (n : Nat) : generatedId n ≠ "" := by
  intro h
  have := congrArg String.length h
  simp [generatedId] at this

/-- **The identifiers to be generated are free**: no override has one numbered above `n`. -/
def Fresh (n : Nat) (table : List Override) : Prop :=
  ∀ m, n < m → ∀ o ∈ table, o.id ≠ some (generatedId m)

/-! ### Changes -/

/-- The identifier of the override that a change is about. An insert is about none. -/
def RowChange.target (c : RowChange) : Option String :=
  match c.action with
  | .update | .delete => c.draft.id?
  | _ => none

/-- The change is about the override. -/
def RowChange.targets (c : RowChange) (o : Override) : Bool :=
  c.target.any fun id => o.id == some id

/-- What a change makes of an override that is there. -/
def RowChange.rewrite (c : RowChange) (o : Override) : Option Override :=
  if c.targets o then
    if c.action = .delete then none else some ⟨o.id, c.draft.data⟩
  else some o

/-- **What changes make of an override** that is there, one after the other. -/
def rewriteAll (changes : List RowChange) (o : Override) : Option Override :=
  changes.foldlM (fun o c => c.rewrite o) o

/-- **The overrides that changes insert**, with identifiers generated from number `n + 1` on. -/
def inserted : Nat → List RowChange → List Override
  | _, [] => []
  | n, c :: rest =>
    if c.action = .insert then ⟨some (generatedId (n + 1)), c.draft.data⟩ :: inserted (n + 1) rest
    else inserted n rest

/-- How many overrides changes insert. -/
def inserts (changes : List RowChange) : Nat :=
  changes.countP fun c => c.action == .insert

/-- **The table after changes.** -/
def applied (n : Nat) (changes : List RowChange) (table : List Override) : List Override :=
  table.filterMap (rewriteAll changes) ++ inserted n changes

/-- A change is aimed at the override that has its target as its id. -/
lemma RowChange.targets_iff {c : RowChange} {o : Override} :
    c.targets o = true ↔ ∃ id, c.target = some id ∧ o.id = some id := by
  cases h : c.target <;> simp [targets, h]

/-- The override that a change is about is that of its draft. -/
lemma RowChange.id?_of_target {c : RowChange} {id : String} (h : c.target = some id) :
    c.draft.id? = some id := by
  unfold target at h
  split at h <;> simp_all

/-- An override that a change is not aimed at stays as it is. -/
lemma RowChange.rewrite_of_not_targets {c : RowChange} {o : Override} (h : c.targets o = false) :
    c.rewrite o = some o := by
  simp [rewrite, h]

/-- A change leaves the identifier of an override alone. -/
lemma RowChange.id_of_rewrite {c : RowChange} {o o' : Override} (h : c.rewrite o = some o') :
    o'.id = o.id := by
  unfold rewrite at h
  split_ifs at h
  · obtain rfl := Option.some.inj h
    rfl
  · obtain rfl := Option.some.inj h
    rfl

/-- Changes rewrite an override one after the other. -/
@[simp] lemma rewriteAll_cons (c : RowChange) (rest : List RowChange) (o : Override) :
    rewriteAll (c :: rest) o = (c.rewrite o).bind (rewriteAll rest) := rfl

/-- Changes leave the identifier of an override alone. -/
lemma id_of_rewriteAll {changes : List RowChange} {o o' : Override}
    (h : rewriteAll changes o = some o') : o'.id = o.id := by
  induction changes generalizing o with
  | nil =>
    obtain rfl := Option.some.inj h
    rfl
  | cons c rest ih =>
    obtain ⟨o₁, h₁, h₂⟩ := Option.bind_eq_some_iff.mp h
    rw [ih h₂, RowChange.id_of_rewrite h₁]

/-- An override that no change is about stays as it is. -/
lemma rewriteAll_of_not_targets {changes : List RowChange} {o : Override}
    (h : ∀ c ∈ changes, c.targets o = false) : rewriteAll changes o = some o := by
  induction changes with
  | nil => rfl
  | cons c rest ih =>
    rw [rewriteAll_cons, RowChange.rewrite_of_not_targets (h c List.mem_cons_self)]
    exact ih fun c' hc' => h c' (List.mem_cons_of_mem _ hc')

/-- **An override is changed by the one change that is about it.** -/
lemma rewriteAll_of_targets {changes : List RowChange}
    (hdistinct : (changes.filterMap RowChange.target).Nodup) {c : RowChange} (hc : c ∈ changes)
    {o : Override} (ho : c.targets o = true) : rewriteAll changes o = c.rewrite o := by
  obtain ⟨id, htarget, hid⟩ := RowChange.targets_iff.mp ho
  induction changes with
  | nil => simp at hc
  | cons first rest ih =>
    rw [rewriteAll_cons]
    rcases List.mem_cons.mp hc with rfl | hmem
    · -- no later change is about the override, nor about what this one has made of it
      rw [List.filterMap_cons_some htarget] at hdistinct
      have hlater : ∀ o', o'.id = o.id → ∀ c' ∈ rest, c'.targets o' = false := by
        intro o' ho' c' hc'
        refine Bool.eq_false_iff.mpr fun h => (List.nodup_cons.mp hdistinct).1 ?_
        obtain ⟨id', htarget', hid'⟩ := RowChange.targets_iff.mp h
        obtain rfl : id = id' := Option.some.inj (hid.symm.trans (ho'.symm.trans hid'))
        exact List.mem_filterMap.mpr ⟨c', hc', htarget'⟩
      rcases h : c.rewrite o with _ | o₁
      · rfl
      · exact rewriteAll_of_not_targets (hlater o₁ (RowChange.id_of_rewrite h))
    · -- the first change is about another override, since no two have one target
      have hfirst : first.targets o = false := by
        refine Bool.eq_false_iff.mpr fun h => ?_
        obtain ⟨id', htarget', hid'⟩ := RowChange.targets_iff.mp h
        obtain rfl : id = id' := Option.some.inj (hid.symm.trans hid')
        rw [List.filterMap_cons_some htarget'] at hdistinct
        exact (List.nodup_cons.mp hdistinct).1 (List.mem_filterMap.mpr ⟨c, hmem, htarget⟩)
      rw [RowChange.rewrite_of_not_targets hfirst]
      refine ih ?_ hmem
      exact hdistinct.sublist ((List.sublist_cons_self first rest).filterMap _)

/-! ### Inserted overrides -/

/-- What an inserted override is. -/
lemma exists_of_mem_inserted {n : Nat} {changes : List RowChange} {o : Override}
    (h : o ∈ inserted n changes) :
    ∃ c ∈ changes, c.action = .insert ∧ o.data = c.draft.data ∧
      ∃ m, n < m ∧ m ≤ n + inserts changes ∧ o.id = some (generatedId m) := by
  induction changes generalizing n with
  | nil => simp [inserted] at h
  | cons c rest ih =>
    unfold inserted at h
    split_ifs at h with hc
    · have hcount : inserts (c :: rest) = inserts rest + 1 := by simp [inserts, hc]
      rcases List.mem_cons.mp h with rfl | h
      · exact ⟨c, List.mem_cons_self, hc, rfl, n + 1, by omega, by omega, rfl⟩
      · obtain ⟨c', hmem, hinsert, hdata, m, hlt, hle, hid⟩ := ih h
        exact ⟨c', List.mem_cons_of_mem _ hmem, hinsert, hdata, m, by omega, by omega, hid⟩
    · have hcount : inserts (c :: rest) = inserts rest := by simp [inserts, hc]
      obtain ⟨c', hmem, hinsert, hdata, m, hlt, hle, hid⟩ := ih h
      exact ⟨c', List.mem_cons_of_mem _ hmem, hinsert, hdata, m, hlt, by omega, hid⟩

/-- Every insert is among the inserted overrides. -/
lemma exists_mem_inserted {n : Nat} {changes : List RowChange} {c : RowChange} (hc : c ∈ changes)
    (hinsert : c.action = .insert) : ∃ o ∈ inserted n changes, o.data = c.draft.data := by
  induction changes generalizing n with
  | nil => simp at hc
  | cons first rest ih =>
    unfold inserted
    rcases List.mem_cons.mp hc with rfl | hmem
    · rw [if_pos hinsert]
      exact ⟨_, List.mem_cons_self, rfl⟩
    · split_ifs
      · obtain ⟨o, ho, hdata⟩ := ih (n := n + 1) hmem
        exact ⟨o, List.mem_cons_of_mem _ ho, hdata⟩
      · exact ih hmem

/-- The identifiers of inserted overrides are distinct. -/
lemma nodup_ids_inserted (n : Nat) (changes : List RowChange) :
    ((inserted n changes).map Override.id).Nodup := by
  induction changes generalizing n with
  | nil => simp [inserted]
  | cons c rest ih =>
    unfold inserted
    split_ifs
    · refine List.nodup_cons.mpr ⟨fun h => ?_, ih _⟩
      obtain ⟨o, ho, hid⟩ := List.mem_map.mp h
      obtain ⟨-, -, -, -, m, hlt, -, hid'⟩ := exists_of_mem_inserted ho
      have := generatedId_injective (Option.some.inj (hid'.symm.trans hid))
      omega
    · exact ih n

/-! ### The table -/

/-- No changes leave a table as it is. -/
lemma applied_nil (n : Nat) (table : List Override) : applied n [] table = table := by
  unfold applied inserted
  rw [List.append_nil]
  exact List.filterMap_some

/-- The table after one change. -/
lemma applied_singleton (n : Nat) (c : RowChange) (table : List Override) :
    applied n [c] table = table.filterMap c.rewrite ++
      if c.action = .insert then [⟨some (generatedId (n + 1)), c.draft.data⟩] else [] := by
  have hrewrite : rewriteAll [c] = c.rewrite := by
    funext o
    rw [rewriteAll_cons]
    cases c.rewrite o <;> rfl
  unfold applied
  rw [hrewrite]
  rfl

/-- **A change and then the rest**, if the rest is not about an override to be inserted. -/
theorem applied_cons {n : Nat} {c : RowChange} {rest : List RowChange} {table : List Override}
    (hrest : ∀ c' ∈ rest, c'.target ≠ some (generatedId (n + 1))) :
    applied n (c :: rest) table = applied (n + inserts [c]) rest (applied n [c] table) := by
  rw [applied_singleton]
  unfold applied
  rw [List.filterMap_append, List.filterMap_filterMap]
  have hrewrite : rewriteAll (c :: rest) = fun o => (c.rewrite o).bind (rewriteAll rest) := rfl
  rw [hrewrite, List.append_assoc]
  congr 1
  by_cases hc : c.action = .insert
  · have hkept : rewriteAll rest ⟨some (generatedId (n + 1)), c.draft.data⟩ =
        some ⟨some (generatedId (n + 1)), c.draft.data⟩ := by
      refine rewriteAll_of_not_targets fun c' hc' => Bool.eq_false_iff.mpr fun h => ?_
      obtain ⟨id, htarget, hid⟩ := RowChange.targets_iff.mp h
      exact hrest c' hc' (htarget.trans hid.symm)
    simp [inserted, inserts, hc, hkept]
  · simp [inserted, inserts, hc]

/-- **What the overrides of the table after changes are**: kept, replaced or inserted ones. -/
lemma mem_applied {n : Nat} {changes : List RowChange} {table : List Override} {o : Override} :
    o ∈ applied n changes table ↔
      (∃ o₀ ∈ table, rewriteAll changes o₀ = some o) ∨ o ∈ inserted n changes := by
  simp [applied]

/-- Fewer identifiers to be generated are free as well. -/
lemma Fresh.mono {n m : Nat} {table : List Override} (h : Fresh n table) (hle : n ≤ m) :
    Fresh m table := fun k hk => h k (by omega)

/-- The table after changes has free identifiers to be generated. -/
lemma Fresh.applied {n : Nat} {changes : List RowChange} {table : List Override}
    (h : Fresh n table) : Fresh (n + inserts changes) (applied n changes table) := by
  intro m hm o ho hid
  rcases mem_applied.mp ho with ⟨o₀, ho₀, hrewrite⟩ | ho
  · exact h m (by omega) o₀ ho₀ ((id_of_rewriteAll hrewrite).symm.trans hid)
  · obtain ⟨-, -, -, -, m', -, hle, hid'⟩ := exists_of_mem_inserted ho
    have := generatedId_injective (Option.some.inj (hid'.symm.trans hid))
    omega

/-- **Identifiers stay distinct.** -/
theorem nodup_ids_applied {n : Nat} (changes : List RowChange) {table : List Override}
    (hfresh : Fresh n table) (h : (table.map Override.id).Nodup) :
    ((applied n changes table).map Override.id).Nodup := by
  have hkept : ∀ o ∈ table.filterMap (rewriteAll changes), ∃ o₀ ∈ table, o.id = o₀.id := by
    intro o ho
    obtain ⟨o₀, ho₀, hrewrite⟩ := List.mem_filterMap.mp ho
    exact ⟨o₀, ho₀, id_of_rewriteAll hrewrite⟩
  have hsub : ((table.filterMap (rewriteAll changes)).map Override.id).Sublist
      (table.map Override.id) := by
    clear h hfresh hkept
    induction table with
    | nil => exact List.Sublist.refl _
    | cons o rest ih =>
      rcases hrewrite : rewriteAll changes o with _ | o'
      · rw [List.filterMap_cons_none hrewrite]
        exact ih.cons _
      · rw [List.filterMap_cons_some hrewrite, List.map_cons, List.map_cons,
          id_of_rewriteAll hrewrite]
        exact ih.cons_cons _
  unfold applied
  rw [List.map_append]
  refine (h.sublist hsub).append (nodup_ids_inserted n changes) fun id hold hnew => ?_
  obtain ⟨o, ho, rfl⟩ := List.mem_map.mp hold
  obtain ⟨o', ho', hid'⟩ := List.mem_map.mp hnew
  obtain ⟨o₀, ho₀, hid⟩ := hkept o ho
  obtain ⟨-, -, -, -, m, hlt, -, hgenerated⟩ := exists_of_mem_inserted ho'
  exact hfresh m hlt o₀ ho₀ (hid.symm.trans (hid'.symm.trans hgenerated))

/-- A change that writes what is stored leaves an override as it is. -/
lemma RowChange.rewrite_of_stored {c : RowChange} {table : List Override}
    (hids : (table.map Override.id).Nodup) (haction : c.action = .update)
    (hstored : ∃ o ∈ table, c.draft = ⟨o.id, o.data⟩) {o : Override} (ho : o ∈ table) :
    c.rewrite o = some o := by
  obtain ⟨o', ho', hdraft⟩ := hstored
  by_cases htargets : c.targets o = true
  · obtain ⟨id, htarget, hid⟩ := targets_iff.mp htargets
    have hdraftId : c.draft.id = some id := by
      unfold target at htarget
      rw [haction] at htarget
      exact (Option.filter_eq_some_iff.mp htarget).1
    rw [hdraft] at hdraftId
    obtain rfl : o' = o := List.inj_on_of_nodup_map hids ho' ho (hdraftId.trans hid.symm)
    unfold rewrite
    rw [if_pos htargets, if_neg (by rw [haction]; decide), hdraft]
  · exact rewrite_of_not_targets (Bool.eq_false_iff.mpr htargets)

/-- **Changes that write what is stored** leave the table as it is. -/
theorem applied_of_stored {changes : List RowChange} {table : List Override}
    (hids : (table.map Override.id).Nodup) (hupdate : ∀ c ∈ changes, c.action = .update)
    (hstored : ∀ c ∈ changes, ∃ o ∈ table, c.draft = ⟨o.id, o.data⟩) (n : Nat) :
    applied n changes table = table := by
  have hkept (o : Override) (ho : o ∈ table) : rewriteAll changes o = some o := by
    induction changes with
    | nil => rfl
    | cons c rest ih =>
      obtain ⟨haction, hupdate⟩ := List.forall_mem_cons.mp hupdate
      obtain ⟨hdraft, hstored⟩ := List.forall_mem_cons.mp hstored
      rw [rewriteAll_cons, RowChange.rewrite_of_stored hids haction hdraft ho]
      exact ih hupdate hstored
  have hinserted : inserted n changes = [] := by
    refine List.eq_nil_iff_forall_not_mem.mpr fun o ho => ?_
    obtain ⟨c, hc, hinsert, -⟩ := exists_of_mem_inserted ho
    rw [hupdate c hc] at hinsert
    exact absurd hinsert (by decide)
  unfold applied
  rw [hinserted, List.append_nil, List.filterMap_congr hkept, List.filterMap_some]

/-! ### Applicable changes -/

/-- **Changes that can be applied to a table**: those that are about overrides are about different
ones, and these are there. -/
structure Applicable (changes : List RowChange) (table : List Override) : Prop where
  distinct : (changes.filterMap RowChange.target).Nodup
  present : ∀ c ∈ changes, c.action = .update ∨ c.action = .delete →
    ∃ id, c.draft.id? = some id ∧ ∃ o ∈ table, o.id = some id

namespace Applicable

variable {c : RowChange} {rest : List RowChange} {table : List Override}

/-- An override that an applicable change is about is there. -/
lemma exists_of_target (h : Applicable rest table) (hc : c ∈ rest) {id : String}
    (htarget : c.target = some id) : ∃ o ∈ table, o.id = some id := by
  have haction : c.action = .update ∨ c.action = .delete := by
    unfold RowChange.target at htarget
    split at htarget <;> simp_all
  have hid : c.target = c.draft.id? := by
    unfold RowChange.target
    rcases haction with h | h <;> rw [h]
  obtain ⟨id', hid', ho⟩ := h.present c hc haction
  rw [hid, hid'] at htarget
  rwa [Option.some.inj htarget] at ho

/-- Applicable changes are not about an override to be inserted. -/
lemma target_ne_generated {n m : Nat} (h : Applicable rest table) (hfresh : Fresh n table)
    (hm : n < m) (hc : c ∈ rest) : c.target ≠ some (generatedId m) := by
  intro htarget
  obtain ⟨o, ho, hid⟩ := h.exists_of_target hc htarget
  exact hfresh m hm o ho hid

/-- Fewer changes can be applied as well. -/
lemma sublist {fewer : List RowChange} (h : Applicable rest table) (hsub : fewer.Sublist rest) :
    Applicable fewer table where
  distinct := h.distinct.sublist (hsub.filterMap _)
  present c hc := h.present c (hsub.subset hc)

/-- The changes after the first one name each override once as well. -/
lemma tail (h : Applicable (c :: rest) table) : Applicable rest table :=
  h.sublist (List.sublist_cons_self c rest)

/-- The first change can be applied. -/
lemma head (h : Applicable (c :: rest) table) : Applicable [c] table :=
  h.sublist ((List.nil_sublist rest).cons_cons c)

/-- **After the first change the rest can be applied.** -/
theorem step (h : Applicable (c :: rest) table) (n : Nat) :
    Applicable rest (applied n [c] table) where
  distinct := h.tail.distinct
  present c' hc' haction := by
    obtain ⟨id, hid, o, ho, hoid⟩ := h.present c' (List.mem_cons_of_mem _ hc') haction
    refine ⟨id, hid, o, ?_, hoid⟩
    have htarget : c'.target = some id := by
      unfold RowChange.target
      rcases haction with h | h <;> rw [h] <;> exact hid
    have hkept : rewriteAll [c] o = some o := by
      refine rewriteAll_of_not_targets fun c₁ hc₁ => Bool.eq_false_iff.mpr fun htargets => ?_
      obtain rfl : c₁ = c := by simpa using hc₁
      obtain ⟨id', htarget', hid'⟩ := RowChange.targets_iff.mp htargets
      obtain rfl : id = id' := Option.some.inj (hoid.symm.trans hid')
      have hdistinct := h.distinct
      rw [List.filterMap_cons_some htarget'] at hdistinct
      exact (List.nodup_cons.mp hdistinct).1 (List.mem_filterMap.mpr ⟨c', hc', htarget⟩)
    exact mem_applied.mpr (.inl ⟨o, ho, hkept⟩)

/-- The table after applicable changes, one step at a time. -/
lemma applied_cons {n : Nat} (h : Applicable (c :: rest) table) (hfresh : Fresh n table) :
    applied n (c :: rest) table = applied (n + inserts [c]) rest (applied n [c] table) :=
  QuizOverrides.applied_cons fun _ hc' =>
    h.tail.target_ne_generated hfresh (Nat.lt_succ_self n) hc'

end Applicable

end QuizOverrides
