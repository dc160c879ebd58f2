import QuizOverrides.Config.Import
import QuizOverrides.Proofs.Rows

set_option autoImplicit false

/-!
# Values of overrides

The values that a row without errors is written with are read from its cells, but for a password
that has been generated. They are within the bounds of the database and of the form, and a row that
is not blank has one of them at least.

## Main definitions

* `QuizOverrides.Cells.written` — the values that the cells of a row stand for.
* `QuizOverrides.SoundPassword`, `QuizOverrides.OverrideValues.Sound` — values within their bounds.
* `QuizOverrides.ImportOptions.Admitted` — the length of generated passwords is within its bounds.

## Main results

* `QuizOverrides.Site.soundPassword_passwordFrom` — generated passwords are sound.
* `QuizOverrides.Cells.written_sound` — so are the values of rows without errors.
* `QuizOverrides.Site.ListedRow.values` — the values of a row are those of its cells.
-/

namespace QuizOverrides

open Text

/-! ### Passwords -/

/-- **A sound password** is not empty, not longer than the limit and has no blanks around it. -/
structure SoundPassword (p : String) : Prop where
  given : 1 ≤ unitLength p
  short : unitLength p ≤ maxPasswordLength
  trimmed : trim p = p

/-- A text without blanks is trimmed. -/
lemma trim_eq_self {cs : List Char} (h : ∀ c ∈ cs, isBlank c = false) :
    trim (String.ofList cs) = String.ofList cs := by
  have hdrop {l : List Char} (hl : ∀ c ∈ l, isBlank c = false) : l.dropWhile isBlank = l := by
    cases l with
    | nil => rfl
    | cons c rest => simp [hl c List.mem_cons_self]
  unfold trim trimChars
  rw [String.toList_ofList, hdrop h, hdrop (by simpa using h), List.reverse_reverse]

/-- Every character is a unit at least. -/
lemma length_unitsOf_pos (c : Char) : 0 < (unitsOf c).length := by
  unfold unitsOf
  split_ifs <;> simp

/-- A text that is not empty has a unit. -/
lemma one_le_unitLength {p : String} (h : p ≠ "") : 1 ≤ unitLength p := by
  rcases hlist : p.toList with _ | ⟨c, rest⟩
  · exact absurd (String.toList_eq_nil_iff.mp hlist) h
  · have := length_unitsOf_pos c
    simp only [unitLength, units, hlist, List.flatMap_cons, List.length_append]
    omega

namespace Password

/-- The characters of the alphabet are single units and no blanks. -/
lemma of_mem_alphabet {c : Char} (h : c ∈ alphabet) :
    (unitsOf c).length = 1 ∧ isBlank c = false := by
  have hall : (alphabet.all fun c => (unitsOf c).length == 1 && !isBlank c) = true := by
    decide +kernel
  simpa using List.all_eq_true.mp hall c h

/-- A place of the alphabet gives the character there. -/
lemma charsOf_natCast {i : Nat} (h : i < alphabet.length) : charsOf i = [alphabet[i]] := by
  unfold charsOf
  rw [if_neg (by omega), Int.toNat_natCast, List.getElem?_eq_getElem h]

/-- A draw below the bound is a place of the alphabet. -/
lemma exists_charsOf {n : Int} (h : 0 ≤ n) (hn : n < bound) :
    ∃ c ∈ alphabet, charsOf n = [c] := by
  obtain ⟨i, rfl⟩ := Int.eq_ofNat_of_zero_le h
  have hi : i < alphabet.length := Int.ofNat_lt.mp hn
  exact ⟨alphabet[i], List.getElem_mem hi, charsOf_natCast hi⟩

/-- Draws below the bound give a character of the alphabet each. -/
lemma flatMap_charsOf {draws : List Int} (h : ∀ n ∈ draws, 0 ≤ n ∧ n < bound) :
    (draws.flatMap charsOf).length = draws.length ∧ ∀ c ∈ draws.flatMap charsOf, c ∈ alphabet := by
  induction draws with
  | nil => simp
  | cons n rest ih =>
    obtain ⟨hlength, hmem⟩ := ih fun m hm => h m (List.mem_cons_of_mem _ hm)
    obtain ⟨hn, hlt⟩ := h n List.mem_cons_self
    obtain ⟨c, hc, hchars⟩ := exists_charsOf hn hlt
    rw [List.flatMap_cons, hchars]
    refine ⟨by simp [hlength], fun c' hc' => ?_⟩
    rcases List.mem_cons.mp hc' with rfl | hc'
    · exact hc
    · exact hmem c' hc'

/-- The units of a text of the alphabet are as many as its characters. -/
lemma unitLength_ofList {cs : List Char} (h : ∀ c ∈ cs, c ∈ alphabet) :
    unitLength (String.ofList cs) = cs.length := by
  unfold unitLength units
  rw [String.toList_ofList]
  induction cs with
  | nil => rfl
  | cons c rest ih =>
    have hc := (of_mem_alphabet (h c List.mem_cons_self)).1
    have ih := ih fun c' hc' => h c' (List.mem_cons_of_mem _ hc')
    rw [List.flatMap_cons, List.length_append, hc, ih, List.length_cons]
    omega

/-- **A password of draws** below the bound is sound, if their number is within the limits. -/
theorem sound_ofDraws {draws : List Int} (h : ∀ n ∈ draws, 0 ≤ n ∧ n < bound)
    (hgiven : 1 ≤ draws.length) (hshort : draws.length ≤ maxPasswordLength) :
    SoundPassword (ofDraws draws) := by
  obtain ⟨hlength, hmem⟩ := flatMap_charsOf h
  have hunits : unitLength (ofDraws draws) = draws.length :=
    (unitLength_ofList hmem).trans hlength
  refine ⟨by rwa [hunits], by rwa [hunits], trim_eq_self fun c hc => ?_⟩
  exact (of_mem_alphabet (hmem c hc)).2

end Password

/-- **Options with an admitted length** of generated passwords. -/
def ImportOptions.Admitted (o : ImportOptions) : Prop :=
  1 ≤ o.passwordLength ∧ o.passwordLength ≤ maxPasswordLength

/-- A length that has been checked is within its bounds. -/
lemma ImportOptions.checkLength_ok {w : Whole} {n : Int} (h : checkLength w = .ok n) :
    1 ≤ n ∧ n ≤ maxPasswordLength := by
  unfold checkLength at h
  split at h
  · split_ifs at h
    obtain rfl := Except.ok.inj h
    constructor <;> omega
  · simp at h
  · simp at h

/-- **Options that are made of settings** are admitted. -/
theorem ImportOptions.admitted_of_ofSettings {zones : Calendar.ZoneData} {settings : Settings}
    {o : ImportOptions} (h : ofSettings zones settings = .ok o) : o.Admitted := by
  unfold ofSettings at h
  rcases hlength : settings.number passwordLengthKey (.finite standard.passwordLength) with
    e | w <;> simp only [hlength, bind, Except.bind] at h
  · simp at h
  rcases hminutes : settings.number batchMinutesKey standard.batchMinutes with e | minutes <;>
    simp only [hminutes] at h
  · simp at h
  rcases hcheck : checkLength w with e | n <;> simp only [hcheck] at h
  · simp at h
  split_ifs at h
  obtain rfl := Except.ok.inj h
  exact checkLength_ok hcheck

/-- A draw from a source without negative numbers is below the bound. -/
lemma drawnNumber_tmod {source : List Int} (h : ∀ n ∈ source, 0 ≤ n) (k : Nat) :
    0 ≤ (drawnNumber source k).tmod Password.bound ∧
      (drawnNumber source k).tmod Password.bound < Password.bound := by
  have hdrawn : 0 ≤ drawnNumber source k := by
    unfold drawnNumber
    rw [List.getD_eq_getElem?_getD]
    rcases hget : source[k % source.length]? with _ | n
    · exact Int.le_refl 0
    · exact h n (List.mem_of_getElem? hget)
  exact ⟨Int.tmod_nonneg _ hdrawn, Int.tmod_lt_of_pos _ (by decide)⟩

/-- **Generated passwords are sound**, under admitted options and a source of random numbers that
gives no negative ones. -/
theorem Site.soundPassword_passwordFrom {s : Site} (hs : s.options.Admitted)
    (hdraws : ∀ n ∈ s.drawSource, 0 ≤ n) (k : Nat) : SoundPassword (s.passwordFrom k) := by
  obtain ⟨hgiven, hshort⟩ := hs
  unfold passwordFrom
  refine Password.sound_ofDraws (fun n hn => ?_) ?_ ?_
  · obtain ⟨i, -, rfl⟩ := List.mem_map.mp hn
    exact drawnNumber_tmod hdraws _
  · rw [List.length_map, List.length_range]
    omega
  · rw [List.length_map, List.length_range]
    omega

/-! ### Cells -/

/-- A cell that is not empty has a time or an error. -/
lemma exists_readTime {cell : String} (h : (readTime cell).error = none) (hcell : cell ≠ "") :
    ∃ i, (readTime cell).value = some i := by
  unfold readTime at h ⊢
  rw [if_neg hcell] at h ⊢
  rcases hstamp : Calendar.parseStamp cell with _ | i <;>
    simp [hstamp, CellReading.bad, CellReading.good] at h ⊢

/-- A number is a natural one within the limit. -/
lemma of_readNumber {cell : String} {w : Whole} (h : (readNumber cell).value = some w) :
    ∃ n : Nat, w = .finite n ∧ n ≤ maxInteger := by
  unfold readNumber at h
  split_ifs at h with hcell hdigits
  · simp [CellReading.empty] at h
  · by_cases hlimit : maxInteger < digitsValue cell.toList
    · simp [hlimit, CellReading.bad] at h
    · simp only [hlimit, if_false, CellReading.good, Option.some.injEq] at h
      exact ⟨_, h.symm, by omega⟩
  · simp [CellReading.bad] at h

/-- A cell that is not empty has a number or an error. -/
lemma exists_readNumber {cell : String} (h : (readNumber cell).error = none) (hcell : cell ≠ "") :
    ∃ w, (readNumber cell).value = some w := by
  unfold readNumber at h ⊢
  rw [if_neg hcell] at h ⊢
  split_ifs at h ⊢ with hdigits
  · by_cases hlimit : maxInteger < digitsValue cell.toList <;>
      simp [hlimit, CellReading.bad, CellReading.good] at h ⊢
  · simp [CellReading.bad] at h

/-- A password of a cell is sound. -/
lemma soundPassword_of_readPassword {cell p : String} (h : (readPassword cell).value = some p) :
    SoundPassword p := by
  unfold readPassword at h
  split_ifs at h with hcell hpadded hlong
  · simp [CellReading.empty] at h
  · simp [CellReading.bad] at h
  · simp [CellReading.bad] at h
  · obtain rfl : cell = p := by simpa [CellReading.good] using h
    exact ⟨one_le_unitLength hcell, by omega, (not_not.mp hpadded).symm⟩

/-- A sound password is accepted in a cell as it is. -/
lemma readPassword_of_sound {p : String} (h : SoundPassword p) : readPassword p = .good p := by
  have hne : p ≠ "" := by
    rintro rfl
    exact absurd h.given (by decide)
  have hshort := h.short
  unfold readPassword
  rw [if_neg hne, if_neg (not_not.mpr h.trimmed.symm), if_neg (by omega)]

/-- A cell that is not empty has a password or an error. -/
lemma exists_readPassword {cell : String} (h : (readPassword cell).error = none)
    (hcell : cell ≠ "") : ∃ p, (readPassword cell).value = some p := by
  unfold readPassword at h ⊢
  rw [if_neg hcell] at h ⊢
  split_ifs at h ⊢ <;> simp [CellReading.bad, CellReading.good] at h ⊢

/-- A request for a password without an error says yes or no. -/
lemma generate_cases {cell : String} (h : (readGenerate cell).error = none) :
    cell = Cells.generateYes ∨ cell = "" ∨ cell = Cells.generateNo := by
  unfold readGenerate at h
  split_ifs at h with hyes hno
  · exact .inl hyes
  · exact .inr hno
  · simp [CellReading.bad] at h

/-- **The values that cells stand for**: each cell by its own rule, with the password that has been
generated for the row if the row asks for one. -/
def Cells.written (c : Cells) (generated : Option String) : OverrideValues :=
  { timeOpen := (readTime c.timeOpen).value
    timeClose := (readTime c.timeClose).value
    timeLimit := (readNumber c.timeLimit).value
    attempts := (readNumber c.attempts).value
    password :=
      if c.generate = Cells.generateYes then generated else (readPassword c.password).value }

/-- **Sound values**: numbers within the limit of the database, a sound password, an opening time
that is not later than the closing time, and one value at least. -/
structure OverrideValues.Sound (v : OverrideValues) : Prop where
  timeLimit : ∀ w, v.timeLimit = some w → ∃ n : Nat, w = .finite n ∧ n ≤ maxInteger
  attempts : ∀ w, v.attempts = some w → ∃ n : Nat, w = .finite n ∧ n ≤ maxInteger
  password : ∀ p, v.password = some p → SoundPassword p
  times : ∀ o c, v.timeOpen = some o → v.timeClose = some c → o ≤ c
  given : v ≠ ⟨none, none, none, none, none⟩

/-- Nothing is wrong with any cell of a row without errors. -/
lemma errors_of_assembleRow {r : RowReading} {subject : SubjectReading}
    (h : (assembleRow r subject).errors.isEmpty = true) :
    (opensAfterClose r.timeOpen.value r.timeClose.value = false ∧ r.timeOpen.error = none) ∧
      r.timeClose.error = none ∧ r.timeLimit.error = none ∧ r.attempts.error = none ∧
      r.password.error = none ∧ r.generate.error = none := by
  simp only [assembleRow, FieldErrors.isEmpty, Bool.and_eq_true, Option.isNone_iff_eq_none] at h
  obtain ⟨⟨⟨⟨⟨⟨-, hopen⟩, hclose⟩, hlimit⟩, hattempts⟩, hpassword⟩, hgenerate⟩ := h
  split_ifs at hopen with hlater
  exact ⟨⟨Bool.eq_false_iff.mpr hlater, hopen⟩, hclose, hlimit, hattempts, hpassword, hgenerate⟩

/-- **The values of cells without errors are sound**, if the cells are not blank and the generated
password is sound. -/
theorem Cells.written_sound {c : Cells} {subject : SubjectReading} {generated : Option String}
    (herrors : (assembleRow (readCells c) subject).errors.isEmpty = true)
    (hblank : c.isBlank = false)
    (hgenerated : c.generate = generateYes → ∃ p, generated = some p ∧ SoundPassword p) :
    (c.written generated).Sound := by
  obtain ⟨⟨hlater, hopen⟩, hclose, hlimit, hattempts, hpassword, hgenerate⟩ :=
    errors_of_assembleRow herrors
  refine ⟨fun w hw => of_readNumber hw, fun w hw => of_readNumber hw, fun p hp => ?_,
    fun o cl ho hcl => ?_, fun hnone => ?_⟩
  · unfold written at hp
    dsimp only at hp
    split_ifs at hp with hyes
    · obtain ⟨p', hp', hsound⟩ := hgenerated hyes
      obtain rfl : p' = p := Option.some.inj (hp'.symm.trans hp)
      exact hsound
    · exact soundPassword_of_readPassword hp
  · have ho : (readCells c).timeOpen.value = some o := ho
    have hcl : (readCells c).timeClose.value = some cl := hcl
    rw [ho, hcl] at hlater
    simpa [opensAfterClose] using hlater
  · -- without a value every cell is empty, and the row is blank
    simp only [written, OverrideValues.mk.injEq] at hnone
    obtain ⟨hopen', hclose', hlimit', hattempts', hpassword'⟩ := hnone
    have hempty {α ε : Type} {r : CellReading α ε} {cell : String}
        (hvalue : cell ≠ "" → ∃ a, r.value = some a) (hr : r.value = none) : cell = "" := by
      by_contra hcell
      obtain ⟨a, ha⟩ := hvalue hcell
      rw [hr] at ha
      exact absurd ha (by simp)
    have hno : c.generate ≠ generateYes := fun hyes => by
      obtain ⟨p, hp, -⟩ := hgenerated hyes
      rw [if_pos hyes, hp] at hpassword'
      exact absurd hpassword' (by simp)
    rw [if_neg hno] at hpassword'
    have hgenerate := (generate_cases hgenerate).resolve_left hno
    have hall : c.isBlank = true := by
      unfold isBlank
      rw [hempty (exists_readTime hopen) hopen', hempty (exists_readTime hclose) hclose',
        hempty (exists_readNumber hlimit) hlimit', hempty (exists_readNumber hattempts) hattempts',
        hempty (exists_readPassword hpassword) hpassword']
      simpa using hgenerate
    rw [hblank] at hall
    exact absurd hall (by decide)

/-! ### Rows -/

/-- The values of a listed row are those of its cells. -/
lemma Site.ListedRow.values {s : Site} {st : RunSettings} {row : ImportRow} {record : List String}
    {password : Option String} (h : s.ListedRow st row record password)
    (hpinned : row.cells.generate = Cells.generateYes → ∃ p, st.pinned.lookup row.number = some p) :
    row.draft.data.values = row.cells.written (st.pinned.lookup row.number) := by
  have hpassword : password = (row.cells.written (st.pinned.lookup row.number)).password := by
    have hgives := h.gives
    unfold MayGive at hgives
    unfold Cells.written
    dsimp only
    rw [h.cells] at hpinned ⊢
    split_ifs at hgives with hasks
    · have hgenerate := asksPassword_rowOf.mp hasks
      obtain ⟨p, hp⟩ := hpinned hgenerate
      rw [hp] at hgives ⊢
      rw [if_pos hgenerate]
      exact hgives
    · rw [if_neg fun hgenerate => hasks (asksPassword_rowOf.mpr hgenerate)]
      exact hgives
  rw [h.data, RunSettings.draftData_values, hpassword, h.cells]
  simp only [ParsedFields.values, rowOf, validated, assembleRow, readCells, Cells.written]

/-- **The values of a row without errors are sound**, unless the row is a deletion. -/
theorem Site.ListedRow.sound {s : Site} {st : RunSettings} {row : ImportRow} {record : List String}
    {password : Option String} (h : s.ListedRow st row record password)
    (herrors : row.errors.isEmpty = true) (haction : row.action ≠ .delete)
    (hpinned : row.cells.generate = Cells.generateYes →
      ∃ p, st.pinned.lookup row.number = some p ∧ SoundPassword p) :
    row.draft.data.values.Sound := by
  have hblank : row.cells.isBlank = false := by
    refine Bool.eq_false_iff.mpr fun hblank => ?_
    have hdecide := h.action
    rw [hblank] at hdecide
    cases hexisting : (given? row.draft.id).isSome <;> rw [hexisting] at hdecide
    · exact h.listed hdecide
    · exact haction hdecide
  rw [h.errors, rowOf, validated, ← h.cells] at herrors
  rw [h.values fun hgenerate => (hpinned hgenerate).imp fun _ hp => hp.1]
  exact Cells.written_sound herrors hblank hpinned

end QuizOverrides
