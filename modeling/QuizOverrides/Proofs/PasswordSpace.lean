import Mathlib.Data.Set.Function
import QuizOverrides.Proofs.Values

set_option autoImplicit false

/-!
# Draws and passwords

A generated password of length `n` takes `n` draws, and each draw is a place of the alphabet.
No character has two places there, so that different draws give different passwords, and every text
over the alphabet is the password of the places of its characters. The rule of the password cell
accepts each of these texts as it is, up to the largest length.

## Main definitions

* `QuizOverrides.Password.Draws` — sequences of draws below the size of the alphabet.
* `QuizOverrides.Password.Texts` — texts over the alphabet.
* `QuizOverrides.Password.drawsOf` — the draws that a text over the alphabet is the password of.
* `QuizOverrides.Site.nextDraws` — the draws that a site makes next.

## Main results

* `QuizOverrides.Password.ofDraws_bijOn` — draws and passwords correspond one to one.
* `QuizOverrides.Password.readPassword_of_texts` — passwords are accepted in a cell.
* `QuizOverrides.Password.generate_lossless` — both, for passwords that are generated.
-/

namespace QuizOverrides

open QuizOverrides.Action

/-- **The draws that a site makes next**, one after the other, of places of the alphabet. -/
def Site.nextDraws (s : Site) (n : Nat) : List Int :=
  (List.range n).map fun i =>
    (runOn (draw Password.alphabet.length) { s with drawsMade := s.drawsMade + i }).1

/-- A site that makes the given draws next, and then again. -/
def Site.drawing (s : Site) (draws : List Int) : Site :=
  { s with drawSource := draws, drawsMade := 0 }

namespace Password

/-- **Sequences of `n` draws**, each below the size of the alphabet. -/
def Draws (n : Nat) : Set (List Int) :=
  {draws | draws.length = n ∧ ∀ k ∈ draws, 0 ≤ k ∧ k < alphabet.length}

/-- **Texts of length `n`** over the alphabet, in code units. -/
def Texts (n : Nat) : Set String :=
  {p | Text.unitLength p = n ∧ ∀ c ∈ p.toList, c ∈ alphabet}

/-- **The draws of a text**: the place of each of its characters in the alphabet. -/
def drawsOf (p : String) : List Int :=
  p.toList.map fun c => (alphabet.idxOf c : Int)

variable {n : Nat}

/-! ### Single draws -/

/-- No character stands twice in the alphabet. -/
lemma alphabet_nodup : alphabet.Nodup := by decide +kernel

/-- The place of the character that a draw gives is the draw. -/
lemma map_idxOf_charsOf {k : Int} (h : 0 ≤ k) (hk : k < alphabet.length) :
    (charsOf k).map (fun c => (alphabet.idxOf c : Int)) = [k] := by
  obtain ⟨i, rfl⟩ := Int.eq_ofNat_of_zero_le h
  rw [charsOf_natCast (by omega), List.map_singleton, alphabet_nodup.idxOf_getElem]

/-- The place of a character of the alphabet gives the character. -/
lemma charsOf_idxOf {c : Char} (h : c ∈ alphabet) : charsOf (alphabet.idxOf c) = [c] := by
  rw [charsOf_natCast (List.idxOf_lt_length_iff.mpr h), List.getElem_idxOf]

/-! ### Sequences of draws -/

/-- The draws of the password of draws are these draws. -/
theorem drawsOf_ofDraws {draws : List Int} (h : draws ∈ Draws n) :
    drawsOf (ofDraws draws) = draws := by
  obtain ⟨-, hplaces⟩ := h
  unfold drawsOf ofDraws
  rw [String.toList_ofList, List.map_flatMap]
  calc draws.flatMap (fun k => (charsOf k).map fun c => (alphabet.idxOf c : Int))
      = draws.flatMap fun k => [k] :=
        List.flatMap_congr fun k hk => map_idxOf_charsOf (hplaces k hk).1 (hplaces k hk).2
    _ = draws := List.flatMap_singleton' draws

/-- The password of the draws of a text is that text. -/
theorem ofDraws_drawsOf {p : String} (h : p ∈ Texts n) : ofDraws (drawsOf p) = p := by
  obtain ⟨-, hchars⟩ := h
  unfold drawsOf ofDraws
  rw [List.flatMap_map]
  calc String.ofList (p.toList.flatMap fun c => charsOf (alphabet.idxOf c))
      = String.ofList (p.toList.flatMap fun c => [c]) :=
        congrArg String.ofList (List.flatMap_congr fun c hc => charsOf_idxOf (hchars c hc))
    _ = p := by rw [List.flatMap_singleton', String.ofList_toList]

/-- Draws below the size of the alphabet give a text over it. -/
lemma mapsTo_ofDraws : Set.MapsTo ofDraws (Draws n) (Texts n) := by
  rintro draws ⟨rfl, hplaces⟩
  obtain ⟨hlength, hchars⟩ := flatMap_charsOf hplaces
  refine ⟨(unitLength_ofList hchars).trans hlength, ?_⟩
  unfold ofDraws
  rwa [String.toList_ofList]

/-- The draws of a text over the alphabet are below its size. -/
lemma mapsTo_drawsOf : Set.MapsTo drawsOf (Texts n) (Draws n) := by
  rintro p ⟨rfl, hchars⟩
  have hunits := unitLength_ofList hchars
  rw [String.ofList_toList] at hunits
  refine ⟨(List.length_map _).trans hunits.symm, fun k hk => ?_⟩
  obtain ⟨c, hc, rfl⟩ := List.mem_map.mp hk
  have hplace := List.idxOf_lt_length_iff.mpr (hchars c hc)
  omega

/-- **Draws and passwords correspond one to one.** -/
theorem ofDraws_bijOn (n : Nat) : Set.BijOn ofDraws (Draws n) (Texts n) :=
  Set.InvOn.bijOn ⟨fun _ => drawsOf_ofDraws, fun _ => ofDraws_drawsOf⟩ mapsTo_ofDraws
    mapsTo_drawsOf

/-- **Texts over the alphabet are accepted** in the cell of a password, if they are neither empty
nor longer than the limit. -/
theorem readPassword_of_texts {p : String} (h : p ∈ Texts n) (hgiven : 1 ≤ n)
    (hshort : n ≤ maxPasswordLength) : readPassword p = .good p := by
  obtain ⟨hlength, hplaces⟩ := mapsTo_drawsOf h
  have hsound := sound_ofDraws hplaces (by omega) (by omega)
  rw [ofDraws_drawsOf h] at hsound
  exact readPassword_of_sound hsound

/-! ### Generating -/

/-- **Generating a password** makes as many draws as it has characters, and does nothing else. -/
theorem runOn_generate_eq (n : Nat) (s : Site) :
    runOn (generate n) s = (ofDraws (s.nextDraws n), { s with drawsMade := s.drawsMade + n }) := by
  simp only [generate, runOn_map, runOn_drawMany, Int.toNat_natCast]
  rfl

/-- The draws of a source without negative numbers are below the size of the alphabet. -/
lemma nextDraws_mem {s : Site} (h : ∀ k ∈ s.drawSource, 0 ≤ k) (n : Nat) :
    s.nextDraws n ∈ Draws n := by
  refine ⟨by simp [Site.nextDraws], fun k hk => ?_⟩
  obtain ⟨i, -, rfl⟩ := List.mem_map.mp hk
  exact drawnNumber_tmod h _

/-- Every sequence of draws can be the next. -/
lemma nextDraws_drawing {draws : List Int} (h : draws ∈ Draws n) (s : Site) :
    (s.drawing draws).nextDraws n = draws := by
  obtain ⟨rfl, hplaces⟩ := h
  unfold Site.nextDraws Site.drawing
  refine List.ext_getElem (by simp) fun i _ hi => ?_
  obtain ⟨hpos, hlt⟩ := hplaces draws[i] (List.getElem_mem hi)
  simp only [List.getElem_map, List.getElem_range, runOn_draw, drawnNumber, Nat.zero_add,
    Nat.mod_eq_of_lt hi, List.getD_eq_getElem?_getD, List.getElem?_eq_getElem hi, Option.getD_some]
  exact Int.tmod_eq_of_lt hpos hlt

/-- **Generating passwords loses nothing of the draws.** A password of length `n` takes exactly `n`
draws, each of a place of the alphabet, and nothing else is done to the site; if the source of
random numbers gives no negative ones, the draws are below the size of the alphabet. Which password
is generated is a one-to-one function of the draws, and every text of length `n` over the alphabet
is generated from some draws. Where `n` is a length that passwords may have, validation accepts each
of these texts in the cell of the password and takes it as it is, whatever else the cells hold.

**Proof sketch.** The alphabet has no character twice, so that the place of a character can be read
off it again: this is the inverse of a draw, and character by character that of a password. No
character of the alphabet is blank, and each is a single unit. -/
theorem generate_lossless (n : Nat) (s : Site) :
    runOn (generate n) s = (ofDraws (s.nextDraws n), { s with drawsMade := s.drawsMade + n }) ∧
    ((∀ k ∈ s.drawSource, 0 ≤ k) → s.nextDraws n ∈ Draws n) ∧
    Set.BijOn (fun draws => (runOn (generate n) (s.drawing draws)).1) (Draws n) (Texts n) ∧
    (1 ≤ n → n ≤ 255 → ∀ p ∈ Texts n, readPassword p = .good p ∧
      ∀ (kind : SubjectKind) (courseId : Field String) (c : Cells), c.password = p →
        ∀ row s', (validate kind courseId c).Returns s row s' →
          row.errors.password = none ∧ row.fields.password = some p) := by
  refine ⟨runOn_generate_eq n s, fun h => nextDraws_mem h n, ?_, fun hgiven hshort p hp => ?_⟩
  · refine (ofDraws_bijOn n).congr fun draws hdraws => ?_
    rw [runOn_generate_eq, nextDraws_drawing hdraws]
  · have hread := readPassword_of_texts hp hgiven hshort
    refine ⟨hread, fun kind courseId c hc row s' hreturns => ?_⟩
    obtain rfl := (validate_looks kind courseId c).returns hreturns
    have hcell : (readCells c).password = .good p := by
      rw [← hread, ← hc]
      rfl
    exact ⟨congrArg CellReading.error hcell, congrArg CellReading.value hcell⟩

/-- The first, the last and another place of the alphabet: the password of these three draws is
generated, and a row with it is validated. -/
theorem generate_lossless_threeDraws : [0, 69, 24] ∈ Draws 3 ∧
    (runOn (generate 3) (Site.drawing {} [0, 69, 24])).1 = "A_a" ∧ "A_a" ∈ Texts 3 ∧
    ∃ row s', (validate .user .absent { (default : Cells) with password := "A_a" }).Returns {}
        row s' ∧
      row.errors.password = none ∧ row.fields.password = some "A_a" := by
  obtain ⟨-, -, hbijective, haccepted⟩ := generate_lossless 3 {}
  have hdraws : [0, 69, 24] ∈ Draws 3 := ⟨rfl, by decide⟩
  have hpassword : (runOn (generate 3) (Site.drawing {} [0, 69, 24])).1 = "A_a" := by
    decide +kernel
  have htext : "A_a" ∈ Texts 3 := hpassword ▸ hbijective.mapsTo hdraws
  obtain ⟨s', hreturns, -⟩ := (validate_looks .user .absent
    { (default : Cells) with password := "A_a" }).quiet (s := {}) rfl
  obtain ⟨-, hrows⟩ := haccepted (by decide) (by decide) "A_a" htext
  exact ⟨hdraws, hpassword, htext, _, s', hreturns, hrows _ _ _ rfl _ _ hreturns⟩

end Password

end QuizOverrides
