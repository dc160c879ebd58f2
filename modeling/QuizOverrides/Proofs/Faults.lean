import Mathlib.Data.List.Perm.Basic
import QuizOverrides.Proofs.Lookup

set_option autoImplicit false

/-!
# Storage faults along a run

A run takes faults off the schedule of its site and adds none. An action that does nothing but
accesses to tables, one after the other, throws exactly if one of these accesses is struck. Whether
any of them is depends on how often each kind of access is made and not on their order.

## Main definitions

* `QuizOverrides.Worn`, `QuizOverrides.Site.Wears` — no fault has been added.
* `QuizOverrides.Site.Unstruck` — on the way from one site to another no fault has struck.
* `QuizOverrides.strikes` — the effect of several accesses on the schedule.
* `QuizOverrides.Action.Accesses` — the accesses that an action makes.

## Main results

* `QuizOverrides.strike_eq_some`, `QuizOverrides.strike_eq_none` — what one access does.
* `QuizOverrides.strikes_perm` — accesses in another order, as long as none is struck.
* `QuizOverrides.Action.Accesses.bind` — the accesses of a sequence.
* `QuizOverrides.Action.Accesses.not_unstruck` — an action that throws has been struck.
-/

namespace QuizOverrides

open QuizOverrides.Action

/-! ### One access -/

/-- What a fault waits for, and what it throws. This stays the same while the fault waits. -/
def ScheduledFault.aim (f : ScheduledFault) : Table × Access × StorageError :=
  (f.table, f.access, f.thrown)

/-- A fault for another kind of access stays where it is. -/
lemma strike_cons_of_ne {table : Table} {kind : Access} {f : ScheduledFault}
    (h : ¬(f.table = table ∧ f.access = kind)) (rest : List ScheduledFault) :
    strike table kind (f :: rest) =
      ((strike table kind rest).1, f :: (strike table kind rest).2) := by
  rw [strike, if_neg h]

/-- The first fault for an access strikes or waits for one access less. -/
lemma strike_cons_of_eq {table : Table} {kind : Access} {f : ScheduledFault}
    (h : f.table = table ∧ f.access = kind) (rest : List ScheduledFault) :
    strike table kind (f :: rest) =
      if f.countdown ≤ 1 then (some f.thrown, rest)
      else (none, { f with countdown := f.countdown - 1 } :: rest) := by
  rw [strike, if_pos h]

/-- **A fault that strikes** is one for this access, and it is taken off the schedule. -/
theorem strike_eq_some {table : Table} {kind : Access} {faults left : List ScheduledFault}
    {e : StorageError} (h : strike table kind faults = (some e, left)) :
    ∃ before f after, faults = before ++ f :: after ∧ left = before ++ after ∧
      f.table = table ∧ f.access = kind ∧ f.thrown = e := by
  induction faults generalizing left with
  | nil => simp [strike] at h
  | cons f rest ih =>
    by_cases hf : f.table = table ∧ f.access = kind
    · rw [strike_cons_of_eq hf] at h
      split_ifs at h
      · obtain ⟨hthrown, rfl⟩ := Prod.mk.inj h
        exact ⟨[], f, rest, rfl, rfl, hf.1, hf.2, Option.some.inj hthrown⟩
      · simp at h
    · rw [strike_cons_of_ne hf] at h
      obtain ⟨hthrown, rfl⟩ := Prod.mk.inj h
      obtain ⟨before, g, after, hrest, hleft, hg⟩ := ih (Prod.ext hthrown rfl)
      exact ⟨f :: before, g, after, by simp [hrest], by simp [hleft], hg⟩

/-- **An access that is not struck** leaves all faults waiting. -/
theorem strike_eq_none {table : Table} {kind : Access} {faults left : List ScheduledFault}
    (h : strike table kind faults = (none, left)) :
    left.map ScheduledFault.aim = faults.map ScheduledFault.aim := by
  induction faults generalizing left with
  | nil =>
    obtain ⟨-, rfl⟩ := Prod.mk.inj h
    rfl
  | cons f rest ih =>
    by_cases hf : f.table = table ∧ f.access = kind
    · rw [strike_cons_of_eq hf] at h
      split_ifs at h
      · simp at h
      · obtain ⟨-, rfl⟩ := Prod.mk.inj h
        rfl
    · rw [strike_cons_of_ne hf] at h
      obtain ⟨hthrown, rfl⟩ := Prod.mk.inj h
      rw [List.map_cons, List.map_cons, ih (Prod.ext hthrown rfl)]

/-- Accesses of different kinds do not disturb each other. -/
lemma strike_comm {a b : Table × Access} (hne : a ≠ b) {faults f₁ f₂ : List ScheduledFault}
    (h₁ : strike a.1 a.2 faults = (none, f₁)) (h₂ : strike b.1 b.2 f₁ = (none, f₂)) :
    ∃ g₁, strike b.1 b.2 faults = (none, g₁) ∧ strike a.1 a.2 g₁ = (none, f₂) := by
  induction faults generalizing f₁ f₂ with
  | nil =>
    obtain ⟨-, rfl⟩ := Prod.mk.inj h₁
    obtain ⟨-, rfl⟩ := Prod.mk.inj h₂
    exact ⟨[], rfl, rfl⟩
  | cons f rest ih =>
    -- the first fault waits for one of the two accesses at most
    by_cases ha : f.table = a.1 ∧ f.access = a.2
    · have hb : ¬(f.table = b.1 ∧ f.access = b.2) := fun hb =>
        hne (Prod.ext (ha.1.symm.trans hb.1) (ha.2.symm.trans hb.2))
      rw [strike_cons_of_eq ha] at h₁
      split_ifs at h₁ with hdue
      · simp at h₁
      obtain ⟨-, rfl⟩ := Prod.mk.inj h₁
      rw [strike_cons_of_ne (by exact hb)] at h₂
      obtain ⟨hthrown, rfl⟩ := Prod.mk.inj h₂
      refine ⟨_, (strike_cons_of_ne hb rest).trans (Prod.ext hthrown rfl), ?_⟩
      rw [strike_cons_of_eq ha, if_neg hdue]
    · rw [strike_cons_of_ne ha] at h₁
      obtain ⟨hthrown₁, rfl⟩ := Prod.mk.inj h₁
      by_cases hb : f.table = b.1 ∧ f.access = b.2
      · rw [strike_cons_of_eq hb] at h₂
        split_ifs at h₂ with hdue
        · simp at h₂
        obtain ⟨-, rfl⟩ := Prod.mk.inj h₂
        refine ⟨_, (strike_cons_of_eq hb rest).trans (if_neg hdue), ?_⟩
        rw [strike_cons_of_ne (by exact ha), hthrown₁]
      · rw [strike_cons_of_ne hb] at h₂
        obtain ⟨hthrown₂, rfl⟩ := Prod.mk.inj h₂
        obtain ⟨g₁, hg₁, hg₂⟩ := ih (Prod.ext hthrown₁ rfl) (Prod.ext hthrown₂ rfl)
        refine ⟨f :: g₁, ?_, ?_⟩
        · rw [strike_cons_of_ne hb, hg₁]
        · rw [strike_cons_of_ne ha, hg₂]

/-! ### Several accesses -/

/-- **Several accesses meet the schedule**, one after the other until one of them is struck. -/
def strikes :
    List (Table × Access) → List ScheduledFault → Option StorageError × List ScheduledFault
  | [], faults => (none, faults)
  | a :: rest, faults =>
    match strike a.1 a.2 faults with
    | (some e, left) => (some e, left)
    | (none, left) => strikes rest left

/-- One access is struck as it is on its own. -/
lemma strikes_singleton (a : Table × Access) (faults : List ScheduledFault) :
    strikes [a] faults = strike a.1 a.2 faults := by
  unfold strikes
  rcases strike a.1 a.2 faults with ⟨_ | e, left⟩ <;> rfl

/-- Some accesses and then others. -/
lemma strikes_append (first second : List (Table × Access)) (faults : List ScheduledFault) :
    strikes (first ++ second) faults =
      match strikes first faults with
      | (some e, left) => (some e, left)
      | (none, left) => strikes second left := by
  induction first generalizing faults with
  | nil => rfl
  | cons a rest ih =>
    simp only [List.cons_append, strikes]
    rcases strike a.1 a.2 faults with ⟨_ | e, left⟩
    · exact ih left
    · rfl

/-- **Accesses that are not struck** leave all faults waiting. -/
lemma strikes_eq_none {accesses : List (Table × Access)} {faults left : List ScheduledFault}
    (h : strikes accesses faults = (none, left)) :
    left.map ScheduledFault.aim = faults.map ScheduledFault.aim := by
  induction accesses generalizing faults with
  | nil =>
    obtain ⟨-, rfl⟩ := Prod.mk.inj h
    rfl
  | cons a rest ih =>
    rw [strikes] at h
    rcases hstrike : strike a.1 a.2 faults with ⟨_ | e, left₁⟩ <;> simp only [hstrike] at h
    · exact (ih h).trans (strike_eq_none hstrike)
    · simp at h

/-- **Where one of several accesses is struck**, one fault is gone, which was for one of them. -/
lemma strikes_eq_some {accesses : List (Table × Access)} {faults left : List ScheduledFault}
    {e : StorageError} (h : strikes accesses faults = (some e, left)) :
    ∃ before aim after, faults.map ScheduledFault.aim = before ++ aim :: after ∧
      left.map ScheduledFault.aim = before ++ after ∧ (aim.1, aim.2.1) ∈ accesses ∧
      aim.2.2 = e := by
  induction accesses generalizing faults with
  | nil => simp [strikes] at h
  | cons a rest ih =>
    rw [strikes] at h
    rcases hstrike : strike a.1 a.2 faults with ⟨_ | e', left₁⟩ <;> simp only [hstrike] at h
    · obtain ⟨before, aim, after, hfaults, hleft, hmem, he⟩ := ih h
      rw [strike_eq_none hstrike] at hfaults
      exact ⟨before, aim, after, hfaults, hleft, List.mem_cons_of_mem _ hmem, he⟩
    · obtain ⟨hthrown, rfl⟩ := Prod.mk.inj h
      obtain ⟨before, f, after, rfl, rfl, htable, hkind, rfl⟩ := strike_eq_some hstrike
      exact ⟨before.map ScheduledFault.aim, f.aim, after.map ScheduledFault.aim, by simp, by simp,
        by simp [ScheduledFault.aim, htable, hkind], Option.some.inj hthrown⟩

/-- **The order of accesses does not matter**, as long as none of them is struck. -/
theorem strikes_perm {first second : List (Table × Access)} (hperm : first.Perm second)
    {faults left : List ScheduledFault} (h : strikes first faults = (none, left)) :
    strikes second faults = (none, left) := by
  induction hperm generalizing faults left with
  | nil => exact h
  | cons a _ ih =>
    rw [strikes] at h ⊢
    rcases hstrike : strike a.1 a.2 faults with ⟨_ | e, left₁⟩ <;> simp only [hstrike] at h ⊢
    · exact ih h
    · simp at h
  | swap b a rest =>
    rw [strikes] at h
    rcases ha : strike a.1 a.2 faults with ⟨_ | e, f₁⟩ <;> simp only [ha] at h
    · rw [strikes] at h
      rcases hb : strike b.1 b.2 f₁ with ⟨_ | e, f₂⟩ <;> simp only [hb] at h
      · by_cases hne : a = b
        · subst hne
          simpa only [strikes, ha, hb] using h
        · obtain ⟨g₁, hg₁, hg₂⟩ := strike_comm hne ha hb
          simpa only [strikes, hg₁, hg₂] using h
      · simp at h
    · simp at h
  | trans _ _ ih₁ ih₂ => exact ih₂ (ih₁ h)

/-! ### Runs and the schedule -/

/-- **A schedule has been worn**: no fault has been added, whatever may have struck. -/
def Worn (faults left : List ScheduledFault) : Prop :=
  (left.map ScheduledFault.aim).Sublist (faults.map ScheduledFault.aim)

namespace Worn

variable {faults left later : List ScheduledFault}

/-- Faults that have not struck are all left. -/
lemma refl (faults : List ScheduledFault) : Worn faults faults := List.Sublist.refl _

/-- What is left of what is left is left of the whole. -/
lemma trans (h : Worn faults left) (h' : Worn left later) : Worn faults later :=
  List.Sublist.trans h' h

/-- What no fault waits for, none waits for later. -/
lemma forall_aim {P : Table × Access × StorageError → Prop} (h : Worn faults left)
    (hfaults : ∀ f ∈ faults, P f.aim) : ∀ f ∈ left, P f.aim := by
  intro f hf
  obtain ⟨g, hg, haim⟩ := List.mem_map.mp (h.subset (List.mem_map_of_mem hf))
  rw [← haim]
  exact hfaults g hg

end Worn

/-- Accesses wear the schedule. -/
lemma worn_strikes (accesses : List (Table × Access)) (faults : List ScheduledFault) :
    Worn faults (strikes accesses faults).2 := by
  unfold Worn
  rcases hstrikes : strikes accesses faults with ⟨_ | e, left⟩
  · rw [strikes_eq_none hstrikes]
  · obtain ⟨before, aim, after, hfaults, hleft, -⟩ := strikes_eq_some hstrikes
    rw [hfaults, hleft]
    exact (List.sublist_cons_self aim after).append_left before

/-- **Where an access is struck, one fault less is waiting.** -/
lemma length_lt_of_strikes {accesses : List (Table × Access)} {faults : List ScheduledFault}
    {e : StorageError} (h : (strikes accesses faults).1 = some e) :
    (strikes accesses faults).2.length < faults.length := by
  rcases hstrikes : strikes accesses faults with ⟨thrown, left⟩
  obtain rfl : thrown = some e := by rw [← h, hstrikes]
  obtain ⟨before, aim, after, hfaults, hleft, -⟩ := strikes_eq_some hstrikes
  have hbefore := congrArg List.length hfaults
  have hafter := congrArg List.length hleft
  simp only [List.length_map, List.length_append, List.length_cons] at hbefore hafter
  show left.length < faults.length
  omega

/-- **On the way from `s` to `s'` no fault has been added**, whatever may have struck. -/
def Site.Wears (s s' : Site) : Prop := Worn s.faults s'.faults

/-- **On the way from `s` to `s'` no fault has struck**: all that were waiting still do. -/
def Site.Unstruck (s s' : Site) : Prop :=
  s'.faults.map ScheduledFault.aim = s.faults.map ScheduledFault.aim

namespace Site

variable {s s₁ s' : Site}

/-- If no fault has struck, as many are left. -/
lemma Unstruck.length_eq (h : s.Unstruck s') : s'.faults.length = s.faults.length := by
  simpa using congrArg List.length h

/-- Where the faults are the same, none is added. -/
lemma Wears.of_faults (h : s'.faults = s.faults) : s.Wears s' := by
  unfold Wears
  rw [h]
  exact .refl _

/-- A way on which no fault has struck has no part on which one has. -/
lemma Unstruck.parts (h : s.Unstruck s') (h₁ : s.Wears s₁) (h' : s₁.Wears s') :
    s.Unstruck s₁ ∧ s₁.Unstruck s' := by
  unfold Wears Worn at h'
  rw [h] at h'
  have hfirst : s.Unstruck s₁ := List.Sublist.antisymm h₁ h'
  exact ⟨hfirst, h.trans hfirst.symm⟩

end Site

/-- **A computation adds no fault** to the schedule. -/
def Wears {α : Type} (x : StateM Site α) : Prop := ∀ s : Site, s.Wears (runOn x s).2

namespace Wears

variable {ε ε' α β : Type}

/-- What leaves the faults alone adds none. -/
lemma of_frames {x : StateM Site α} (h : Frames Site.faults x) : Wears x := fun s =>
  .of_faults (h s)

/-- A sequence adds no fault if its parts add none. -/
lemma bind {x : StateM Site α} {f : α → StateM Site β} (hx : Wears x) (hf : ∀ a, Wears (f a)) :
    Wears (x >>= f) := fun s =>
  Worn.trans (hx s) (hf _ _)

/-- A sequence that may fail adds no fault if its parts add none. -/
lemma run_bind {act : Action ε α} {f : α → Action ε β} (hact : Wears act.run)
    (hf : ∀ a, Wears (f a).run) : Wears (ExceptT.run (act >>= f)) := by
  intro s
  rw [runOn_run_bind]
  have h := hact s
  rcases hrun : runOn act.run s with ⟨e | a, s'⟩ <;> rw [hrun] at h
  · exact h
  · exact Worn.trans h (hf a s')

/-- Renaming errors adds no fault. -/
lemma mapError {act : Action ε α} (f : ε → ε') (h : Wears act.run) :
    Wears (act.mapError f).run := by
  intro s
  rw [runOn_run_mapError]
  exact h s

/-- No fault has been added where the action returns. -/
lemma returns {act : Action ε α} (h : Wears act.run) {s s' : Site} {a : α}
    (hrun : act.Returns s a s') : s.Wears s' := by
  have := h s
  rwa [hrun] at this

/-- No fault has been added where the action throws. -/
lemma throws {act : Action ε α} (h : Wears act.run) {s s' : Site} {e : ε}
    (hrun : act.Throws s e s') : s.Wears s' := by
  have := h s
  rwa [hrun] at this

end Wears

/-! ### The accesses of an action -/

/-- **The accesses that an action makes**: they wear the schedule, and the action throws exactly if
one of them is struck. -/
structure Action.Accesses {ε α : Type} (act : Action ε α) (trace : Site → List (Table × Access)) :
    Prop where
  faults : ∀ s, (runOn act.run s).2.faults = (strikes (trace s) s.faults).2
  isOk : ∀ s, (runOn act.run s).1.isOk = (strikes (trace s) s.faults).1.isNone

namespace Action.Accesses

variable {ε ε' α β : Type} {act : Action ε α} {trace : Site → List (Table × Access)}

/-- Returning a value makes no access. -/
lemma pure (a : α) : Accesses (Pure.pure a : Action ε α) fun _ => [] where
  faults _ := rfl
  isOk _ := rfl

/-- An access is the only one that it makes. -/
lemma access (table : Table) (kind : Access) :
    (QuizOverrides.access table kind).Accesses fun _ => [(table, kind)] where
  faults s := by
    rw [runOn_access, strikes_singleton]
    rfl
  isOk s := by
    rw [runOn_access, strikes_singleton]
    rcases (strike table kind s.faults).1 with _ | e <;> rfl

/-- **The accesses of a sequence** that begins with a look-up. -/
lemma bind {value : Site → α} {f : α → Action ε β} {rest : α → List (Table × Access)}
    (h : act.Accesses trace) (hlooks : act.Looks value)
    (hf : ∀ a, (f a).Accesses fun _ => rest a) :
    (act >>= f).Accesses fun s => trace s ++ rest (value s) := by
  have hparts (s : Site) :
      (runOn (ExceptT.run (act >>= f)) s).2.faults =
          (strikes (trace s ++ rest (value s)) s.faults).2 ∧
        (runOn (ExceptT.run (act >>= f)) s).1.isOk =
          (strikes (trace s ++ rest (value s)) s.faults).1.isNone := by
    rw [strikes_append, runOn_run_bind]
    have hfaults := h.faults s
    have hok := h.isOk s
    rcases hrun : runOn act.run s with ⟨e | a, s₁⟩ <;> rw [hrun] at hfaults hok <;>
      rcases hstrikes : strikes (trace s) s.faults with ⟨_ | e', left⟩ <;>
      rw [hstrikes] at hfaults hok
    · simp [Except.isOk, Except.toBool] at hok
    · exact ⟨hfaults, rfl⟩
    · obtain rfl := hlooks.returns hrun
      obtain rfl : s₁.faults = left := hfaults
      exact ⟨(hf _).faults s₁, (hf _).isOk s₁⟩
    · simp [Except.isOk, Except.toBool] at hok
  exact ⟨fun s => (hparts s).1, fun s => (hparts s).2⟩

/-- What is made of the value of an action does not matter for its accesses. -/
lemma map (h : act.Accesses trace) (g : α → β) :
    Accesses (act >>= fun a => Pure.pure (g a)) trace where
  faults s := by
    rw [runOn_run_map]
    exact h.faults s
  isOk s := by
    rw [← h.isOk s, runOn_run_bind]
    rcases runOn act.run s with ⟨e | a, s'⟩ <;> rfl

/-- Reading a table is one access. -/
lemma access_read (table : Table) (kind : Access) (g : Site → α) :
    (do QuizOverrides.access table kind; Pure.pure (g (← get)) : Action StorageError α).Accesses
      fun _ => [(table, kind)] where
  faults s := by
    rw [← (access table kind).faults s, runOn_run_bind]
    rcases runOn (QuizOverrides.access table kind).run s with ⟨e | a, s'⟩ <;> rfl
  isOk s := by
    rw [← (access table kind).isOk s, runOn_run_bind]
    rcases runOn (QuizOverrides.access table kind).run s with ⟨e | a, s'⟩ <;> rfl

/-- Accesses add no fault. -/
lemma wears (h : act.Accesses trace) : Wears act.run := by
  intro s
  unfold Site.Wears
  rw [h.faults s]
  exact worn_strikes _ _

/-- **An action that throws has been struck.** -/
theorem not_unstruck (h : act.Accesses trace) {s s' : Site} {e : ε} (hrun : act.Throws s e s') :
    ¬s.Unstruck s' := by
  have hfaults := h.faults s
  have hok := h.isOk s
  rw [hrun] at hfaults hok
  rcases hstruck : (strikes (trace s) s.faults).1 with _ | e'
  · simp [hstruck, Except.isOk, Except.toBool] at hok
  · intro hunstruck
    have hlt := length_lt_of_strikes hstruck
    rw [← hfaults] at hlt
    exact absurd hunstruck.length_eq (Nat.ne_of_lt hlt)

end Action.Accesses

end QuizOverrides
