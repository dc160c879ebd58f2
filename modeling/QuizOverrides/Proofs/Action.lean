import Mathlib.Tactic.Lemma
import QuizOverrides.Site.Basic

set_option autoImplicit false

/-!
# Running actions

A run of a computation on a site comes to a value and leaves a site; a run of an action returns or
throws. The laws below take a run of a composed action apart into runs of its parts, and carry over
to the whole what every part leaves alone.

## Main definitions

* `QuizOverrides.runOn` — the run of a computation on a site.
* `QuizOverrides.Action.Returns`, `QuizOverrides.Action.Throws` — the two outcomes of an action.
* `QuizOverrides.Frames` — a computation leaves a part of the site alone.
* `QuizOverrides.Site.still` — all of a site but its accesses and its faults.
* `QuizOverrides.Action.Looks` — an action that only looks something up.

## Main results

* `QuizOverrides.Action.returns_bind`, `QuizOverrides.Action.throws_bind` — runs of a sequence.
* `QuizOverrides.Action.Looks.bind` — look-ups one after the other are a look-up.
-/

namespace QuizOverrides

variable {ε ε' α β γ δ : Type}

/-- **The run of a computation** on a site: its value and the site it leaves. -/
def runOn (x : StateM Site α) (s : Site) : α × Site := x s

/-- What only returns a value leaves the site as it is. -/
@[simp] lemma runOn_pure (a : α) (s : Site) : runOn (pure a) s = (a, s) := rfl

/-- The second part of a sequence starts where the first one ended. -/
@[simp] lemma runOn_bind (x : StateM Site α) (f : α → StateM Site β) (s : Site) :
    runOn (x >>= f) s = runOn (f (runOn x s).1) (runOn x s).2 := rfl

/-- Mapping what is returned leaves the site at the end alone. -/
@[simp] lemma runOn_map (f : α → β) (x : StateM Site α) (s : Site) :
    runOn (f <$> x) s = (f (runOn x s).1, (runOn x s).2) := rfl

/-- Reading returns the site itself. -/
@[simp] lemma runOn_get (s : Site) : runOn get s = (s, s) := rfl

/-- Modifying replaces the site by its image. -/
@[simp] lemma runOn_modify (f : Site → Site) (s : Site) : runOn (modify f) s = (⟨⟩, f s) := rfl

namespace Action

/-! ### Outcomes -/

/-- On the site `s` the action returns `a` and leaves the site `s'`. -/
def Returns (act : Action ε α) (s : Site) (a : α) (s' : Site) : Prop :=
  runOn act.run s = (.ok a, s')

/-- On the site `s` the action throws `e` and leaves the site `s'`. -/
def Throws (act : Action ε α) (s : Site) (e : ε) (s' : Site) : Prop :=
  runOn act.run s = (.error e, s')

/-- A run returns or throws. -/
lemma returns_or_throws (act : Action ε α) (s : Site) :
    (∃ a s', act.Returns s a s') ∨ ∃ e s', act.Throws s e s' := by
  rcases h : runOn act.run s with ⟨e | a, s'⟩
  · exact .inr ⟨e, s', h⟩
  · exact .inl ⟨a, s', h⟩

/-- A run has one outcome. -/
lemma Returns.unique {act : Action ε α} {s s₁ s₂ : Site} {a b : α} (h : act.Returns s a s₁)
    (h' : act.Returns s b s₂) : a = b ∧ s₁ = s₂ := by
  simpa using h.symm.trans h'

/-- A run throws one error. -/
lemma Throws.unique {act : Action ε α} {s s₁ s₂ : Site} {e e' : ε} (h : act.Throws s e s₁)
    (h' : act.Throws s e' s₂) : e = e' ∧ s₁ = s₂ := by
  simpa using h.symm.trans h'

/-- A run that returns does not throw. -/
lemma Returns.not_throws {act : Action ε α} {s s₁ s₂ : Site} {a : α} {e : ε}
    (h : act.Returns s a s₁) : ¬act.Throws s e s₂ := by
  intro h'
  simpa using h.symm.trans h'

/-- A run that comes to a value returns it. -/
lemma exists_returns_of_isOk {act : Action ε α} {s : Site} (h : (runOn act.run s).1.isOk = true) :
    ∃ a, act.Returns s a (runOn act.run s).2 := by
  rcases returns_or_throws act s with ⟨a, s', hrun⟩ | ⟨e, s', hrun⟩
  · exact ⟨a, by rw [show runOn act.run s = _ from hrun]; exact hrun⟩
  · rw [show runOn act.run s = _ from hrun] at h
    simp [Except.isOk, Except.toBool] at h

/-- A run that comes to no value throws. -/
lemma exists_throws_of_isOk {act : Action ε α} {s : Site} (h : (runOn act.run s).1.isOk = false) :
    ∃ e, act.Throws s e (runOn act.run s).2 := by
  rcases returns_or_throws act s with ⟨a, s', hrun⟩ | ⟨e, s', hrun⟩
  · rw [show runOn act.run s = _ from hrun] at h
    simp [Except.isOk, Except.toBool] at h
  · exact ⟨e, by rw [show runOn act.run s = _ from hrun]; exact hrun⟩

variable {s s' s'' : Site}

/-- Throwing an error fails where it starts. -/
@[simp] lemma runOn_run_throw (e : ε) :
    runOn (ExceptT.run (throw e : Action ε α)) s = (.error e, s) := rfl

/-- Reading succeeds with the site itself. -/
@[simp] lemma runOn_run_get : runOn (ExceptT.run (get : Action ε Site)) s = (.ok s, s) := rfl

/-- Setting succeeds at the new site. -/
@[simp] lemma runOn_run_set (t : Site) :
    runOn (ExceptT.run (set t : Action ε PUnit)) s = (.ok ⟨⟩, t) := rfl

/-- The run of a sequence. -/
lemma runOn_run_bind (act : Action ε α) (f : α → Action ε β) (s : Site) :
    runOn (ExceptT.run (act >>= f)) s =
      match runOn act.run s with
      | (.ok a, s') => runOn (f a).run s'
      | (.error e, s') => (.error e, s') := by
  change runOn (act.run >>= ExceptT.bindCont f) s = _
  rw [runOn_bind]
  rcases runOn act.run s with ⟨e | a, s'⟩ <;> rfl

/-- What is made of the value of an action does not matter for the site it leaves. -/
lemma runOn_run_map (act : Action ε α) (g : α → β) (s : Site) :
    (runOn (ExceptT.run (act >>= fun a => pure (g a))) s).2 = (runOn act.run s).2 := by
  rw [runOn_run_bind]
  rcases runOn act.run s with ⟨e | a, s'⟩ <;> rfl

/-- The run of an action whose error is renamed ends where the action itself does. -/
lemma runOn_run_mapError (act : Action ε α) (f : ε → ε') (s : Site) :
    runOn (act.mapError f).run s = ((runOn act.run s).1.mapError f, (runOn act.run s).2) := by
  change runOn (act.run >>= _) s = _
  rw [runOn_bind]
  rcases runOn act.run s with ⟨e | a, s'⟩ <;> rfl

/-- What only returns a value returns that one, at the site it starts from. -/
@[simp] lemma returns_pure {a b : α} :
    Returns (pure a : Action ε α) s b s' ↔ a = b ∧ s = s' := by
  simp [Returns]

/-- What only returns a value throws nothing. -/
@[simp] lemma throws_pure {a : α} {e : ε} : ¬Throws (pure a : Action ε α) s e s' := by
  simp [Throws]

/-- What only throws an error returns nothing. -/
@[simp] lemma returns_throw {a : α} {e : ε} : ¬Returns (throw e : Action ε α) s a s' := by
  simp [Returns]

/-- What only throws an error throws that one, at the site it starts from. -/
@[simp] lemma throws_throw {e e' : ε} :
    Throws (throw e : Action ε α) s e' s' ↔ e = e' ∧ s = s' := by
  simp [Throws]

/-- **A sequence returns** if its parts do, one after the other. -/
lemma returns_bind {act : Action ε α} {f : α → Action ε β} {b : β} :
    Returns (act >>= f) s b s'' ↔ ∃ a s', act.Returns s a s' ∧ (f a).Returns s' b s'' := by
  unfold Returns
  rw [runOn_run_bind]
  rcases runOn act.run s with ⟨_ | _, _⟩ <;> simp [and_assoc]

/-- **A sequence throws** if its first part does, or if that returns and the rest throws. -/
lemma throws_bind {act : Action ε α} {f : α → Action ε β} {e : ε} :
    Throws (act >>= f) s e s'' ↔
      act.Throws s e s'' ∨ ∃ a s', act.Returns s a s' ∧ (f a).Throws s' e s'' := by
  unfold Throws Returns
  rw [runOn_run_bind]
  rcases runOn act.run s with ⟨_ | _, _⟩ <;> simp [and_assoc]

/-- Renaming errors keeps a value. -/
lemma mapError_ok (f : ε → ε') (a : α) : (Except.ok a : Except ε α).mapError f = .ok a := rfl

/-- Renaming errors renames an error. -/
lemma mapError_error (f : ε → ε') (e : ε) :
    (Except.error e : Except ε α).mapError f = .error (f e) := rfl

/-- Renaming errors leaves what is returned alone. -/
@[simp] lemma returns_mapError {act : Action ε α} {f : ε → ε'} {a : α} :
    (act.mapError f).Returns s a s' ↔ act.Returns s a s' := by
  unfold Returns
  rw [runOn_run_mapError]
  rcases runOn act.run s with ⟨_ | _, _⟩ <;> simp [mapError_ok, mapError_error]

/-- What is thrown under a new name has been thrown under its own. -/
@[simp] lemma throws_mapError {act : Action ε α} {f : ε → ε'} {e' : ε'} :
    (act.mapError f).Throws s e' s' ↔ ∃ e, act.Throws s e s' ∧ f e = e' := by
  unfold Throws
  rw [runOn_run_mapError]
  rcases runOn act.run s with ⟨e | a, t⟩
  · simpa [mapError_error, and_assoc] using and_comm
  · simp [mapError_ok]

/-- What cannot fail returns its value. -/
@[simp] lemma returns_lift {x : StateM Site α} {a : α} :
    Returns (liftM x : Action ε α) s a s' ↔ runOn x s = (a, s') := by
  simp [Returns, Prod.ext_iff]

/-- What cannot fail throws nothing. -/
@[simp] lemma throws_lift {x : StateM Site α} {e : ε} :
    ¬Throws (liftM x : Action ε α) s e s' := by
  simp [Throws]

/-- Reading returns the site and leaves it as it is. -/
@[simp] lemma returns_get {t : Site} : Returns (get : Action ε Site) s t s' ↔ s = t ∧ s = s' := by
  simp [Returns]

end Action

/-! ### What is left alone -/

/-- **A computation leaves a part of the site alone**, the part being what `π` shows of it. -/
def Frames (π : Site → γ) (x : StateM Site α) : Prop :=
  ∀ s, π (runOn x s).2 = π s

namespace Frames

variable {π : Site → γ}

/-- Returning a value changes nothing. -/
lemma pure (a : α) : Frames π (pure a : StateM Site α) := fun _ => rfl

/-- A sequence changes nothing that its parts leave alone. -/
lemma bind {x : StateM Site α} {f : α → StateM Site β} (hx : Frames π x)
    (hf : ∀ a, Frames π (f a)) : Frames π (x >>= f) := fun s =>
  (hf _ _).trans (hx s)

/-- What is left alone is left alone in any view of it. -/
lemma comp {x : StateM Site α} (g : γ → δ) (hx : Frames π x) : Frames (fun s => g (π s)) x :=
  fun s => congrArg g (hx s)

/-- A sequence leaves alone what its parts do, each on the sites that it is run on. -/
lemma run_bind_of_returns {act : Action ε α} {f : α → Action ε β} {s : Site}
    (hact : π (runOn act.run s).2 = π s)
    (hf : ∀ a s', act.Returns s a s' → π (runOn (f a).run s').2 = π s') :
    π (runOn (ExceptT.run (act >>= f)) s).2 = π s := by
  rw [Action.runOn_run_bind]
  rcases hrun : runOn act.run s with ⟨e | a, s'⟩ <;> rw [hrun] at hact
  · exact hact
  · exact (hf a s' hrun).trans hact

/-- A sequence of actions leaves alone what its parts do. -/
lemma run_bind {act : Action ε α} {f : α → Action ε β} (hact : Frames π act.run)
    (hf : ∀ a, Frames π (f a).run) : Frames π (ExceptT.run (act >>= f)) := fun s =>
  run_bind_of_returns (hact s) fun a s' _ => hf a s'

/-- Renaming errors changes nothing of the site. -/
lemma mapError {act : Action ε α} (f : ε → ε') (hact : Frames π act.run) :
    Frames π (act.mapError f).run := by
  intro s
  rw [Action.runOn_run_mapError]
  exact hact s

/-- What cannot fail changes no more than it does on its own. -/
lemma lift {x : StateM Site α} (hx : Frames π x) :
    Frames π (ExceptT.run (liftM x : Action ε α)) := hx

/-- What is framed is the same where the action returns. -/
lemma returns {act : Action ε α} (hact : Frames π act.run) {s s' : Site} {a : α}
    (h : act.Returns s a s') : π s' = π s := by
  have := hact s
  rwa [h] at this

/-- What is framed is the same where the action throws. -/
lemma throws {act : Action ε α} (hact : Frames π act.run) {s s' : Site} {e : ε}
    (h : act.Throws s e s') : π s' = π s := by
  have := hact s
  rwa [h] at this

end Frames

/-! ### Look-ups -/

/-- All of a site but the accesses to its tables and the faults that wait for them. -/
def Site.still (s : Site) : Site := { s with accesses := [], faults := [] }

/-- What is seen of a part of a site is the same for sites that agree in this part. -/
lemma Site.congr_of_mask {mask : Site → Site} (f : Site → γ) {s s' : Site} (h : mask s' = mask s)
    (hf : ∀ s, f (mask s) = f s) : f s' = f s := by
  rw [← hf s', h, hf]

/-- **A look-up**: the action changes nothing but accesses and faults, what it returns is a function
of all else, and it returns unless a fault is waiting. -/
structure Action.Looks (act : Action ε α) (value : Site → α) : Prop where
  frames : Frames Site.still act.run
  stable : ∀ {s s' : Site}, s'.still = s.still → value s' = value s
  returns : ∀ {s s' : Site} {a : α}, act.Returns s a s' → a = value s
  quiet : ∀ {s : Site}, s.faults = [] → ∃ s', act.Returns s (value s) s' ∧ s'.faults = []

namespace Action.Looks

variable {act : Action ε α} {value : Site → α}

/-- Returning a value is a look that always sees that value. -/
lemma pure (a : α) : Looks (pure a : Action ε α) fun _ => a where
  frames := Frames.pure _
  stable _ := rfl
  returns h := (returns_pure.mp h).1.symm
  quiet {s} hs := ⟨s, returns_pure.mpr ⟨rfl, rfl⟩, hs⟩

/-- **Look-ups one after the other** are a look-up. -/
lemma bind {f : α → Action ε β} {value' : α → Site → β} (hact : Looks act value)
    (hf : ∀ a, Looks (f a) (value' a)) : Looks (act >>= f) fun s => value' (value s) s where
  frames := Frames.run_bind hact.frames fun a => (hf a).frames
  stable h := by rw [hact.stable h, (hf _).stable h]
  returns {s s'' b} h := by
    obtain ⟨a, s', h₁, h₂⟩ := returns_bind.mp h
    obtain rfl := hact.returns h₁
    rw [(hf _).returns h₂, (hf _).stable (hact.frames.returns h₁)]
  quiet {s} hs := by
    obtain ⟨s', h₁, hs'⟩ := hact.quiet hs
    obtain ⟨s'', h₂, hs''⟩ := (hf (value s)).quiet hs'
    rw [(hf _).stable (hact.frames.returns h₁)] at h₂
    exact ⟨s'', returns_bind.mpr ⟨_, _, h₁, h₂⟩, hs''⟩

/-- What follows a look-up is run on the value that is found. -/
lemma frames_bind {π : Site → γ} {f : α → Action ε β} (hact : Looks act value)
    (hπ : Frames π act.run) (hf : ∀ s, Frames π (f (value s)).run) :
    Frames π (ExceptT.run (act >>= f)) := fun s =>
  Frames.run_bind_of_returns (hπ s) fun a s' h => by
    obtain rfl := hact.returns h
    exact hf s s'

/-- A look-up whose value is shown in another way. -/
lemma map (g : α → β) (hact : Looks act value) :
    Looks (act >>= fun a => Pure.pure (g a)) fun s => g (value s) :=
  hact.bind fun a => Looks.pure (g a)

/-- Reading a part of the site that accesses leave alone. -/
lemma read {g : Site → α} (hg : ∀ {s s' : Site}, s'.still = s.still → g s' = g s) :
    Looks (do let s ← get; Pure.pure (g s) : Action ε α) g where
  frames := Frames.run_bind (fun _ => rfl) fun _ => Frames.pure _
  stable := hg
  returns h := by
    obtain ⟨_, _, h₁, h₂⟩ := returns_bind.mp h
    obtain ⟨rfl, rfl⟩ := returns_get.mp h₁
    exact (returns_pure.mp h₂).1.symm
  quiet {s} hs := ⟨s, returns_bind.mpr ⟨s, s, by simp, by simp⟩, hs⟩

/-- What follows the reading of a part of the site is a look-up if it is one for any value. -/
lemma bind_get {g : Site → α} {f : α → Action ε β} {value' : α → Site → β}
    (hg : ∀ {s s' : Site}, s'.still = s.still → g s' = g s)
    (hf : ∀ a, Looks (f a) (value' a)) :
    Looks (do f (g (← get))) fun s => value' (g s) s := by
  have hbind := (read hg).bind hf
  simpa only [bind_assoc, pure_bind] using hbind

end Action.Looks

/-- The site after an access. -/
def Site.accessed (s : Site) (table : Table) (kind : Access) : Site :=
  { s with accesses := table :: s.accesses, faults := (strike table kind s.faults).2 }

/-- An access leaves the overrides alone. -/
@[simp] lemma Site.accessed_overrides (s : Site) (table : Table) (kind : Access) :
    (s.accessed table kind).overrides = s.overrides := rfl

/-- The run of an access. -/
lemma runOn_access (table : Table) (kind : Access) (s : Site) :
    runOn (access table kind).run s =
      (match (strike table kind s.faults).1 with
        | some e => .error e
        | none => .ok (),
      s.accessed table kind) := by
  unfold access Site.accessed
  simp only [Action.runOn_run_bind, Action.runOn_run_get, Action.runOn_run_set]
  rcases (strike table kind s.faults).1 with _ | e <;> rfl

/-- An access looks nothing up. -/
lemma access_looks (table : Table) (kind : Access) :
    (access table kind).Looks fun _ => () where
  frames s := by
    rw [runOn_access]
    rfl
  stable _ := rfl
  returns _ := rfl
  quiet {s} hs := by
    refine ⟨s.accessed table kind, ?_, ?_⟩
    · unfold Action.Returns
      rw [runOn_access, hs]
      rfl
    · unfold Site.accessed
      rw [hs]
      rfl

/-- **Reading a table**: an access, and then a view of the site. -/
lemma access_read_looks (table : Table) (kind : Access) {g : Site → α}
    (hg : ∀ s, g s.still = g s) :
    (do access table kind; Pure.pure (g (← get)) : Action StorageError α).Looks g :=
  (access_looks table kind).bind fun _ =>
    Action.Looks.read fun h => Site.congr_of_mask g h hg

end QuizOverrides
