import Mathlib.Data.List.Basic

/-!
# Whether an action returns

`Returns x` says that a computation in `Except` returns.  For actions on a state,
`Yields x post` says that `x` returns from every state, with a result that meets `post`,
and `Fails x` that it returns from none.  Their rules follow the structure of an action:
sequencing, and a fold with an invariant of its accumulator.
-/

namespace GpsInformer.Lib

variable {ε σ α β : Type}

/-- A computation returns. -/
def Returns (x : Except ε α) : Prop := ∃ a, x = .ok a

@[simp] theorem exists_ok {x : Except ε α} : (∃ a, x = .ok a) ↔ Returns x := Iff.rfl

theorem returns_ok (a : α) : Returns (.ok a : Except ε α) := ⟨a, rfl⟩

theorem not_returns_error (e : ε) : ¬ Returns (.error e : Except ε α) := by
  intro returns
  obtain ⟨a, impossible⟩ := returns
  cases impossible

@[simp] theorem returns_pure (a : α) : Returns (pure a : Except ε α) ↔ True :=
  iff_of_true ⟨a, rfl⟩ trivial

@[simp] theorem returns_bind {x : Except ε α} {f : α → Except ε β} :
    Returns (x >>= f) ↔ ∃ a, x = .ok a ∧ Returns (f a) := by
  cases x with
  | error e =>
      refine iff_of_false (not_returns_error e) fun returns => ?_
      obtain ⟨a, impossible, _⟩ := returns
      cases impossible
  | ok a =>
      constructor
      · exact fun returns => ⟨a, rfl, returns⟩
      · intro returns
        obtain ⟨b, same, returns⟩ := returns
        cases same
        exact returns

@[simp] theorem returns_map {x : Except ε α} {f : α → β} : Returns (f <$> x) ↔ Returns x := by
  cases x with
  | error e => exact iff_of_false (not_returns_error e) (not_returns_error e)
  | ok a => exact iff_of_true (returns_ok _) (returns_ok a)

/-- What a sequence returns comes from what its first part returns. -/
theorem bind_eq_ok {x : Except ε α} {f : α → Except ε β} {b : β} :
    x >>= f = .ok b ↔ ∃ a, x = .ok a ∧ f a = .ok b := by
  cases x with
  | error e =>
      refine iff_of_false (fun impossible => by cases impossible) fun found => ?_
      obtain ⟨a, impossible, _⟩ := found
      cases impossible
  | ok a =>
      constructor
      · exact fun returned => ⟨a, rfl, returned⟩
      · intro found
        obtain ⟨a', same, returned⟩ := found
        cases same
        exact returned

/-- A sequence whose second part returns on the same condition whatever the first gave. -/
theorem returns_bind_iff {x : Except ε α} {f : α → Except ε β} {good : Prop}
    (rest : ∀ a, Returns (f a) ↔ good) : Returns (x >>= f) ↔ Returns x ∧ good := by
  rw [returns_bind]
  constructor
  · intro returned
    obtain ⟨a, first, second⟩ := returned
    exact ⟨⟨a, first⟩, (rest a).mp second⟩
  · intro both
    obtain ⟨⟨a, first⟩, second⟩ := both
    exact ⟨a, first, (rest a).mpr second⟩

/-- A fold returns if each of its steps does, from any accumulator. -/
theorem returns_foldlM_iff {f : β → α → Except ε β} {good : α → Prop}
    (step : ∀ b a, Returns (f b a) ↔ good a) (xs : List α) (b : β) :
    Returns (xs.foldlM f b) ↔ ∀ a ∈ xs, good a := by
  induction xs generalizing b with
  | nil => exact iff_of_true (returns_ok b) fun _ => nofun
  | cons a xs ih =>
      rw [List.foldlM_cons, returns_bind_iff ih, List.forall_mem_cons, step b a]

/-- An action returns from every state, with a result that meets `post`. -/
def Yields (x : StateT σ (Except ε) α) (post : α → Prop) : Prop :=
  ∀ s, ∃ a t, x.run s = .ok (a, t) ∧ post a

/-- An action returns from no state. -/
def Fails (x : StateT σ (Except ε) α) : Prop := ∀ s, ¬ Returns (x.run s)

variable {x : StateT σ (Except ε) α} {f : α → StateT σ (Except ε) β} {p : α → Prop} {q : β → Prop}

theorem Yields.returns (yields : Yields x p) (s : σ) : Returns (x.run s) := by
  obtain ⟨a, t, returned, _⟩ := yields s
  exact ⟨_, returned⟩

theorem yields_pure {a : α} (holds : p a) : Yields (pure a : StateT σ (Except ε) α) p :=
  fun s => ⟨a, s, rfl, holds⟩

theorem Yields.mono {p' : α → Prop} (yields : Yields x p) (weaker : ∀ a, p a → p' a) :
    Yields x p' := by
  intro s
  obtain ⟨a, t, returned, holds⟩ := yields s
  exact ⟨a, t, returned, weaker a holds⟩

theorem Yields.bind (first : Yields x p) (rest : ∀ a, p a → Yields (f a) q) :
    Yields (x >>= f) q := by
  intro s
  obtain ⟨a, t, returned, holds⟩ := first s
  obtain ⟨b, u, returned', holds'⟩ := rest a holds t
  refine ⟨b, u, ?_, holds'⟩
  rw [StateT.run_bind, returned]
  exact returned'

theorem yields_foldlM (inv : β → Prop) {g : β → α → StateT σ (Except ε) β} {b : β}
    (step : ∀ b a, inv b → Yields (g b a) inv) (start : inv b) (xs : List α) :
    Yields (xs.foldlM g b) inv := by
  induction xs generalizing b with
  | nil => exact yields_pure start
  | cons a xs ih =>
      rw [List.foldlM_cons]
      exact (step b a start).bind fun next kept => ih kept

theorem fails_throw (e : ε) : Fails (throw e : StateT σ (Except ε) α) :=
  fun _ => not_returns_error e

theorem Fails.bind (fails : Fails x) : Fails (x >>= f) := by
  intro s returns
  rw [StateT.run_bind, returns_bind] at returns
  obtain ⟨a, returned, _⟩ := returns
  exact fails s ⟨a, returned⟩

/-- A sequence fails if what follows fails on every result its first part can have. -/
theorem Yields.bind_fails (first : Yields x p) (rest : ∀ a, p a → Fails (f a)) :
    Fails (x >>= f) := by
  intro s returns
  obtain ⟨a, t, returned, holds⟩ := first s
  rw [StateT.run_bind, returned] at returns
  exact rest a holds t returns

end GpsInformer.Lib
