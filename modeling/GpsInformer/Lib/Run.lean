import Mathlib.Data.List.Basic

/-!
# Runs of a partial transition function

`Run step s es t` relates a start state, the events taken and the state they
lead to; an event that is not enabled (`step s e = none`) ends no run.  A run is
judged by the states it passes through: `Visits step s es t` says that `t` is
reached by some of the first events.

* `Run.invariant` and `Run.guarded` are the two induction rules: an invariant
  every step keeps holds at the end of every run, and one only the steps meeting
  `guard` keep holds at the end of every run whose steps all meet it.
* `forall_visits_iff_guarded` turns a guard that is exact for one step (a step
  keeps the property iff it meets the guard) into an exact condition on runs.
-/

namespace GpsInformer.Lib

variable {σ ε : Type*} {step : σ → ε → Option σ} {s t u : σ} {e : ε} {es fs : List ε}

/-- The events `es` lead from `s` to `t`. -/
inductive Run (step : σ → ε → Option σ) : σ → List ε → σ → Prop
  | nil (s : σ) : Run step s [] s
  | cons {s t u : σ} {e : ε} {es : List ε} :
    step s e = some t → Run step t es u → Run step s (e :: es) u

/-- `t` is reached from `s` by some of the first events of `es`. -/
def Visits (step : σ → ε → Option σ) (s : σ) (es : List ε) (t : σ) : Prop :=
  ∃ front, front <+: es ∧ Run step s front t

/-- Every step the events `es` take from `s` meets `guard`. -/
def Guarded (step : σ → ε → Option σ) (guard : σ → ε → Prop) : σ → List ε → Prop
  | _, [] => True
  | s, e :: es => guard s e ∧ ∀ t, step s e = some t → Guarded step guard t es

theorem guarded_cons {guard : σ → ε → Prop} (first : step s e = some t) :
    Guarded step guard s (e :: es) ↔ guard s e ∧ Guarded step guard t es := by
  constructor
  · exact fun guarded => ⟨guarded.1, guarded.2 t first⟩
  · rintro ⟨met, rest⟩
    refine ⟨met, fun t' first' => ?_⟩
    cases first.symm.trans first'
    exact rest

theorem Guarded.of_prefix {guard : σ → ε → Prop} (guarded : Guarded step guard s es)
    (isPrefix : fs <+: es) : Guarded step guard s fs := by
  induction fs generalizing s es with
  | nil => trivial
  | cons e fs ih =>
      obtain ⟨es, rfl⟩ := isPrefix
      refine ⟨guarded.1, fun t first => ?_⟩
      exact ih (guarded.2 t first) (List.prefix_append fs es)

/-- A guard that can be decided at one step can be decided along a run. -/
instance Guarded.decidable {guard : σ → ε → Prop} [∀ s e, Decidable (guard s e)] :
    ∀ s es, Decidable (Guarded step guard s es)
  | _, [] => .isTrue trivial
  | s, e :: es =>
      match first : step s e with
      | none => decidable_of_iff (guard s e)
          ⟨fun met => ⟨met, fun _ other => by cases first.symm.trans other⟩, And.left⟩
      | some t =>
          have : Decidable (Guarded step guard t es) := Guarded.decidable t es
          decidable_of_iff (guard s e ∧ Guarded step guard t es) (guarded_cons first).symm

/-- Executing the events one by one is a run. -/
theorem Run.of_foldlM (folded : es.foldlM step s = some t) : Run step s es t := by
  induction es generalizing s with
  | nil =>
      cases folded
      exact .nil _
  | cons e es ih =>
      rw [List.foldlM_cons] at folded
      obtain ⟨next, first, rest⟩ := Option.bind_eq_some_iff.mp folded
      exact .cons first (ih rest)

theorem Run.append (run : Run step s es t) (later : Run step t fs u) : Run step s (es ++ fs) u := by
  induction run with
  | nil => exact later
  | cons first _ ih => exact .cons first (ih later)

/-- A run passes through the state its first events lead to. -/
theorem Run.of_append (run : Run step s (es ++ fs) u) : ∃ t, Run step s es t ∧ Run step t fs u := by
  induction es generalizing s with
  | nil => exact ⟨s, .nil s, run⟩
  | cons e es ih =>
      cases run with
      | cons first rest =>
          obtain ⟨t, front, back⟩ := ih rest
          exact ⟨t, .cons first front, back⟩

theorem Run.of_singleton (run : Run step s [e] t) : step s e = some t := by
  cases run with
  | cons first rest =>
      cases rest
      exact first

theorem Visits.refl : Visits step s es s :=
  ⟨[], List.nil_prefix, .nil s⟩

theorem Visits.of_run (run : Run step s es t) : Visits step s es t :=
  ⟨es, List.prefix_refl es, run⟩

theorem Visits.cons (first : step s e = some t) (later : Visits step t es u) :
    Visits step s (e :: es) u := by
  obtain ⟨front, isPrefix, run⟩ := later
  exact ⟨e :: front, List.cons_prefix_cons.mpr ⟨rfl, isPrefix⟩, .cons first run⟩

/-- A visited state is the start or is visited after the first event. -/
theorem Visits.cases_cons (visits : Visits step s (e :: es) u) :
    u = s ∨ ∃ t, step s e = some t ∧ Visits step t es u := by
  obtain ⟨front, isPrefix, run⟩ := visits
  cases run with
  | nil => exact Or.inl rfl
  | cons first rest =>
      obtain ⟨rfl, tailPrefix⟩ := List.cons_prefix_cons.mp isPrefix
      exact Or.inr ⟨_, first, _, tailPrefix, rest⟩

/-- What every step keeps holds at the end of every run. -/
theorem Run.invariant {Inv : σ → Prop}
    (keeps : ∀ {s e t}, Inv s → step s e = some t → Inv t)
    (run : Run step s es t) (start : Inv s) : Inv t := by
  induction run with
  | nil => exact start
  | cons first _ ih => exact ih (keeps start first)

/-- What the steps meeting `guard` keep holds at the end of every run whose
steps all meet it. -/
theorem Run.guarded {Inv : σ → Prop} {guard : σ → ε → Prop}
    (keeps : ∀ {s e t}, Inv s → guard s e → step s e = some t → Inv t)
    (run : Run step s es t) (guarded : Guarded step guard s es) (start : Inv s) :
    Inv t := by
  induction run with
  | nil => exact start
  | cons first _ ih => exact ih (guarded.2 _ first) (keeps start guarded.1 first)

/-- Two guards that agree under an invariant agree along the events. -/
theorem Guarded.congr {Inv : σ → Prop} {guard guard' : σ → ε → Prop}
    (keeps : ∀ {s e t}, Inv s → step s e = some t → Inv t)
    (same : ∀ s e, Inv s → (guard s e ↔ guard' s e)) (start : Inv s) :
    Guarded step guard s es ↔ Guarded step guard' s es := by
  induction es generalizing s with
  | nil => exact Iff.rfl
  | cons e es ih =>
      refine and_congr (same s e start) (forall_congr' fun t => ?_)
      exact imp_congr_right fun first => ih (keeps start first)

/-- A guard that is exact for one step is exact for whole runs: the property
holds in every visited state iff every step meets the guard.  `Inv` is what else
the steps meeting the guard keep. -/
theorem forall_visits_iff_guarded {Inv P : σ → Prop} {guard : σ → ε → Prop}
    (keeps : ∀ {s e t}, Inv s → P s → guard s e → step s e = some t → Inv t ∧ P t)
    (breaks : ∀ {s e t}, Inv s → P s → ¬ guard s e → step s e = some t → ¬ P t)
    (run : Run step s es u) (inv : Inv s) (start : P s) :
    (∀ t, Visits step s es t → P t) ↔ Guarded step guard s es := by
  induction run with
  | nil s =>
      refine ⟨fun _ => True.intro, fun _ t visits => ?_⟩
      obtain ⟨front, isPrefix, run⟩ := visits
      rw [List.prefix_nil.mp isPrefix] at run
      cases run
      exact start
  | @cons s t u e es first rest ih =>
      constructor
      · intro visited
        have met : guard s e := by
          by_contra missed
          exact breaks inv start missed first (visited t (.cons first .refl))
        have next := keeps inv start met first
        exact (guarded_cons first).mpr
          ⟨met, (ih next.1 next.2).mp fun w later => visited w (.cons first later)⟩
      · intro guarded w visits
        have next := keeps inv start guarded.1 first
        rcases visits.cases_cons with rfl | ⟨t', first', later⟩
        · exact start
        · cases first.symm.trans first'
          exact (ih next.1 next.2).mpr (guarded.2 t first) w later

end GpsInformer.Lib
