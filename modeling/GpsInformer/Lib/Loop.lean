import Mathlib.Order.Basic

/-!
# Loops with a measure

A `while (true)` loop is its body together with a measure that every further
iteration decreases.  Such a loop always ends, by a `break` that leaves the state
to the code after it (`Exit.left`) or by a `return` (`Exit.returned`), so `exec` is
total; it is computed with as much fuel as the measure asks for, and the rules
`exec_again`, `exec_leave`, `exec_quit` and `exec_induct` never mention fuel.
-/

namespace GpsInformer.Lib

/-- How one iteration ends: another one follows, `break`, or `return`. -/
inductive Flow (σ ρ : Type*) where
  | again (s : σ)
  | leave (s : σ)
  | quit (r : ρ)

/-- How a loop ends. -/
inductive Exit (σ ρ : Type*) where
  | left (s : σ)
  | returned (r : ρ)
  deriving DecidableEq

structure Loop (σ ρ : Type*) where
  body : σ → Flow σ ρ
  measure : σ → Nat
  decreases : ∀ {s t}, body s = .again t → measure t < measure s

namespace Loop

variable {σ ρ : Type*} (loop : Loop σ ρ) {s t : σ} {r : ρ}

/-- At most `fuel` iterations. -/
def iterate : Nat → σ → Option (Exit σ ρ)
  | 0, _ => none
  | fuel + 1, s =>
      match loop.body s with
      | .again t => iterate fuel t
      | .leave t => some (.left t)
      | .quit r => some (.returned r)

theorem iterate_isSome {fuel : Nat} (enough : loop.measure s < fuel) :
    (loop.iterate fuel s).isSome := by
  induction fuel generalizing s with
  | zero => cases enough
  | succ fuel ih =>
      unfold iterate
      split
      · rename_i t eq
        exact ih (Nat.lt_of_lt_of_le (loop.decreases eq) (Nat.lt_succ_iff.mp enough))
      · rfl
      · rfl

/-- Fuel beyond the measure changes nothing. -/
theorem iterate_eq {fuel fuel' : Nat} (enough : loop.measure s < fuel)
    (enough' : loop.measure s < fuel') : loop.iterate fuel s = loop.iterate fuel' s := by
  induction fuel generalizing s fuel' with
  | zero => cases enough
  | succ fuel ih =>
      cases fuel' with
      | zero => cases enough'
      | succ fuel' =>
          unfold iterate
          split
          · rename_i t eq
            have less := loop.decreases eq
            exact ih (by omega) (by omega)
          · rfl
          · rfl

/-- How the loop ends from a state. -/
def exec (s : σ) : Exit σ ρ :=
  (loop.iterate (loop.measure s + 1) s).get (loop.iterate_isSome (Nat.lt_succ_self _))

theorem exec_eq {fuel : Nat} (enough : loop.measure s < fuel) :
    loop.iterate fuel s = some (loop.exec s) := by
  rw [loop.iterate_eq enough (Nat.lt_succ_self _)]
  exact (Option.some_get _).symm

theorem exec_again (next : loop.body s = .again t) : loop.exec s = loop.exec t := by
  have eq : loop.iterate (loop.measure s + 1) s = loop.iterate (loop.measure s) t := by
    rw [iterate, next]
  rw [loop.exec_eq (Nat.lt_succ_self _), loop.exec_eq (loop.decreases next)] at eq
  exact Option.some.inj eq

theorem exec_leave (last : loop.body s = .leave t) : loop.exec s = .left t := by
  have eq : loop.iterate (loop.measure s + 1) s = some (.left t) := by
    rw [iterate, last]
  rw [loop.exec_eq (Nat.lt_succ_self _)] at eq
  exact Option.some.inj eq

theorem exec_quit (last : loop.body s = .quit r) : loop.exec s = .returned r := by
  have eq : loop.iterate (loop.measure s + 1) s = some (.returned r) := by
    rw [iterate, last]
  rw [loop.exec_eq (Nat.lt_succ_self _)] at eq
  exact Option.some.inj eq

/-- The loop rule: what holds of both ways out and is carried back over one
iteration holds of the whole loop. -/
theorem exec_induct {P : σ → Exit σ ρ → Prop}
    (again : ∀ {s t exit}, loop.body s = .again t → P t exit → P s exit)
    (leave : ∀ {s t}, loop.body s = .leave t → P s (.left t))
    (quit : ∀ {s r}, loop.body s = .quit r → P s (.returned r)) (s : σ) :
    P s (loop.exec s) := by
  generalize size : loop.measure s = n
  induction n using Nat.strongRecOn generalizing s with
  | ind n ih =>
      match eq : loop.body s with
      | .again t =>
          rw [loop.exec_again eq]
          exact again eq (ih _ (size ▸ loop.decreases eq) t rfl)
      | .leave t =>
          rw [loop.exec_leave eq]
          exact leave eq
      | .quit r =>
          rw [loop.exec_quit eq]
          exact quit eq

end Loop

end GpsInformer.Lib
