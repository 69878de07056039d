import Mathlib.Data.List.Basic

/-!
# A timer with waits

A timer has one expiry time.  A wait that is started lasts until then, and its handler is
queued when the time has come; setting the expiry time anew ends the pending waits at once,
and their handlers are queued with an error.  What has been queued stays queued until it is
called, in any order.

`Timely` holds of every timer: a handler that is queued without an error is not called
before its deadline.
-/

namespace GpsInformer.Lib

/-- A wait: what it was started for, and when it expires. -/
structure Wait (κ : Type) where
  cause : κ
  deadline : Int
  deriving DecidableEq, Repr

structure DeadlineTimer (κ : Type) where
  now : Int := 0
  expiry : Int := 0
  pending : List (Wait κ) := []
  /-- the waits whose handlers are to be called, and whether they have been cancelled -/
  queued : List (Wait κ × Bool) := []
  deriving DecidableEq, Repr

namespace DeadlineTimer

variable {κ : Type}

/-- Sets the expiry time, which cancels the pending waits. -/
def expiresFromNow (duration : Int) (t : DeadlineTimer κ) : DeadlineTimer κ :=
  { t with
    expiry := t.now + duration
    pending := []
    queued := t.queued ++ t.pending.map fun wait => (wait, true) }

def asyncWait (cause : κ) (t : DeadlineTimer κ) : DeadlineTimer κ :=
  { t with pending := t.pending ++ [⟨cause, t.expiry⟩] }

/-- Time passes. -/
def elapse (duration : Nat) (t : DeadlineTimer κ) : DeadlineTimer κ :=
  { t with now := t.now + duration }

/-- The pending waits expire. -/
def expire (t : DeadlineTimer κ) : Option (DeadlineTimer κ) :=
  if t.expiry ≤ t.now then
    some { t with pending := [], queued := t.queued ++ t.pending.map fun wait => (wait, false) }
  else none

/-- A queued handler is about to be called. -/
def dequeue (index : Nat) (t : DeadlineTimer κ) :
    Option ((Wait κ × Bool) × DeadlineTimer κ) :=
  (t.queued[index]?).map fun call => (call, { t with queued := t.queued.eraseIdx index })

/-- Handlers without an error are queued at their deadline or later. -/
structure Timely (t : DeadlineTimer κ) : Prop where
  pending : ∀ wait ∈ t.pending, wait.deadline = t.expiry
  expired : ∀ wait, (wait, false) ∈ t.queued → wait.deadline ≤ t.now

/-- Every wait whose handler has not been called meets `good`. -/
structure Each (good : Wait κ → Prop) (t : DeadlineTimer κ) : Prop where
  pending : ∀ wait ∈ t.pending, good wait
  queued : ∀ call ∈ t.queued, good call.1

variable {t u : DeadlineTimer κ} {good : Wait κ → Prop}

theorem Timely.expiresFromNow (timely : Timely t) (duration : Int) :
    Timely (t.expiresFromNow duration) where
  pending := nofun
  expired wait member := by
    rcases List.mem_append.mp member with old | new
    · exact timely.expired wait old
    · obtain ⟨_, _, same⟩ := List.mem_map.mp new
      cases same

theorem Timely.asyncWait (timely : Timely t) (cause : κ) : Timely (t.asyncWait cause) where
  pending wait member := by
    rcases List.mem_append.mp member with old | new
    · exact timely.pending wait old
    · rw [List.mem_singleton.mp new]
      rfl
  expired := timely.expired

theorem Timely.elapse (timely : Timely t) (duration : Nat) : Timely (t.elapse duration) where
  pending := timely.pending
  expired wait member := by
    have past := timely.expired wait member
    change wait.deadline ≤ t.now + duration
    omega

theorem Timely.expire (timely : Timely t) (expired : t.expire = some u) : Timely u := by
  unfold DeadlineTimer.expire at expired
  split at expired
  · rename_i due
    cases expired
    refine ⟨nofun, fun wait member => ?_⟩
    rcases List.mem_append.mp member with old | new
    · exact timely.expired wait old
    · obtain ⟨_, among, same⟩ := List.mem_map.mp new
      cases same
      rw [timely.pending wait among]
      exact due
  · cases expired

theorem dequeue_eq_some {index : Nat} {call : Wait κ × Bool}
    (dequeued : t.dequeue index = some (call, u)) :
    t.queued[index]? = some call ∧ u = { t with queued := t.queued.eraseIdx index } := by
  obtain ⟨call', found, same⟩ := Option.map_eq_some_iff.mp dequeued
  cases same
  exact ⟨found, rfl⟩

theorem Timely.dequeue (timely : Timely t) {index : Nat} {call : Wait κ × Bool}
    (dequeued : t.dequeue index = some (call, u)) : Timely u := by
  obtain ⟨_, rfl⟩ := dequeue_eq_some dequeued
  exact ⟨timely.pending, fun wait member => timely.expired wait (List.mem_of_mem_eraseIdx member)⟩

theorem Each.expiresFromNow (each : Each good t) (duration : Int) :
    Each good (t.expiresFromNow duration) where
  pending := nofun
  queued call member := by
    rcases List.mem_append.mp member with old | new
    · exact each.queued call old
    · obtain ⟨wait, among, rfl⟩ := List.mem_map.mp new
      exact each.pending wait among

theorem Each.asyncWait (each : Each good t) {cause : κ} (new : good ⟨cause, t.expiry⟩) :
    Each good (t.asyncWait cause) where
  pending wait member := by
    rcases List.mem_append.mp member with old | same
    · exact each.pending wait old
    · rw [List.mem_singleton.mp same]
      exact new
  queued := each.queued

theorem Each.expire (each : Each good t) (expired : t.expire = some u) : Each good u := by
  unfold DeadlineTimer.expire at expired
  split at expired
  · cases expired
    refine ⟨nofun, fun call member => ?_⟩
    rcases List.mem_append.mp member with old | new
    · exact each.queued call old
    · obtain ⟨wait, among, rfl⟩ := List.mem_map.mp new
      exact each.pending wait among
  · cases expired

theorem Each.dequeue (each : Each good t) {index : Nat} {call : Wait κ × Bool}
    (dequeued : t.dequeue index = some (call, u)) : good call.1 ∧ Each good u := by
  obtain ⟨found, rfl⟩ := dequeue_eq_some dequeued
  refine ⟨each.queued call (List.mem_of_getElem? found), each.pending, fun call member => ?_⟩
  exact each.queued call (List.mem_of_mem_eraseIdx member)

theorem Each.mono {better : Wait κ → Prop} (each : Each good t)
    (weaker : ∀ wait, good wait → better wait) : Each better t :=
  ⟨fun wait member => weaker wait (each.pending wait member),
    fun call member => weaker call.1 (each.queued call member)⟩

end DeadlineTimer

end GpsInformer.Lib
