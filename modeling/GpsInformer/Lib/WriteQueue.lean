import Mathlib.Data.List.Basic

/-!
# Queues of data to be written

Data is put into a queue and written one piece after another; a piece stays at the head of
the queue until it has been written.  The writer is idle when the queue is empty, and also
after a write has failed.
-/

namespace GpsInformer.Lib

variable {α : Type*} {sent begun queue : List α} {inFlight fewer : Nat} {a : α}

/-- `sent` has been put into the queue, the writing of `begun` has begun, and `inFlight`
writes are outstanding. -/
structure Queued (sent begun queue : List α) (inFlight : Nat) : Prop where
  ordered : sent = begun ++ queue.tail
  single : inFlight ≤ 1
  idle : queue = [] → inFlight = 0

namespace Queued

theorem nil : Queued ([] : List α) [] [] 0 :=
  ⟨rfl, Nat.zero_le 1, fun _ => rfl⟩

theorem isPrefix (queued : Queued sent begun queue inFlight) : begun <+: sent :=
  ⟨queue.tail, queued.ordered.symm⟩

/-- The first piece is written at once. -/
theorem push_first (queued : Queued sent begun [] inFlight) (a : α) :
    Queued (sent ++ [a]) (begun ++ [a]) [a] (inFlight + 1) := by
  refine ⟨?_, ?_, fun empty => by cases empty⟩
  · rw [queued.ordered, List.tail_nil, List.append_nil]
    exact (List.append_nil _).symm
  · have idle := queued.idle rfl
    omega

/-- A later one waits. -/
theorem push_later (queued : Queued sent begun queue inFlight) (busy : queue ≠ []) (a : α) :
    Queued (sent ++ [a]) begun (queue ++ [a]) inFlight := by
  obtain ⟨head, rest, rfl⟩ := List.exists_cons_of_ne_nil busy
  refine ⟨?_, queued.single, fun empty => by cases empty⟩
  rw [queued.ordered, List.append_assoc]
  rfl

/-- A write ends, and the next piece is written. -/
theorem next {rest : List α} (queued : Queued sent begun queue (inFlight + 1))
    (more : queue.tail = a :: rest) : Queued sent (begun ++ [a]) queue.tail (inFlight + 1) := by
  refine ⟨?_, queued.single, fun empty => ?_⟩
  · rw [queued.ordered, more, List.append_assoc]
    rfl
  · cases empty.symm.trans more

/-- The last write ends. -/
theorem done (queued : Queued sent begun queue (inFlight + 1)) (last : queue.tail = []) :
    Queued sent begun queue.tail inFlight := by
  have single := queued.single
  refine ⟨?_, by omega, fun _ => by omega⟩
  rw [queued.ordered, last]
  rfl

/-- Writes end, but what they have been writing stays in the queue. -/
theorem fail (queued : Queued sent begun queue inFlight) (le : fewer ≤ inFlight) :
    Queued sent begun queue fewer := by
  refine ⟨queued.ordered, Nat.le_trans le queued.single, fun empty => ?_⟩
  have idle := queued.idle empty
  omega

end Queued

end GpsInformer.Lib
