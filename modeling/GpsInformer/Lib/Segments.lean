import Mathlib.Data.List.DropRight

/-!
# Segments of a trace

A trace is cut at the elements that start a segment.  `InSegments` says of every point of the
trace what the segment has come to there.
-/

namespace GpsInformer.Lib

variable {α β : Type*} {starts : α → Bool} {P Q : List α → Prop} {trace : List α} {a : α}

/-- What follows the last element that starts a segment. -/
def segment (starts : α → Bool) (trace : List α) : List α :=
  trace.rtakeWhile fun a => !starts a

@[simp] theorem segment_nil : segment starts [] = [] :=
  List.rtakeWhile_nil _

theorem segment_start (first : starts a = true) : segment starts (trace ++ [a]) = [] :=
  List.rtakeWhile_concat_neg _ _ _ (by simp [first])

theorem segment_concat (later : starts a = false) :
    segment starts (trace ++ [a]) = segment starts trace ++ [a] :=
  List.rtakeWhile_concat_pos _ _ _ (by simp [later])

/-- What the last element of a trace adds to a part of it. -/
theorem filterMap_concat (f : α → Option β) (trace : List α) (a : α) :
    (trace ++ [a]).filterMap f = trace.filterMap f ++ (f a).toList := by
  rw [List.filterMap_append]
  cases image : f a with
  | none => rw [List.filterMap_cons_none image]; rfl
  | some b => rw [List.filterMap_cons_some image]; rfl

/-- At every point of the trace `P` holds of the segment so far. -/
def InSegments (starts : α → Bool) (P : List α → Prop) (trace : List α) : Prop :=
  ∀ front, front <+: trace → P (segment starts front)

theorem InSegments.now (within : InSegments starts P trace) : P (segment starts trace) :=
  within trace List.prefix_rfl

theorem InSegments.nil (start : P []) : InSegments starts P [] := by
  intro front isPrefix
  rw [List.prefix_nil.mp isPrefix]
  exact start

theorem InSegments.concat (within : InSegments starts P trace)
    (last : P (segment starts (trace ++ [a]))) : InSegments starts P (trace ++ [a]) := by
  intro front isPrefix
  rcases List.prefix_concat_iff.mp isPrefix with rfl | earlier
  · exact last
  · exact within front earlier

/-- A segment begins with nothing. -/
theorem InSegments.start (within : InSegments starts P trace) (first : starts a = true)
    (empty : P []) : InSegments starts P (trace ++ [a]) := by
  refine within.concat ?_
  rw [segment_start first]
  exact empty

theorem InSegments.mono (within : InSegments starts P trace) (weaker : ∀ part, P part → Q part) :
    InSegments starts Q trace :=
  fun front isPrefix => weaker _ (within front isPrefix)

end GpsInformer.Lib
