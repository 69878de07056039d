import Mathlib.Data.List.Basic

/-!
# Cutting a stream at a separator

`cut sep s` are the frames of `s`, each ended by a `sep` that is dropped, and the
unterminated rest.  A receiver that keeps only the rest of what it has read loses
nothing: the frames of `s ++ t` are those of `s` and those of the rest followed by
`t` (`cut_append`), however the stream is cut into pieces.
-/

namespace GpsInformer.Lib

variable {α : Type*} [DecidableEq α] {sep : α} {s t frame : List α} {frames : List (List α)}

/-- The frames of a stream and what follows the last of them. -/
def cut (sep : α) : List α → List (List α) × List α
  | [] => ([], [])
  | c :: s =>
      if c = sep then ([] :: (cut sep s).1, (cut sep s).2)
      else
        match cut sep s with
        | ([], rest) => ([], c :: rest)
        | (frame :: frames, rest) => ((c :: frame) :: frames, rest)

/-- The frames and the unterminated rest. -/
def segments (sep : α) (s : List α) : List (List α) := (cut sep s).1 ++ [(cut sep s).2]

@[simp] theorem cut_nil : cut sep [] = ([], []) := rfl

theorem cut_cons_self : cut sep (sep :: s) = ([] :: (cut sep s).1, (cut sep s).2) :=
  if_pos rfl

theorem cut_of_not_mem (absent : sep ∉ s) : cut sep s = ([], s) := by
  induction s with
  | nil => rfl
  | cons c s ih =>
      have differs : c ≠ sep := fun eq => absent (eq ▸ List.mem_cons_self)
      rw [cut, if_neg differs, ih fun present => absent (List.mem_cons_of_mem _ present)]

theorem cut_append_cons (absent : sep ∉ frame) :
    cut sep (frame ++ sep :: s) = (frame :: (cut sep s).1, (cut sep s).2) := by
  induction frame with
  | nil => exact cut_cons_self
  | cons c frame ih =>
      have differs : c ≠ sep := fun eq => absent (eq ▸ List.mem_cons_self)
      rw [List.cons_append, cut, if_neg differs,
        ih fun present => absent (List.mem_cons_of_mem _ present)]

/-- Only the rest of what has been read matters for what follows. -/
theorem cut_append :
    cut sep (s ++ t) =
      ((cut sep s).1 ++ (cut sep ((cut sep s).2 ++ t)).1, (cut sep ((cut sep s).2 ++ t)).2) := by
  induction s with
  | nil => rfl
  | cons c s ih =>
      rw [List.cons_append, cut, cut]
      by_cases eq : c = sep
      · rw [if_pos eq, if_pos eq, ih]
        rfl
      · rw [if_neg eq, if_neg eq, ih]
        rcases cutEq : cut sep s with ⟨frames, rest⟩
        cases frames with
        | nil =>
            dsimp only
            rw [List.nil_append, List.cons_append, cut, if_neg eq]
            rcases cut sep (rest ++ t) with ⟨_ | ⟨frame, frames⟩, rest'⟩ <;> rfl
        | cons frame frames => rfl

theorem sep_not_mem_rest : sep ∉ (cut sep s).2 := by
  induction s with
  | nil => exact List.not_mem_nil
  | cons c s ih =>
      rw [cut]
      by_cases eq : c = sep
      · rw [if_pos eq]
        exact ih
      · rw [if_neg eq]
        rcases cutEq : cut sep s with ⟨_ | ⟨frame, frames⟩, rest⟩
        · rw [cutEq] at ih
          exact fun present => (List.mem_cons.mp present).elim (fun same => eq same.symm) ih
        · rw [cutEq] at ih
          exact ih

theorem flatten_cut : (cut sep s).1.flatMap (· ++ [sep]) ++ (cut sep s).2 = s := by
  induction s with
  | nil => rfl
  | cons c s ih =>
      rw [cut]
      by_cases eq : c = sep
      · rw [if_pos eq, List.flatMap_cons, eq]
        exact congrArg (sep :: ·) ih
      · rw [if_neg eq]
        rcases cutEq : cut sep s with ⟨_ | ⟨frame, frames⟩, rest⟩
        · rw [cutEq] at ih
          exact congrArg (c :: ·) ih
        · rw [cutEq] at ih
          exact congrArg (c :: ·) ih

/-- The frames of a stream are read back from their concatenation. -/
theorem cut_flatMap (absent : ∀ frame ∈ frames, sep ∉ frame) :
    cut sep (frames.flatMap (· ++ [sep])) = (frames, []) := by
  induction frames with
  | nil => rfl
  | cons frame frames ih =>
      rw [List.flatMap_cons, List.append_assoc, List.singleton_append,
        cut_append_cons (absent frame List.mem_cons_self),
        ih fun f member => absent f (List.mem_cons_of_mem _ member)]

theorem sep_not_mem_frames : ∀ frame ∈ (cut sep s).1, sep ∉ frame := by
  induction s with
  | nil => exact fun _ member => nomatch member
  | cons c s ih =>
      intro frame member
      rw [cut] at member
      by_cases eq : c = sep
      · rw [if_pos eq] at member
        rcases List.mem_cons.mp member with rfl | later
        · exact List.not_mem_nil
        · exact ih frame later
      · rw [if_neg eq] at member
        rcases cutEq : cut sep s with ⟨_ | ⟨first, frames⟩, rest⟩
        · rw [cutEq] at member
          cases member
        · rw [cutEq] at member ih
          rcases List.mem_cons.mp member with rfl | later
          · intro present
            rcases List.mem_cons.mp present with same | inner
            · exact eq same.symm
            · exact ih first List.mem_cons_self inner
          · exact ih frame (List.mem_cons_of_mem _ later)

theorem segments_append :
    segments sep (s ++ t) = (cut sep s).1 ++ segments sep ((cut sep s).2 ++ t) := by
  rw [segments, cut_append, List.append_assoc]
  rfl

/-- What is left of a stream that is read on is the start of one of its segments. -/
theorem length_rest_le {n : Nat} (bounded : ∀ g ∈ segments sep (s ++ t), g.length ≤ n) :
    (cut sep s).2.length ≤ n := by
  have absent : sep ∉ (cut sep s).2 := sep_not_mem_rest
  rw [segments_append] at bounded
  generalize (cut sep s).2 = rest at absent bounded ⊢
  -- the segment `rest` starts ends in `t` or with it
  obtain ⟨back, member⟩ : ∃ back, rest ++ back ∈ segments sep (rest ++ t) := by
    by_cases present : sep ∈ t
    · obtain ⟨front, after, rfl, absent'⟩ := List.eq_append_cons_of_mem present
      have noSep : sep ∉ rest ++ front := by
        rw [List.mem_append, not_or]
        exact ⟨absent, absent'⟩
      refine ⟨front, ?_⟩
      rw [segments, ← List.append_assoc, cut_append_cons noSep]
      exact List.mem_cons_self
    · have noSep : sep ∉ rest ++ t := by
        rw [List.mem_append, not_or]
        exact ⟨absent, present⟩
      refine ⟨t, ?_⟩
      rw [segments, cut_of_not_mem noSep]
      exact List.mem_singleton_self _
  have short := bounded _ (List.mem_append_right _ member)
  rw [List.length_append] at short
  exact Nat.le_trans (Nat.le_add_right _ _) short

/-- The beginning of encoded frames holds the first of them, and a rest no longer than the
next. -/
theorem cut_prefix (absent : ∀ frame ∈ frames, sep ∉ frame)
    (whole : s ++ t = frames.flatMap (· ++ [sep])) :
    (cut sep s).1 <+: frames ∧
      ∀ n, (∀ frame ∈ frames, frame.length ≤ n) → (cut sep s).2.length ≤ n := by
  have all : cut sep (s ++ t) = (frames, []) := by
    rw [whole]
    exact cut_flatMap absent
  constructor
  · rw [cut_append] at all
    exact ⟨_, congrArg Prod.fst all⟩
  · intro n bounded
    refine length_rest_le (t := t) ?_
    unfold segments
    rw [all]
    intro g member
    rcases List.mem_append.mp member with frame | last
    · exact bounded g frame
    · rw [List.mem_singleton.mp last]
      exact Nat.zero_le n

end GpsInformer.Lib
