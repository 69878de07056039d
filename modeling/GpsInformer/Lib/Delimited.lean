import Mathlib.Data.List.Infix

/-!
# Delimited pieces

A list is split at every occurrence of a delimiter (`split`).  A delimiter whose first element
is not in the rest of it cannot overlap with another one (`Marked`), so what has been joined is
split into the pieces of its pieces, and it is split into the pieces themselves iff none of them
contains the delimiter (`split_intercalate_iff`).
-/

namespace GpsInformer.Lib

namespace Delimited

variable {α : Type} {delimiter s t : List α}

/-- An element before the first piece. -/
def consHead (x : α) : List (List α) → List (List α)
  | [] => [[x]]
  | piece :: pieces => (x :: piece) :: pieces

/-- The pieces of a list; the number is how much is left of a delimiter. -/
def splitFrom [DecidableEq α] (delimiter : List α) : Nat → List α → List (List α)
  | _, [] => [[]]
  | k + 1, _ :: s => splitFrom delimiter k s
  | 0, x :: s =>
      if delimiter <+: x :: s then [] :: splitFrom delimiter (delimiter.length - 1) s
      else consHead x (splitFrom delimiter 0 s)

/-- The pieces between the delimiters. -/
def split [DecidableEq α] (delimiter s : List α) : List (List α) := splitFrom delimiter 0 s

/-- The first element stands for the whole delimiter. -/
def Marked (delimiter : List α) : Prop := ∃ x rest, delimiter = x :: rest ∧ x ∉ rest

theorem Marked.ne_nil (marked : Marked delimiter) : delimiter ≠ [] := by
  obtain ⟨x, rest, rfl, _⟩ := marked
  exact List.cons_ne_nil _ _

/-- A delimiter that begins inside a list and another one behind the list is within the list. -/
theorem Marked.within (marked : Marked delimiter) {rest : List α}
    (begins : delimiter <+: s ++ (delimiter ++ rest)) (inside : s ≠ []) : delimiter <+: s := by
  obtain ⟨x, tail, rfl, fresh⟩ := marked
  by_cases fits : (x :: tail).length ≤ s.length
  · exact List.prefix_of_prefix_length_le begins (List.prefix_append _ _) fits
  · -- the second delimiter's first element would be in the rest of the first one
    exfalso
    have taken : x :: tail = (s ++ ((x :: tail) ++ rest)).take (x :: tail).length :=
      List.prefix_iff_eq_take.mp begins
    rw [List.take_append, List.take_of_length_le (by omega)] at taken
    obtain ⟨k, left⟩ : ∃ k, (x :: tail).length - s.length = k + 1 :=
      ⟨(x :: tail).length - s.length - 1, by omega⟩
    rw [left, List.cons_append, List.take_succ_cons] at taken
    cases s with
    | nil => exact inside rfl
    | cons y s =>
        have same := (List.cons.inj taken).2
        apply fresh
        rw [same]
        exact List.mem_append_right s List.mem_cons_self

theorem consHead_append {x : α} {pieces : List (List α)} (nonempty : pieces ≠ [])
    (others : List (List α)) : consHead x (pieces ++ others) = consHead x pieces ++ others := by
  cases pieces with
  | nil => exact absurd rfl nonempty
  | cons piece pieces => rfl

variable [DecidableEq α]

theorem splitFrom_append (s : List α) :
    ∀ t : List α, splitFrom delimiter t.length (t ++ s) = split delimiter s
  | [] => rfl
  | _ :: t => splitFrom_append s t

theorem split_nil : split delimiter [] = [[]] := rfl

theorem split_cons_of_not_isPrefix {x : α} (absent : ¬ delimiter <+: x :: s) :
    split delimiter (x :: s) = consHead x (split delimiter s) := by
  rw [split, splitFrom, if_neg absent]
  rfl

theorem split_delimiter (marked : Marked delimiter) (s : List α) :
    split delimiter (delimiter ++ s) = [] :: split delimiter s := by
  obtain ⟨x, rest, rfl, _⟩ := marked
  have begins : x :: rest <+: x :: (rest ++ s) := ⟨s, rfl⟩
  rw [List.cons_append, split, splitFrom, if_pos begins, List.length_cons, Nat.add_sub_cancel,
    splitFrom_append]

theorem split_ne_nil (marked : Marked delimiter) (s : List α) : split delimiter s ≠ [] := by
  cases s with
  | nil => exact List.cons_ne_nil _ _
  | cons x s =>
      by_cases begins : delimiter <+: x :: s
      · obtain ⟨t, eq⟩ := begins
        rw [← eq, split_delimiter marked]
        exact List.cons_ne_nil _ _
      · rw [split_cons_of_not_isPrefix begins]
        cases split delimiter s with
        | nil => exact List.cons_ne_nil _ _
        | cons piece pieces => exact List.cons_ne_nil _ _

/-- Both sides of a delimiter are split for themselves. -/
theorem split_append (marked : Marked delimiter) (s t : List α) :
    split delimiter (s ++ (delimiter ++ t)) = split delimiter s ++ split delimiter t := by
  induction length : s.length using Nat.strongRecOn generalizing s with
  | ind n ih =>
      cases s with
      | nil =>
          rw [List.nil_append, split_delimiter marked, split_nil]
          rfl
      | cons x s =>
          by_cases begins : delimiter <+: x :: s
          · obtain ⟨rest, eq⟩ := begins
            have shorter : rest.length < n := by
              have := List.length_pos_of_ne_nil marked.ne_nil
              have lengths := congrArg List.length eq
              rw [List.length_append] at lengths
              omega
            rw [← eq, List.append_assoc, split_delimiter marked, split_delimiter marked,
              ih rest.length shorter rest rfl, List.cons_append]
          · have absent : ¬ delimiter <+: x :: (s ++ (delimiter ++ t)) := fun both =>
              begins (marked.within both (List.cons_ne_nil x s))
            have shorter : s.length < n := by
              rw [← length, List.length_cons]
              omega
            rw [List.cons_append, split_cons_of_not_isPrefix absent,
              split_cons_of_not_isPrefix begins, ih s.length shorter s rfl,
              consHead_append (split_ne_nil marked s)]

theorem split_of_not_infix (absent : ¬ delimiter <:+: s) : split delimiter s = [s] := by
  induction s with
  | nil => rfl
  | cons x s ih =>
      rw [List.infix_cons_iff] at absent
      rw [split_cons_of_not_isPrefix fun begins => absent (Or.inl begins),
        ih fun inside => absent (Or.inr inside)]
      rfl

/-- What has been joined is split into the pieces of its pieces. -/
theorem split_intercalate (marked : Marked delimiter) {pieces : List (List α)}
    (nonempty : pieces ≠ []) :
    split delimiter (delimiter.intercalate pieces) = pieces.flatMap (split delimiter) := by
  induction pieces with
  | nil => exact absurd rfl nonempty
  | cons piece pieces ih =>
      cases pieces with
      | nil => rw [List.intercalate_singleton, List.flatMap_singleton]
      | cons next pieces =>
          rw [List.intercalate_cons_cons, List.append_assoc, split_append marked,
            ih (List.cons_ne_nil _ _)]
          rfl

omit [DecidableEq α] in
theorem intercalate_cons (piece : List α) (pieces : List (List α)) :
    delimiter.intercalate (piece :: pieces) = piece ++ pieces.flatMap (delimiter ++ ·) := by
  induction pieces generalizing piece with
  | nil => rw [List.intercalate_singleton, List.flatMap_nil, List.append_nil]
  | cons next pieces ih =>
      rw [List.intercalate_cons_cons, ih, List.flatMap_cons]
      simp only [List.append_assoc]

theorem length_split_pos (marked : Marked delimiter) (s : List α) :
    1 ≤ (split delimiter s).length := List.length_pos_of_ne_nil (split_ne_nil marked s)

theorem length_le_flatMap (marked : Marked delimiter) (pieces : List (List α)) :
    pieces.length ≤ (pieces.flatMap (split delimiter)).length := by
  induction pieces with
  | nil => exact Nat.le_refl 0
  | cons piece pieces ih =>
      have one := length_split_pos marked piece
      rw [List.flatMap_cons, List.length_append, List.length_cons]
      omega

/-- A piece that contains the delimiter makes more pieces. -/
theorem length_lt_flatMap (marked : Marked delimiter) {pieces : List (List α)} {piece : List α}
    (member : piece ∈ pieces) (inside : delimiter <:+: piece) :
    pieces.length < (pieces.flatMap (split delimiter)).length := by
  induction pieces with
  | nil => cases member
  | cons first pieces ih =>
      have one := length_split_pos marked first
      have rest := length_le_flatMap marked pieces
      rw [List.flatMap_cons, List.length_append, List.length_cons]
      rcases List.mem_cons.mp member with rfl | member
      · obtain ⟨before, after, rfl⟩ := inside
        rw [List.append_assoc, split_append marked, List.length_append]
        have front := length_split_pos marked before
        have back := length_split_pos marked after
        omega
      · have := ih member
        omega

/-- The pieces come back iff none of them contains the delimiter. -/
theorem split_intercalate_iff (marked : Marked delimiter) {pieces : List (List α)}
    (nonempty : pieces ≠ []) :
    split delimiter (delimiter.intercalate pieces) = pieces ↔
      ∀ piece ∈ pieces, ¬ delimiter <:+: piece := by
  rw [split_intercalate marked nonempty]
  constructor
  · intro same piece member inside
    have more := length_lt_flatMap marked member inside
    rw [same] at more
    exact Nat.lt_irrefl _ more
  · intro absent
    have single : ∀ piece ∈ pieces, split delimiter piece = [piece] := fun piece member =>
      split_of_not_infix (absent piece member)
    rw [List.flatMap_congr single]
    exact List.flatMap_singleton' pieces

end Delimited

end GpsInformer.Lib
