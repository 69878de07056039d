import Mathlib.Data.List.Forall2

/-!
# Glob patterns

A pattern is a list of places, and a text matches it if it can be cut into consecutive
pieces that its places accept one by one.  The lemmas say what the first place of a
pattern asks of a text.
-/

namespace GpsInformer.Lib

/-- A place of a pattern: any one element, any list of elements, or one element that is
like `b`. -/
inductive Place (β : Type*) where
  | one
  | any
  | exactly (b : β)
  deriving DecidableEq, Repr

variable {α β : Type*} {alike : α → β → Prop} {places : List (Place β)} {text : List α}
  {a : α} {b : β}

/-- The pieces of a text a place accepts. -/
def Place.Accepts (alike : α → β → Prop) : Place β → List α → Prop
  | .one, piece => ∃ a, piece = [a]
  | .any, _ => True
  | .exactly b, piece => ∃ a, piece = [a] ∧ alike a b

/-- The text is cut into pieces that the places accept in order. -/
def Matches (alike : α → β → Prop) (places : List (Place β)) (text : List α) : Prop :=
  ∃ pieces : List (List α), pieces.flatten = text ∧
    List.Forall₂ (Place.Accepts alike) places pieces

@[simp] theorem matches_nil : Matches alike [] text ↔ text = [] := by
  constructor
  · rintro ⟨pieces, rfl, accepted⟩
    cases accepted
    rfl
  · rintro rfl
    exact ⟨[], rfl, .nil⟩

/-- The first place takes a piece off the text. -/
theorem matches_cons {place : Place β} :
    Matches alike (place :: places) text ↔
      ∃ piece rest, text = piece ++ rest ∧ place.Accepts alike piece ∧
        Matches alike places rest := by
  constructor
  · rintro ⟨pieces, rfl, accepted⟩
    cases accepted with
    | @cons _ piece _ pieces first others =>
        exact ⟨piece, pieces.flatten, List.flatten_cons, first, pieces, rfl, others⟩
  · rintro ⟨piece, rest, rfl, first, pieces, rfl, others⟩
    exact ⟨piece :: pieces, List.flatten_cons, .cons first others⟩

@[simp] theorem matches_one_nil : ¬ Matches alike (.one :: places) [] := by
  intro matched
  obtain ⟨_, rest, cut, ⟨a, rfl⟩, _⟩ := matches_cons.mp matched
  cases cut

@[simp] theorem matches_one_cons :
    Matches alike (.one :: places) (a :: text) ↔ Matches alike places text := by
  rw [matches_cons]
  constructor
  · rintro ⟨_, rest, cut, ⟨_, rfl⟩, others⟩
    cases cut
    exact others
  · intro others
    exact ⟨[a], text, rfl, ⟨a, rfl⟩, others⟩

@[simp] theorem matches_exactly_nil : ¬ Matches alike (.exactly b :: places) [] := by
  intro matched
  obtain ⟨_, rest, cut, ⟨a, rfl, _⟩, _⟩ := matches_cons.mp matched
  cases cut

@[simp] theorem matches_exactly_cons :
    Matches alike (.exactly b :: places) (a :: text) ↔ alike a b ∧ Matches alike places text := by
  rw [matches_cons]
  constructor
  · rintro ⟨_, rest, cut, ⟨_, rfl, same⟩, others⟩
    cases cut
    exact ⟨same, others⟩
  · rintro ⟨same, others⟩
    exact ⟨[a], text, rfl, ⟨a, rfl, same⟩, others⟩

@[simp] theorem matches_any_nil :
    Matches alike (.any :: places) [] ↔ Matches alike places [] := by
  rw [matches_cons]
  constructor
  · rintro ⟨piece, rest, cut, _, others⟩
    obtain ⟨rfl, rfl⟩ := List.append_eq_nil_iff.mp cut.symm
    exact others
  · intro others
    exact ⟨[], [], rfl, trivial, others⟩

/-- The place for any list takes nothing, or the first element and then again any list. -/
@[simp] theorem matches_any_cons :
    Matches alike (.any :: places) (a :: text) ↔
      Matches alike places (a :: text) ∨ Matches alike (.any :: places) text := by
  rw [matches_cons, matches_cons]
  constructor
  · rintro ⟨piece, rest, cut, _, others⟩
    cases piece with
    | nil =>
        rw [List.nil_append] at cut
        rw [cut]
        exact Or.inl others
    | cons _ piece =>
        cases cut
        exact Or.inr ⟨piece, rest, rfl, trivial, others⟩
  · rintro (others | ⟨piece, rest, rfl, _, others⟩)
    · exact ⟨[], a :: text, rfl, trivial, others⟩
    · exact ⟨a :: piece, rest, rfl, trivial, others⟩

end GpsInformer.Lib
