import Mathlib.Data.List.Basic
import Mathlib.Data.List.Infix

/-!
# Tokens arriving in a stream

A sender writes the texts of the tokens `as` one after another; the receiver has
so far read the string `s`.  `arrived text as s` are the tokens whose text has been
read completely and `unread text as s` is what has been read of the next one.  Both
depend on what has been read only, not on how it was cut into chunks; a chunk `t`
adds the tokens `delivered text as s t` (`arrived_append`, `unread_append`).
-/

namespace GpsInformer.Lib

variable {α β : Type*} [DecidableEq β] (text : α → List β) {as front : List α} {s t : List β}

/-- The tokens whose text lies within `s`. -/
def arrived : List α → List β → List α
  | [], _ => []
  | a :: as, s => if text a <+: s then a :: arrived as (s.drop (text a).length) else []

/-- What follows the texts of the arrived tokens. -/
def unread (as : List α) (s : List β) : List β :=
  s.drop ((arrived text as s).flatMap text).length

/-- The tokens the chunk `t` completes. -/
def delivered (as : List α) (s t : List β) : List α :=
  (arrived text as (s ++ t)).drop (arrived text as s).length

theorem prefix_arrived_iff (isPrefix : front <+: as) :
    front <+: arrived text as s ↔ front.flatMap text <+: s := by
  induction as generalizing front s with
  | nil =>
      cases List.prefix_nil.mp isPrefix
      simp
  | cons a as ih =>
      cases front with
      | nil => simp
      | cons b front =>
          obtain ⟨rfl, frontPrefix⟩ := List.cons_prefix_cons.mp isPrefix
          rw [arrived, List.flatMap_cons]
          split
          · rename_i complete
            obtain ⟨rest, rfl⟩ := complete
            rw [List.cons_prefix_cons, List.prefix_append_right_inj, List.drop_left, ih frontPrefix]
            exact and_iff_right rfl
          · rename_i incomplete
            refine iff_of_false (fun impossible => ?_) fun whole => ?_
            · cases List.prefix_nil.mp impossible
            · exact incomplete ((List.prefix_append _ _).trans whole)

theorem arrived_isPrefix : arrived text as s <+: as := by
  induction as generalizing s with
  | nil => exact List.prefix_refl _
  | cons a as ih =>
      rw [arrived]
      split
      · exact List.cons_prefix_cons.mpr ⟨rfl, ih⟩
      · exact List.nil_prefix

theorem flatMap_arrived_append_unread :
    (arrived text as s).flatMap text ++ unread text as s = s := by
  have read : (arrived text as s).flatMap text <+: s :=
    (prefix_arrived_iff text (arrived_isPrefix text)).mp (List.prefix_refl _)
  rw [unread, ← List.prefix_iff_eq_append]
  exact read

theorem arrived_mono (isPrefix : s <+: t) : arrived text as s <+: arrived text as t := by
  rw [prefix_arrived_iff text (arrived_isPrefix text)]
  refine List.IsPrefix.trans ?_ isPrefix
  exact (prefix_arrived_iff text (arrived_isPrefix text)).mp (List.prefix_refl _)

theorem arrived_append :
    arrived text as (s ++ t) = arrived text as s ++ delivered text as s t := by
  have grown : arrived text as s <+: arrived text as (s ++ t) :=
    arrived_mono text (List.prefix_append s t)
  exact List.prefix_iff_eq_append.mp grown |>.symm

/-- A chunk is read as the rest of the unfinished token, the further tokens it
completes, and the start of the next one. -/
theorem unread_append :
    unread text as s ++ t = (delivered text as s t).flatMap text ++ unread text as (s ++ t) := by
  have whole : (arrived text as (s ++ t)).flatMap text ++ unread text as (s ++ t) = s ++ t :=
    flatMap_arrived_append_unread text
  rw [arrived_append, List.flatMap_append, List.append_assoc] at whole
  have before : (arrived text as s).flatMap text ++ (unread text as s ++ t) = s ++ t := by
    rw [← List.append_assoc, flatMap_arrived_append_unread]
  exact List.append_cancel_left (before.trans whole.symm)

theorem arrived_flatMap : arrived text as (as.flatMap text) = as := by
  have all := (prefix_arrived_iff text (List.prefix_refl as)).mpr
    (List.prefix_refl (as.flatMap text))
  exact (arrived_isPrefix text).eq_of_length_le all.length_le

/-- As long as the sender's stream is read, the unfinished token is the next one. -/
theorem unread_cases (isPrefix : s <+: as.flatMap text) :
    (arrived text as s = as ∧ unread text as s = []) ∨
      ∃ a later, as = arrived text as s ++ a :: later ∧ unread text as s <+: text a ∧
        (unread text as s).length < (text a).length := by
  have arrivedPrefix : arrived text as s <+: as := arrived_isPrefix text
  obtain ⟨rest, eq⟩ := arrivedPrefix
  have read : unread text as s <+: rest.flatMap text := by
    have whole : (arrived text as s).flatMap text ++ unread text as s <+:
        (arrived text as s).flatMap text ++ rest.flatMap text := by
      rw [flatMap_arrived_append_unread, ← List.flatMap_append, eq]
      exact isPrefix
    exact (List.prefix_append_right_inj _).mp whole
  cases rest with
  | nil =>
      rw [List.append_nil] at eq
      exact Or.inl ⟨eq, List.prefix_nil.mp read⟩
  | cons a later =>
      refine Or.inr ⟨a, later, eq.symm, ?_⟩
      -- otherwise the next token would have arrived as well
      have incomplete : ¬ text a <+: unread text as s := by
        intro complete
        have next : arrived text as s ++ [a] <+: arrived text as s := by
          rw [prefix_arrived_iff text ⟨later, by simpa using eq⟩, List.flatMap_append,
            List.flatMap_singleton]
          have extended := (List.prefix_append_right_inj
            ((arrived text as s).flatMap text)).mpr complete
          rwa [flatMap_arrived_append_unread] at extended
        have := next.length_le
        rw [List.length_append, List.length_singleton] at this
        omega
      rw [List.flatMap_cons] at read
      have longer : (unread text as s).length < (text a).length := by
        by_contra long
        exact incomplete (List.prefix_of_prefix_length_le (List.prefix_append _ _) read
          (Nat.le_of_not_lt long))
      exact ⟨List.prefix_of_prefix_length_le read (List.prefix_append _ _) (Nat.le_of_lt longer),
        longer⟩

end GpsInformer.Lib
