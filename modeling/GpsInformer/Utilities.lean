import GpsInformer.Lib.Glob
import GpsInformer.StdString
import Mathlib.Data.List.GetD

/-!
# `Utilities` (Utilities.cpp)

`wildcardMatch`, and that it decides glob matching (`wildcardMatch_iff`).
-/

namespace GpsInformer

open Lib

namespace Utilities

/-- `s[i]`: behind the last character there is a NUL, and further reads are undefined. -/
def charAt (s : Str) (i : Nat) : Char := s.getD i (Char.ofNat 0)

/-- What a call of `wildcardMatch` comes to. -/
structure Matching where
  result : Bool
  /-- `sOffset` and `pOffset` at each test of the loop, in this call and those it makes -/
  offsets : List (Nat × Nat)
  deriving DecidableEq, Repr

/-- The iteration at `offsets` is over, and what follows is `m`. -/
def Matching.after (offsets : Nat × Nat) (m : Matching) : Matching :=
  { m with offsets := offsets :: m.offsets }

/-- `Utilities::wildcardMatch`; the next iteration of its loop is a call. -/
def wildcardMatch (string pattern : Str) (sOffset pOffset : Nat) : Matching :=
  if pOffset < pattern.length then
    if charAt pattern pOffset = '?' then
      if sOffset ≥ string.length then ⟨false, [(sOffset, pOffset)]⟩
      else (wildcardMatch string pattern (sOffset + 1) (pOffset + 1)).after (sOffset, pOffset)
    else if charAt pattern pOffset = '*' then
      let first := wildcardMatch string pattern sOffset (pOffset + 1)
      if first.result then first.after (sOffset, pOffset)
      else if sOffset < string.length then
        let second := wildcardMatch string pattern (sOffset + 1) pOffset
        Matching.after (sOffset, pOffset) ⟨second.result, first.offsets ++ second.offsets⟩
      else Matching.after (sOffset, pOffset) ⟨false, first.offsets⟩
    else if (charAt string sOffset).toUpper ≠ (charAt pattern pOffset).toUpper then
      ⟨false, [(sOffset, pOffset)]⟩
    else (wildcardMatch string pattern (sOffset + 1) (pOffset + 1)).after (sOffset, pOffset)
  else ⟨sOffset ≥ string.length ∧ pOffset ≥ pattern.length, [(sOffset, pOffset)]⟩
termination_by (pattern.length - pOffset, string.length - sOffset)

/-- Equal up to ASCII case: the same, or one the capital of the other. -/
def SameLetter (a b : Char) : Prop := a = b ∨ a.toUpper = b ∨ a = b.toUpper

/-- What a character of a pattern stands for. -/
def place (c : Char) : Place Char :=
  if c = '?' then .one else if c = '*' then .any else .exactly c

/-- The string can be cut into pieces matching the pattern's characters in order. -/
def GlobMatches (string pattern : Str) : Prop := Matches SameLetter (pattern.map place) string

variable {string pattern : Str} {sOffset pOffset : Nat} {a b c : Char}

theorem toNat_toUpper (c : Char) :
    c.toUpper.toNat = if 97 ≤ c.toNat ∧ c.toNat ≤ 122 then c.toNat - 32 else c.toNat := by
  have lower : 'a'.val ≤ c.val ∧ c.val ≤ 'z'.val ↔ 97 ≤ c.toNat ∧ c.toNat ≤ 122 := Iff.rfl
  have offset : ('A'.val - 'a'.val).toNat = 2 ^ 32 - 32 := by decide
  by_cases range : 97 ≤ c.toNat ∧ c.toNat ≤ 122
  · have shifted : c.toUpper.val = c.val + ('A'.val - 'a'.val) := by
      unfold Char.toUpper
      rw [dif_pos (lower.mpr range)]
    have sum : c.toUpper.toNat = (c.toNat + (2 ^ 32 - 32)) % 2 ^ 32 := by
      rw [← offset]
      exact (congrArg UInt32.toNat shifted).trans (UInt32.toNat_add ..)
    rw [if_pos range, sum]
    omega
  · unfold Char.toUpper
    rw [dif_neg fun within => range (lower.mp within), if_neg range]

theorem toNat_inj : a.toNat = b.toNat ↔ a = b :=
  ⟨fun same => Char.ext (UInt32.toNat_inj.mp same), congrArg Char.toNat⟩

/-- What the comparison in `wildcardMatch` compares. -/
theorem sameLetter_iff : SameLetter a b ↔ a.toUpper = b.toUpper := by
  unfold SameLetter
  rw [← toNat_inj, ← toNat_inj, ← toNat_inj, ← toNat_inj, toNat_toUpper a, toNat_toUpper b]
  split <;> split <;> omega

/-! ## Where the offsets are -/

theorem charAt_of_lt (within : pOffset < pattern.length) : charAt pattern pOffset ∈ pattern := by
  unfold charAt
  rw [List.getD_eq_getElem _ _ within]
  exact List.getElem_mem within

theorem drop_of_lt (within : sOffset < string.length) :
    string.drop sOffset = charAt string sOffset :: string.drop (sOffset + 1) := by
  unfold charAt
  rw [List.getD_eq_getElem _ _ within]
  exact List.drop_eq_getElem_cons within

theorem charAt_length : charAt string string.length = Char.ofNat 0 :=
  List.getD_eq_default _ _ (Nat.le_refl _)

/-- A literal that matches is not the NUL behind the string. -/
theorem lt_of_matched (clean : Char.ofNat 0 ∉ pattern) (inside : sOffset ≤ string.length)
    (within : pOffset < pattern.length)
    (same : (charAt string sOffset).toUpper = (charAt pattern pOffset).toUpper) :
    sOffset < string.length := by
  refine Nat.lt_of_le_of_ne inside fun atEnd => ?_
  subst atEnd
  have nul : (Char.ofNat 0).toUpper.toNat = 0 := by decide
  have upper := toNat_toUpper (charAt pattern pOffset)
  rw [← same, charAt_length, nul] at upper
  have code : (charAt pattern pOffset).toNat = (Char.ofNat 0).toNat := by
    have zero : (Char.ofNat 0).toNat = 0 := by decide
    rw [zero]
    split at upper <;> omega
  have present := charAt_of_lt within
  rw [toNat_inj.mp code] at present
  exact clean present

/-- The offsets are inside their strings. -/
def Inside (string pattern : Str) (offsets : Nat × Nat) : Prop :=
  offsets.1 ≤ string.length ∧ offsets.2 ≤ pattern.length

theorem offsets_inside (clean : Char.ofNat 0 ∉ pattern)
    (start : Inside string pattern (sOffset, pOffset)) :
    ∀ offsets ∈ (wildcardMatch string pattern sOffset pOffset).offsets,
      Inside string pattern offsets := by
  unfold Inside at start
  induction sOffset, pOffset using wildcardMatch.induct string pattern with
  | case1 sOffset pOffset within question ends =>
      rw [wildcardMatch, if_pos within, if_pos question, if_pos ends]
      exact List.forall_mem_singleton.mpr start
  | case2 sOffset pOffset within question inside ih =>
      rw [wildcardMatch, if_pos within, if_pos question, if_neg inside]
      exact List.forall_mem_cons.mpr ⟨start, ih ⟨by omega, by omega⟩⟩
  | case3 sOffset pOffset within question star first found ih =>
      rw [wildcardMatch, if_pos within, if_neg question, if_pos star, if_pos found]
      exact List.forall_mem_cons.mpr ⟨start, ih ⟨by omega, by omega⟩⟩
  | case4 sOffset pOffset within question star first missed inside ih ih' =>
      rw [wildcardMatch, if_pos within, if_neg question, if_pos star, if_neg missed, if_pos inside]
      refine List.forall_mem_cons.mpr ⟨start, List.forall_mem_append.mpr ⟨?_, ?_⟩⟩
      · exact ih ⟨by omega, by omega⟩
      · exact ih' ⟨by omega, by omega⟩
  | case5 sOffset pOffset within question star first missed ends ih =>
      rw [wildcardMatch, if_pos within, if_neg question, if_pos star, if_neg missed, if_neg ends]
      exact List.forall_mem_cons.mpr ⟨start, ih ⟨by omega, by omega⟩⟩
  | case6 sOffset pOffset within question star differs =>
      rw [wildcardMatch, if_pos within, if_neg question, if_neg star, if_pos differs]
      exact List.forall_mem_singleton.mpr start
  | case7 sOffset pOffset within question star same ih =>
      rw [wildcardMatch, if_pos within, if_neg question, if_neg star, if_neg same]
      have inside := lt_of_matched clean start.1 within (not_not.mp same)
      exact List.forall_mem_cons.mpr ⟨start, ih ⟨by omega, by omega⟩⟩
  | case8 sOffset pOffset ends =>
      rw [wildcardMatch, if_neg ends]
      exact List.forall_mem_singleton.mpr start

/-! ## What it decides -/

/-- The places of what is left of the pattern. -/
theorem places_drop (within : pOffset < pattern.length) :
    (pattern.drop pOffset).map place =
      place (charAt pattern pOffset) :: (pattern.drop (pOffset + 1)).map place := by
  rw [drop_of_lt within, List.map_cons]

theorem place_literal (question : ¬ c = '?') (star : ¬ c = '*') : place c = .exactly c := by
  unfold place
  rw [if_neg question, if_neg star]

/-- From offsets inside the strings, what is left of the string is matched against what is
left of the pattern. -/
theorem wildcardMatch_result (clean : Char.ofNat 0 ∉ pattern)
    (start : Inside string pattern (sOffset, pOffset)) :
    (wildcardMatch string pattern sOffset pOffset).result = true ↔
      Matches SameLetter ((pattern.drop pOffset).map place) (string.drop sOffset) := by
  unfold Inside at start
  dsimp only at start
  induction sOffset, pOffset using wildcardMatch.induct string pattern with
  | case1 sOffset pOffset within question ends =>
      rw [wildcardMatch, if_pos within, if_pos question, if_pos ends, places_drop within, question,
        List.drop_eq_nil_of_le ends]
      exact iff_of_false Bool.false_ne_true matches_one_nil
  | case2 sOffset pOffset within question inside ih =>
      rw [wildcardMatch, if_pos within, if_pos question, if_neg inside, places_drop within,
        question, drop_of_lt (Nat.lt_of_not_le inside)]
      exact (ih ⟨by omega, by omega⟩).trans matches_one_cons.symm
  | case3 sOffset pOffset within question star first found ih =>
      rw [wildcardMatch, if_pos within, if_neg question, if_pos star, if_pos found,
        places_drop within, star]
      have skipped := (ih ⟨by omega, by omega⟩).mp found
      refine iff_of_true found ?_
      cases left : string.drop sOffset with
      | nil => exact matches_any_nil.mpr (left ▸ skipped)
      | cons c rest => exact matches_any_cons.mpr (Or.inl (left ▸ skipped))
  | case4 sOffset pOffset within question star first missed inside ih ih' =>
      rw [wildcardMatch, if_pos within, if_neg question, if_pos star, if_neg missed, if_pos inside]
      have skipped := (not_congr (ih ⟨by omega, by omega⟩)).mp missed
      refine (ih' ⟨by omega, by omega⟩).trans ?_
      rw [drop_of_lt inside] at skipped ⊢
      rw [places_drop within, star]
      exact (matches_any_cons.trans (or_iff_right skipped)).symm
  | case5 sOffset pOffset within question star first missed ends ih =>
      rw [wildcardMatch, if_pos within, if_neg question, if_pos star, if_neg missed, if_neg ends]
      have skipped := (not_congr (ih ⟨by omega, by omega⟩)).mp missed
      rw [List.drop_eq_nil_of_le (Nat.le_of_not_lt ends)] at skipped ⊢
      rw [places_drop within, star]
      exact iff_of_false Bool.false_ne_true fun matched => skipped (matches_any_nil.mp matched)
  | case6 sOffset pOffset within question star differs =>
      rw [wildcardMatch, if_pos within, if_neg question, if_neg star, if_pos differs,
        places_drop within, place_literal question star]
      refine iff_of_false Bool.false_ne_true fun matched => ?_
      rcases Nat.lt_or_ge sOffset string.length with inside | ends
      · rw [drop_of_lt inside] at matched
        exact differs (sameLetter_iff.mp (matches_exactly_cons.mp matched).1)
      · rw [List.drop_eq_nil_of_le ends] at matched
        exact matches_exactly_nil matched
  | case7 sOffset pOffset within question star same ih =>
      have inside := lt_of_matched clean start.1 within (not_not.mp same)
      rw [wildcardMatch, if_pos within, if_neg question, if_neg star, if_neg same,
        places_drop within, place_literal question star, drop_of_lt inside]
      have alike := sameLetter_iff.mpr (not_not.mp same)
      exact (ih ⟨by omega, by omega⟩).trans
        (matches_exactly_cons.trans (and_iff_right alike)).symm
  | case8 sOffset pOffset ends =>
      rw [wildcardMatch, if_neg ends, List.drop_eq_nil_of_le (Nat.le_of_not_lt ends),
        List.map_nil, matches_nil, List.drop_eq_nil_iff]
      simp only [decide_eq_true_eq]
      exact and_iff_left (Nat.le_of_not_lt ends)

/-- `wildcardMatch` is glob matching, and its offsets stay inside the strings. -/
theorem wildcardMatch_iff (clean : Char.ofNat 0 ∉ pattern) (string : Str) :
    ((wildcardMatch string pattern 0 0).result = true ↔ GlobMatches string pattern) ∧
      ∀ offsets ∈ (wildcardMatch string pattern 0 0).offsets, Inside string pattern offsets := by
  have start : Inside string pattern (0, 0) := ⟨Nat.zero_le _, Nat.zero_le _⟩
  exact ⟨wildcardMatch_result clean start, offsets_inside clean start⟩

theorem wildcardMatch_iff_token :
    ((wildcardMatch "telegram.token".toList "*.TO?en".toList 0 0).result = true ↔
        GlobMatches "telegram.token".toList "*.TO?en".toList) ∧
      ∀ offsets ∈ (wildcardMatch "telegram.token".toList "*.TO?en".toList 0 0).offsets,
        Inside "telegram.token".toList "*.TO?en".toList offsets :=
  wildcardMatch_iff (by decide) "telegram.token".toList

end Utilities

end GpsInformer
