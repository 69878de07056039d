import Mathlib.Data.List.Basic
import Mathlib.Data.List.DropRight
import Mathlib.Data.List.Infix

/-!
# `std::string`

A `std::string` is the list of its `char`s; the bytes are the characters below
256.  Positions are `Nat`, with
`npos` as `none`.
-/

namespace GpsInformer

/-- A `std::string`. -/
abbrev Str := List Char

namespace Str

variable {s t pattern : Str} {c : Char}

/-- `s.find(pattern)` -/
def find : (s pattern : Str) → Option Nat
  | [], pattern => if pattern = [] then some 0 else none
  | c :: s, pattern => if pattern.isPrefixOf (c :: s) then some 0 else (find s pattern).map (· + 1)

/-- `s.find_first_of(c)` -/
def findFirstOf (c : Char) (s : Str) : Option Nat := s.findIdx? (· = c)

/-- `s.substr(0, count)` -/
def front (count : Option Nat) (s : Str) : Str :=
  match count with
  | none => s
  | some n => s.take n

/-- `s.find(pattern, position)` -/
def findFrom (s pattern : Str) (position : Nat) : Option Nat :=
  (find (s.drop position) pattern).map (· + position)

/-- `s.find(c, position)` -/
def findCharFrom (s : Str) (c : Char) (position : Nat) : Option Nat :=
  (findFirstOf c (s.drop position)).map (· + position)

/-- `s.substr(start, stop - start)`; a negative difference is a count beyond the end. -/
def slice (s : Str) (start : Nat) (stop : Option Nat) : Str :=
  match stop with
  | none => s.drop start
  | some stop => if start ≤ stop then (s.drop start).take (stop - start) else s.drop start

/-- `position < limit`, `npos` being the greatest -/
def before (position limit : Option Nat) : Bool :=
  match position, limit with
  | none, _ => false
  | some _, none => true
  | some position, some limit => position < limit

/-- `isspace(c)` -/
def isSpace (c : Char) : Bool := c = ' ' ∨ '\t' ≤ c ∧ c ≤ '\r'

/-- `trim_copy(s)` -/
def trim (s : Str) : Str := (s.dropWhile isSpace).rdropWhile isSpace

/-- `to_lower_copy(s)` -/
def toLower (s : Str) : Str := s.map Char.toLower

/-- `erase_all(s, "\r"); erase_all(s, "\n");` -/
def strip (s : Str) : Str := (s.filter (· ≠ '\r')).filter (· ≠ '\n')

/-- A property of all characters of a text is checked one by one. -/
theorem forall_of_all {p : Char → Prop} [DecidablePred p] (all : s.all (p ·) = true) :
    ∀ c ∈ s, p c :=
  fun c member => of_decide_eq_true (List.all_eq_true.mp all c member)

/-- The first occurrence is at the start iff the string starts with the pattern. -/
theorem find_eq_zero_iff : find s pattern = some 0 ↔ pattern <+: s := by
  cases s with
  | nil =>
      rw [find, List.prefix_nil]
      split <;> simp_all
  | cons c s =>
      rw [find, ← List.isPrefixOf_iff_prefix]
      split
      · rename_i isPrefix
        exact iff_of_true rfl isPrefix
      · rename_i isPrefix
        refine iff_of_false (fun zero => ?_) isPrefix
        obtain ⟨n, -, impossible⟩ := Option.map_eq_some_iff.mp zero
        cases impossible

theorem prefix_of_find {n : Nat} (found : find s pattern = some n) : pattern <+: s.drop n := by
  induction s generalizing n with
  | nil =>
      rw [find] at found
      split at found
      · rename_i empty
        rw [empty]
        exact List.nil_prefix
      · cases found
  | cons c s ih =>
      rw [find] at found
      split at found
      · rename_i isPrefix
        cases found
        exact List.isPrefixOf_iff_prefix.mp isPrefix
      · obtain ⟨m, found', rfl⟩ := Option.map_eq_some_iff.mp found
        exact ih found'

theorem find_length_le {n : Nat} (found : find s pattern = some n) (nonempty : pattern ≠ []) :
    n + pattern.length ≤ s.length := by
  have length := (prefix_of_find found).length_le
  have := List.length_pos_of_ne_nil nonempty
  rw [List.length_drop] at length
  omega

/-- What starts with a new character is found where it stands. -/
theorem find_append_cons (absent : c ∉ s) (pattern t : Str) :
    find (s ++ c :: (pattern ++ t)) (c :: pattern) = some s.length := by
  induction s with
  | nil => exact find_eq_zero_iff.mpr ⟨t, rfl⟩
  | cons d s ih =>
      have differs : ¬ (c :: pattern).isPrefixOf (d :: (s ++ c :: (pattern ++ t))) := by
        rw [List.isPrefixOf_iff_prefix, List.cons_prefix_cons]
        exact fun both => absent (both.1 ▸ List.mem_cons_self)
      rw [List.cons_append, find, if_neg differs,
        ih fun present => absent (List.mem_cons_of_mem d present)]
      rfl

theorem slice_append (s t u : Str) :
    slice (s ++ t ++ u) s.length (some (s ++ t).length) = t := by
  rw [slice, List.length_append, if_pos (Nat.le_add_right _ _), List.append_assoc, List.drop_left,
    Nat.add_sub_cancel_left, List.take_left]

theorem trim_eq_self (noSpace : ∀ c ∈ s, isSpace c = false) : trim s = s := by
  have front : s.dropWhile isSpace = s := by
    cases s with
    | nil => rfl
    | cons c s => exact List.dropWhile_cons_of_neg (by simp [noSpace c List.mem_cons_self])
  rw [trim, front, List.rdropWhile_eq_self_iff]
  intro nonempty
  simp [noSpace _ (List.getLast_mem nonempty)]

theorem trim_space_cons (noSpace : ∀ c ∈ s, isSpace c = false) : trim (' ' :: s) = s := by
  rw [trim, List.dropWhile_cons_of_pos (by decide)]
  exact trim_eq_self noSpace

theorem findFirstOf_eq_none_iff : findFirstOf c s = none ↔ c ∉ s := by
  rw [findFirstOf, List.findIdx?_eq_none_iff]
  constructor
  · intro absent present
    simpa using absent c present
  · intro absent d present
    simp only [decide_eq_false_iff_not]
    rintro rfl
    exact absent present

theorem findFirstOf_append (absent : c ∉ s) : findFirstOf c (s ++ c :: t) = some s.length := by
  induction s with
  | nil => simp [findFirstOf, List.findIdx?_cons]
  | cons d s ih =>
      have differs : d ≠ c := fun eq => absent (eq ▸ List.mem_cons_self)
      have rest := ih fun present => absent (List.mem_cons_of_mem _ present)
      rw [findFirstOf] at rest ⊢
      rw [List.cons_append, List.findIdx?_cons]
      simp [differs, rest]

/-- From the start of a word, its end is found where the pattern first occurs. -/
theorem findFrom_word {word : Str} (absent : c ∉ word) (s pattern t : Str) :
    findFrom (s ++ word ++ (c :: pattern) ++ t) (c :: pattern) s.length =
      some (s ++ word).length := by
  rw [findFrom, List.append_assoc, List.append_assoc, List.drop_left, List.cons_append,
    find_append_cons absent, Option.map_some, Nat.add_comm, ← List.length_append]

theorem findCharFrom_word {word : Str} (absent : c ∉ word) (s t : Str) :
    findCharFrom (s ++ word ++ c :: t) c s.length = some (s ++ word).length := by
  rw [findCharFrom, List.append_assoc, List.drop_left, findFirstOf_append absent, Option.map_some,
    Nat.add_comm, ← List.length_append]

/-- A string is cut at the first occurrence in one way only. -/
theorem append_cons_inj {s' t' : Str} (absent : c ∉ s) (absent' : c ∉ s')
    (eq : s ++ c :: t = s' ++ c :: t') : s = s' ∧ t = t' := by
  have length : s.length = s'.length := by
    have found := findFirstOf_append (t := t) absent
    rw [eq, findFirstOf_append absent'] at found
    exact (Option.some.inj found).symm
  obtain ⟨front, back⟩ := List.append_inj eq length
  exact ⟨front, List.tail_eq_of_cons_eq back⟩

/-- The first occurrence splits the string. -/
theorem of_findFirstOf {n : Nat} (found : findFirstOf c s = some n) :
    s = s.take n ++ c :: s.drop (n + 1) ∧ c ∉ s.take n ∧ n < s.length := by
  induction s generalizing n with
  | nil => cases found
  | cons d s ih =>
      rw [findFirstOf, List.findIdx?_cons] at found
      by_cases eq : d = c
      · subst eq
        cases (by simpa using found : 0 = n)
        simp
      · simp only [eq, decide_false, Bool.false_eq_true, if_false, Option.map_eq_some_iff] at found
        obtain ⟨m, found, rfl⟩ := found
        obtain ⟨split, absent, less⟩ := ih found
        refine ⟨?_, ?_, by simpa using less⟩
        · rw [List.take_succ_cons, List.drop_succ_cons, List.cons_append, ← split]
        · rw [List.take_succ_cons]
          exact fun present => (List.mem_cons.mp present).elim (fun same => eq same.symm) absent

@[simp] theorem strip_nil : strip [] = [] := rfl

@[simp] theorem strip_append : strip (s ++ t) = strip s ++ strip t := by
  simp [strip]

theorem mem_strip : c ∈ strip s ↔ c ∈ s ∧ c ≠ '\r' ∧ c ≠ '\n' := by
  simp only [strip, List.mem_filter, decide_eq_true_eq]
  tauto

/-- A string without CR and LF is its own stripped form. -/
theorem strip_eq_self (noCR : '\r' ∉ s) (noLF : '\n' ∉ s) : strip s = s := by
  rw [strip, List.filter_filter, List.filter_eq_self]
  intro d present
  have differs : d ≠ '\r' := fun eq => noCR (eq ▸ present)
  have differs' : d ≠ '\n' := fun eq => noLF (eq ▸ present)
  simp [differs, differs']

end Str

end GpsInformer
