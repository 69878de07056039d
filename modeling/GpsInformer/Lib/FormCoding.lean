import Mathlib.Data.List.Basic

/-!
# Form coding

`application/x-www-form-urlencoded`: pairs joined by `&`, name and value by `=`, and in
both of them every byte that is not let through is `%` and two hexadecimal digits.
Decoding undoes it for whatever characters are let through, as long as these three are
not among them.
-/

namespace GpsInformer.Lib

def hexDigit (n : Nat) : Char := (Nat.digitChar n).toUpper

def hexValue (c : Char) : Option Nat :=
  if '0' ≤ c ∧ c ≤ '9' then some (c.toNat - '0'.toNat)
  else if 'A' ≤ c ∧ c ≤ 'F' then some (c.toNat - 'A'.toNat + 10)
  else if 'a' ≤ c ∧ c ≤ 'f' then some (c.toNat - 'a'.toNat + 10)
  else none

def percentByte (c : Char) : List Char :=
  let byte := c.toNat % 256
  ['%', hexDigit (byte / 16), hexDigit (byte % 16)]

def percentEncode (legit : Char → Bool) (s : List Char) : List Char :=
  s.flatMap fun c => if legit c then [c] else percentByte c

/-- A `%` without two digits is left as it is. -/
def percentDecode : List Char → List Char
  | '%' :: high :: low :: s =>
      match hexValue high, hexValue low with
      | some high, some low => Char.ofNat (16 * high + low) :: percentDecode s
      | _, _ => '%' :: percentDecode (high :: low :: s)
  | c :: s => c :: percentDecode s
  | [] => []

def encodePair (legit : Char → Bool) (pair : List Char × List Char) : List Char :=
  percentEncode legit pair.1 ++ '=' :: percentEncode legit pair.2

/-- Cut at the first `=`. -/
def decodePair (s : List Char) : List Char × List Char :=
  (percentDecode (s.takeWhile (· ≠ '=')), percentDecode (s.dropWhile (· ≠ '=')).tail)

def formEncode (legit : Char → Bool) (pairs : List (List Char × List Char)) : List Char :=
  ['&'].intercalate (pairs.map (encodePair legit))

def formDecode (s : List Char) : List (List Char × List Char) := (s.splitOn '&').map decodePair

/-- What has a meaning of its own is not let through. -/
structure Stops (legit : Char → Bool) : Prop where
  percent : legit '%' = false
  ampersand : legit '&' = false
  equals : legit '=' = false

variable {legit : Char → Bool} {s t : List Char} {c : Char}

/-! ## Bytes -/

theorem hexValue_hexDigit : ∀ n < 16, hexValue (hexDigit n) = some n := by decide

theorem percentDecode_percentByte (byte : c.toNat < 256) (s : List Char) :
    percentDecode (percentByte c ++ s) = c :: percentDecode s := by
  have high := hexValue_hexDigit (c.toNat / 16) (by omega)
  have low := hexValue_hexDigit (c.toNat % 16) (by omega)
  have value : 16 * (c.toNat / 16) + c.toNat % 16 = c.toNat := Nat.div_add_mod _ _
  rw [percentByte, Nat.mod_eq_of_lt byte, List.cons_append, List.cons_append,
    List.singleton_append, percentDecode, high, low]
  dsimp only
  rw [value, Char.ofNat_toNat]

theorem percentDecode_cons (other : c ≠ '%') (s : List Char) :
    percentDecode (c :: s) = c :: percentDecode s := by
  rw [percentDecode]
  rintro high low rest rfl
  exact absurd rfl other

/-! ## Texts -/

theorem percentEncode_append (legit : Char → Bool) (s t : List Char) :
    percentEncode legit (s ++ t) = percentEncode legit s ++ percentEncode legit t :=
  List.flatMap_append

theorem percentDecode_percentEncode (percent : legit '%' = false)
    (bytes : ∀ c ∈ s, c.toNat < 256) : percentDecode (percentEncode legit s) = s := by
  induction s with
  | nil => rfl
  | cons c s ih =>
      rw [List.forall_mem_cons] at bytes
      have rest := ih bytes.2
      rw [percentEncode] at rest ⊢
      rw [List.flatMap_cons]
      split
      · rename_i passes
        have other : c ≠ '%' := by
          rintro rfl
          rw [percent] at passes
          cases passes
        rw [List.singleton_append, percentDecode_cons other, rest]
      · rw [percentDecode_percentByte bytes.1, rest]

/-- A separator that is not let through does not occur in what is encoded. -/
theorem not_mem_percentEncode (separator : c = '&' ∨ c = '=') (stopped : legit c = false)
    (s : List Char) : c ∉ percentEncode legit s := by
  intro member
  rcases List.mem_flatMap.mp member with ⟨d, _, member⟩
  split at member
  · rename_i passes
    rw [← List.mem_singleton.mp member, stopped] at passes
    cases passes
  · have digit : ∀ n < 16, c ≠ hexDigit n := by
      rcases separator with rfl | rfl <;> decide
    rcases List.mem_cons.mp member with rfl | member
    · rcases separator with same | same <;> cases same
    · rcases List.mem_cons.mp member with same | member
      · exact digit _ (by omega) same
      · exact digit _ (by omega) (List.mem_singleton.mp member)

/-! ## Pairs -/

/-- What a form is split into at its `&`. -/
theorem splitOn_formEncode (stops : Stops legit) {pairs : List (List Char × List Char)}
    (nonempty : pairs ≠ []) :
    (formEncode legit pairs).splitOn '&' = pairs.map (encodePair legit) := by
  refine List.splitOn_intercalate '&' ?_ (mt List.map_eq_nil_iff.mp nonempty)
  rw [List.forall_mem_map]
  intro pair _ member
  rcases List.mem_append.mp member with name | value
  · exact not_mem_percentEncode (Or.inl rfl) stops.ampersand _ name
  · rcases List.mem_cons.mp value with same | value
    · cases same
    · exact not_mem_percentEncode (Or.inl rfl) stops.ampersand _ value

/-- A text is cut at its first `=`. -/
theorem cut_at_equals (absent : '=' ∉ s) (t : List Char) :
    (s ++ '=' :: t).takeWhile (· ≠ '=') = s ∧ ((s ++ '=' :: t).dropWhile (· ≠ '=')).tail = t := by
  have goesOn : ∀ c ∈ s, decide (c ≠ '=') = true :=
    fun c member => decide_eq_true fun same => absent (same ▸ member)
  constructor
  · rw [List.takeWhile_append_of_pos goesOn, List.takeWhile_cons_of_neg (by decide),
      List.append_nil]
  · rw [List.dropWhile_append_of_pos goesOn, List.dropWhile_cons_of_neg (by decide),
      List.tail_cons]

theorem decodePair_encodePair (stops : Stops legit) {pair : List Char × List Char}
    (name : ∀ c ∈ pair.1, c.toNat < 256) (value : ∀ c ∈ pair.2, c.toNat < 256) :
    decodePair (encodePair legit pair) = pair := by
  obtain ⟨front, back⟩ := cut_at_equals (not_mem_percentEncode (Or.inr rfl) stops.equals pair.1)
    (percentEncode legit pair.2)
  rw [decodePair, encodePair, front, back, percentDecode_percentEncode stops.percent name,
    percentDecode_percentEncode stops.percent value]

theorem formDecode_formEncode (stops : Stops legit)
    {pairs : List (List Char × List Char)} (nonempty : pairs ≠ [])
    (bytes : ∀ pair ∈ pairs, (∀ c ∈ pair.1, c.toNat < 256) ∧ ∀ c ∈ pair.2, c.toNat < 256) :
    formDecode (formEncode legit pairs) = pairs := by
  have decoded : ∀ pair ∈ pairs, (decodePair ∘ encodePair legit) pair = id pair :=
    fun pair member => decodePair_encodePair stops (bytes pair member).1 (bytes pair member).2
  rw [formDecode, splitOn_formEncode stops nonempty, List.map_map,
    List.map_congr_left decoded, List.map_id]

end GpsInformer.Lib
