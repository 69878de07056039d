import GpsInformer.Lib.FormCoding

/-!
# JSON

Values without numbers, their texts without blanks (`render`), and a reader of such texts
(`read`) that undoes `render`.  Whether a text that has been put together in another way is
that of a value is a question about the characters from left to right (`Spells`): the first
place where it goes wrong is not made up for by anything that follows.
-/

namespace GpsInformer.Lib

inductive Json where
  | string (text : List Char)
  | literal (value : Bool)
  | array (elements : List Json)
  | object (members : List (List Char × Json))

namespace Json

/-! ## Printing -/

/-- What stands for itself in a string. -/
def Plain (c : Char) : Prop := c ≠ '"' ∧ c ≠ '\\' ∧ 32 ≤ c.toNat

instance : DecidablePred Plain := fun _ => inferInstanceAs (Decidable (_ ∧ _ ∧ _))

def escapeChar (c : Char) : List Char :=
  if Plain c then [c]
  else if 32 ≤ c.toNat then ['\\', c]
  else ['\\', 'u', '0', '0', hexDigit (c.toNat / 16), hexDigit (c.toNat % 16)]

def escape (text : List Char) : List Char := text.flatMap escapeChar

def quote (text : List Char) : List Char := '"' :: (escape text ++ ['"'])

mutual

def render : Json → List Char
  | .string text => quote text
  | .literal value => (if value then "true" else "false").toList
  | .array elements => '[' :: (renderElements elements ++ [']'])
  | .object members => '\x7b' :: (renderMembers members ++ ['\x7d'])

def renderElements : List Json → List Char
  | [] => []
  | [v] => render v
  | v :: w :: vs => render v ++ ',' :: renderElements (w :: vs)

def renderMembers : List (List Char × Json) → List Char
  | [] => []
  | [(name, v)] => quote name ++ ':' :: render v
  | (name, v) :: m :: ms => quote name ++ ':' :: (render v ++ ',' :: renderMembers (m :: ms))

end

/-! ## Reading -/

/-- What a backslash and a character stand for. -/
def unescape (c : Char) : Option Char :=
  if c = '"' ∨ c = '\\' ∨ c = '/' then some c
  else if c = 'b' then some (Char.ofNat 8)
  else if c = 'f' then some (Char.ofNat 12)
  else if c = 'n' then some '\n'
  else if c = 'r' then some '\r'
  else if c = 't' then some '\t'
  else none

/-- What four hexadecimal digits stand for. -/
def readCode (a b c d : Char) : Option Char := do
  let a ← hexValue a
  let b ← hexValue b
  let c ← hexValue c
  let d ← hexValue d
  some (Char.ofNat (16 * (16 * (16 * a + b) + c) + d))

/-- A string after its opening quote, and what follows its closing one. -/
def readString : List Char → Option (List Char × List Char)
  | [] => none
  | '"' :: s => some ([], s)
  | '\\' :: 'u' :: a :: b :: c :: d :: s =>
      (readCode a b c d).bind fun code => (readString s).map (Prod.map (code :: ·) id)
  | '\\' :: c :: s => (unescape c).bind fun c => (readString s).map (Prod.map (c :: ·) id)
  | c :: s => if 32 ≤ c.toNat then (readString s).map (Prod.map (c :: ·) id) else none

mutual

/-- A value at the start of a text, and what follows it; the number bounds the depth of the
recursion. -/
def readValue : Nat → List Char → Option (Json × List Char)
  | 0, _ => none
  | n + 1, s =>
      match s with
      | '"' :: s => (readString s).map (Prod.map .string id)
      | 't' :: 'r' :: 'u' :: 'e' :: s => some (.literal true, s)
      | 'f' :: 'a' :: 'l' :: 's' :: 'e' :: s => some (.literal false, s)
      | '[' :: ']' :: s => some (.array [], s)
      | '[' :: s => (readElements n s).map (Prod.map .array id)
      | '\x7b' :: '\x7d' :: s => some (.object [], s)
      | '\x7b' :: s => (readMembers n s).map (Prod.map .object id)
      | _ => none

def readElements : Nat → List Char → Option (List Json × List Char)
  | 0, _ => none
  | n + 1, s => do
      let (v, s) ← readValue n s
      match s with
      | ',' :: s => (readElements n s).map (Prod.map (v :: ·) id)
      | ']' :: s => some ([v], s)
      | _ => none

def readMembers : Nat → List Char → Option (List (List Char × Json) × List Char)
  | 0, _ => none
  | n + 1, s => do
      match s with
      | '"' :: s =>
          let (name, s) ← readString s
          match s with
          | ':' :: s =>
              let (v, s) ← readValue n s
              match s with
              | ',' :: s => (readMembers n s).map (Prod.map ((name, v) :: ·) id)
              | '\x7d' :: s => some ([(name, v)], s)
              | _ => none
          | _ => none
      | _ => none

end

/-- The value a text is that of. -/
def read (s : List Char) : Option Json :=
  match readValue (2 * s.length) s with
  | some (v, []) => some v
  | _ => none

/-! ## What is printed is read back -/

variable {s t u : List Char} {c : Char}

theorem escapeChar_plain (plain : Plain c) : escapeChar c = [c] := if_pos plain

theorem escape_cons (c : Char) (s : List Char) : escape (c :: s) = escapeChar c ++ escape s := rfl

/-- A text of characters that stand for themselves is its own escaped form. -/
theorem escape_plain (plain : ∀ c ∈ s, Plain c) : escape s = s := by
  induction s with
  | nil => rfl
  | cons c s ih =>
      rw [List.forall_mem_cons] at plain
      rw [escape_cons, escapeChar_plain plain.1, ih plain.2]
      rfl

theorem readString_plain (plain : Plain c) (s : List Char) :
    readString (c :: s) = (readString s).map (Prod.map (c :: ·) id) := by
  rw [readString, if_pos plain.2.2]
  · exact plain.1
  · rintro _ _ _ _ _ rfl
    exact absurd rfl plain.2.1
  · rintro _ _ rfl
    exact absurd rfl plain.2.1

theorem readString_escapeChar (c : Char) (s : List Char) :
    readString (escapeChar c ++ s) = (readString s).map (Prod.map (c :: ·) id) := by
  unfold escapeChar
  split
  · rename_i plain
    exact readString_plain plain s
  · rename_i special
    split
    · rename_i visible
      have mark : c = '"' ∨ c = '\\' := by
        by_contra neither
        exact special ⟨fun quote => neither (Or.inl quote), fun slash => neither (Or.inr slash),
          visible⟩
      rcases mark with rfl | rfl
      · rfl
      · rfl
    · rename_i control
      have high := hexValue_hexDigit (c.toNat / 16) (by omega)
      have low := hexValue_hexDigit (c.toNat % 16) (by omega)
      have zero : hexValue '0' = some 0 := rfl
      have code : readCode '0' '0' (hexDigit (c.toNat / 16)) (hexDigit (c.toNat % 16)) =
          some c := by
        have value : 16 * (16 * (16 * 0 + 0) + c.toNat / 16) + c.toNat % 16 = c.toNat := by omega
        unfold readCode
        rw [zero, high, low]
        simp only [Option.bind_eq_bind, Option.bind_some]
        rw [value, Char.ofNat_toNat]
      simp only [List.cons_append, List.nil_append]
      rw [readString, code]
      rfl

/-- A string is read up to its closing quote. -/
theorem readString_escape (text s : List Char) :
    readString (escape text ++ '"' :: s) = some (text, s) := by
  induction text with
  | nil => rfl
  | cons c text ih =>
      rw [escape_cons, List.append_assoc, readString_escapeChar, ih]
      rfl

/-- How a value begins. -/
theorem render_head (v : Json) : ∃ c s, render v = c :: s ∧ c ≠ ']' := by
  cases v with
  | string text => exact ⟨'"', _, by rw [render, quote], by decide⟩
  | literal value =>
      cases value with
      | true => exact ⟨'t', _, by rw [render]; rfl, by decide⟩
      | false => exact ⟨'f', _, by rw [render]; rfl, by decide⟩
  | array elements => exact ⟨'[', _, by rw [render], by decide⟩
  | object members => exact ⟨'\x7b', _, by rw [render], by decide⟩

theorem renderElements_head (v : Json) (vs : List Json) (s : List Char) :
    ∃ c rest, renderElements (v :: vs) ++ s = c :: rest ∧ c ≠ ']' := by
  obtain ⟨c, rest, eq, other⟩ := render_head v
  cases vs with
  | nil => exact ⟨c, rest ++ s, by rw [renderElements, eq]; rfl, other⟩
  | cons w vs =>
      refine ⟨c, rest ++ ',' :: renderElements (w :: vs) ++ s, ?_, other⟩
      rw [renderElements, eq]
      rfl

theorem renderMembers_head (m : List Char × Json) (ms : List (List Char × Json)) (s : List Char) :
    ∃ rest, renderMembers (m :: ms) ++ s = '"' :: rest := by
  obtain ⟨name, v⟩ := m
  cases ms with
  | nil => exact ⟨_, by rw [renderMembers, quote]; rfl⟩
  | cons m ms => exact ⟨_, by rw [renderMembers, quote]; rfl⟩

/-- What is printed is read back, by a reader that may go as deep as the text is long. -/
theorem readValue_render (n : Nat) :
    (∀ v s, 2 * (render v).length ≤ n → readValue n (render v ++ s) = some (v, s)) ∧
    (∀ v vs s, 2 * (renderElements (v :: vs)).length + 1 ≤ n →
      readElements n (renderElements (v :: vs) ++ ']' :: s) = some (v :: vs, s)) ∧
    ∀ m ms s, 2 * (renderMembers (m :: ms)).length + 1 ≤ n →
      readMembers n (renderMembers (m :: ms) ++ '\x7d' :: s) = some (m :: ms, s) := by
  induction n with
  | zero =>
      refine ⟨fun v s deep => ?_, fun v vs s deep => ?_, fun m ms s deep => ?_⟩
      · obtain ⟨c, rest, eq, _⟩ := render_head v
        rw [eq, List.length_cons] at deep
        omega
      · omega
      · omega
  | succ n ih =>
      obtain ⟨values, elements, members⟩ := ih
      refine ⟨fun v s deep => ?_, fun v vs s deep => ?_, fun m ms s deep => ?_⟩
      · cases v with
        | string text =>
            rw [render, quote, List.cons_append, List.append_assoc, List.singleton_append]
            simp only [readValue, readString_escape, Option.map_some]
            rfl
        | literal value => cases value <;> rw [render] <;> rfl
        | array vs =>
            rw [render] at deep ⊢
            cases vs with
            | nil => rfl
            | cons v vs =>
                rw [List.length_cons, List.length_append, List.length_singleton] at deep
                have inner := elements v vs s (by omega)
                rw [List.cons_append, List.append_assoc, List.singleton_append]
                obtain ⟨c, rest, eq, other⟩ := renderElements_head v vs (']' :: s)
                rw [eq] at inner ⊢
                rw [readValue]
                · rw [inner]
                  rfl
                · rintro s' same
                  cases same
                  exact other rfl
        | object ms =>
            rw [render] at deep ⊢
            cases ms with
            | nil => rfl
            | cons m ms =>
                rw [List.length_cons, List.length_append, List.length_singleton] at deep
                have inner := members m ms s (by omega)
                rw [List.cons_append, List.append_assoc, List.singleton_append]
                obtain ⟨rest, eq⟩ := renderMembers_head m ms ('\x7d' :: s)
                rw [eq] at inner ⊢
                rw [readValue]
                · rw [inner]
                  rfl
                · rintro s' same
                  cases same
      · cases vs with
        | nil =>
            rw [renderElements] at deep ⊢
            rw [readElements, values v _ (by omega)]
            rfl
        | cons w vs =>
            rw [renderElements] at deep ⊢
            rw [List.length_append, List.length_cons] at deep
            rw [List.append_assoc, List.cons_append, readElements, values v _ (by omega)]
            exact congrArg (Option.map (Prod.map (v :: ·) id)) (elements w vs s (by omega))
      · obtain ⟨name, v⟩ := m
        cases ms with
        | nil =>
            rw [renderMembers, quote] at deep ⊢
            simp only [List.length_append, List.length_cons] at deep
            simp only [List.cons_append, List.append_assoc, List.nil_append]
            rw [readMembers]
            simp only [readString_escape, Option.bind_eq_bind, Option.bind_some]
            rw [values v _ (by omega)]
            rfl
        | cons m ms =>
            rw [renderMembers, quote] at deep ⊢
            simp only [List.length_append, List.length_cons] at deep
            simp only [List.cons_append, List.append_assoc, List.nil_append]
            rw [readMembers]
            simp only [readString_escape, Option.bind_eq_bind, Option.bind_some]
            rw [values v _ (by omega)]
            exact congrArg (Option.map (Prod.map ((name, v) :: ·) id)) (members m ms s (by omega))

theorem read_render (v : Json) : read (render v) = some v := by
  have whole := (readValue_render (2 * (render v).length)).1 v [] (Nat.le_refl _)
  rw [List.append_nil] at whole
  unfold read
  rw [whole]

/-! ## Texts put together in another way -/

/-- An escaped text followed by a character is the text itself followed by another one only
if nothing in it has been escaped. -/
theorem escape_eq_self {d : Char} (other : d ≠ '\\') (eq : s ++ d :: u = escape s ++ t) :
    escape s = s := by
  -- once a backslash has been escaped, the escaped text stays ahead by backslashes
  have ahead : ∀ (s : List Char) (k : Nat),
      s ++ d :: u ≠ '\\' :: (List.replicate k '\\' ++ (escape s ++ t)) := by
    intro s
    induction s with
    | nil =>
        intro k same
        exact other (List.cons.inj same).1
    | cons c s ih =>
        intro k same
        obtain ⟨rfl, same⟩ := List.cons.inj same
        have doubled : escape ('\\' :: s) = '\\' :: '\\' :: escape s := rfl
        refine ih (k + 1) (same.trans ?_)
        have moved : ∀ rest : List Char, List.replicate k '\\' ++ '\\' :: rest =
            '\\' :: (List.replicate k '\\' ++ rest) := by
          intro rest
          rw [← List.cons_append, ← List.replicate_succ, List.replicate_succ', List.append_assoc]
          rfl
        rw [doubled, List.cons_append, List.cons_append, moved, moved, List.replicate_succ]
        rfl
  induction s with
  | nil => rfl
  | cons c s ih =>
      rw [escape_cons] at eq ⊢
      by_cases plain : Plain c
      · rw [escapeChar_plain plain] at eq ⊢
        rw [ih (List.cons.inj eq).2]
        rfl
      · have escaped : ∃ rest, escapeChar c = '\\' :: rest := by
          unfold escapeChar
          rw [if_neg plain]
          split
          · exact ⟨_, rfl⟩
          · exact ⟨_, rfl⟩
        obtain ⟨rest, escaped⟩ := escaped
        rw [escaped] at eq
        obtain ⟨rfl, same⟩ := List.cons.inj eq
        have slash : escapeChar '\\' = ['\\', '\\'] := rfl
        rw [slash] at escaped
        cases escaped
        exact absurd same (ahead s 0)

theorem length_escape (s : List Char) : s.length ≤ (escape s).length := by
  induction s with
  | nil => exact Nat.le_refl 0
  | cons c s ih =>
      have one : 1 ≤ (escapeChar c).length := by
        unfold escapeChar
        split
        · exact Nat.le_refl 1
        · split
          · exact Nat.le_add_left 1 1
          · exact Nat.le_add_left 1 5
      rw [escape_cons, List.length_append, List.length_cons]
      omega

theorem plain_of_escape (same : escape s = s) : ∀ c ∈ s, Plain c := by
  induction s with
  | nil => exact List.forall_mem_nil _
  | cons c s ih =>
      rw [escape_cons] at same
      have plain : Plain c := by
        by_contra special
        have kept := length_escape s
        have two : 2 ≤ (escapeChar c).length := by
          unfold escapeChar
          rw [if_neg special]
          split
          · exact Nat.le_refl 2
          · exact Nat.le_add_left 2 4
        have lengths := congrArg List.length same
        rw [List.length_append, List.length_cons] at lengths
        omega
      rw [escapeChar_plain plain] at same
      exact List.forall_mem_cons.mpr ⟨plain, ih (List.cons.inj same).2⟩

/-- What stands behind a value. -/
def Separator (c : Char) : Prop := c = ',' ∨ c = ']' ∨ c = '\x7d'

/-- A text that has been written is `text` iff `good`, and nothing that follows it and starts
with a separator can make up for it. -/
structure Spells (written text : List Char) (good : Prop) : Prop where
  spells : good → written = text
  only : ∀ u v, (∀ c ∈ u.head?, Separator c) → written ++ u = text ++ v → good

namespace Spells

variable {written written' text text' : List Char} {good good' : Prop} {α : Type}

theorem refl (text : List Char) : Spells text text True :=
  ⟨fun _ => rfl, fun _ _ _ _ => trivial⟩

theorem congr (spells : Spells written text good) (same : good ↔ good') :
    Spells written text good' :=
  ⟨fun met => spells.spells (same.mpr met), fun u v next eq => same.mp (spells.only u v next eq)⟩

theorem iff (spells : Spells written text good) : written = text ↔ good := by
  constructor
  · rintro rfl
    apply spells.only [] [] _ rfl
    rintro c none
    cases none
  · exact spells.spells

theorem behind (spells : Spells written text good) (front : List Char) :
    Spells (front ++ written) (front ++ text) good := by
  refine ⟨fun met => by rw [spells.spells met], fun u v next eq => spells.only u v next ?_⟩
  rw [List.append_assoc, List.append_assoc] at eq
  exact List.append_cancel_left eq

/-- Two texts with a separator between them. -/
theorem glue {c : Char} (spells : Spells written text good) (separator : Separator c)
    (spells' : Spells written' text' good') :
    Spells (written ++ c :: written') (text ++ c :: text') (good ∧ good') := by
  refine ⟨fun met => by rw [spells.spells met.1, spells'.spells met.2], fun u v next eq => ?_⟩
  rw [List.append_assoc, List.append_assoc, List.cons_append, List.cons_append] at eq
  have met : good := spells.only _ _ (by simpa using separator) eq
  rw [spells.spells met] at eq
  exact ⟨met, spells'.only u v next (List.cons.inj (List.append_cancel_left eq)).2⟩

/-- A text before one that is the same in both. -/
theorem before (spells : Spells written text good) {back : List Char}
    (next : ∀ c ∈ back.head?, Separator c) : Spells (written ++ back) (text ++ back) good := by
  cases back with
  | nil =>
      rw [List.append_nil, List.append_nil]
      exact spells
  | cons c back =>
      exact (spells.glue (next c rfl) (refl back)).congr (and_iff_left trivial)

/-- Texts joined by a character. -/
theorem joined {c : Char} (separator : Separator c) {write print : α → List Char} {meets : α → Prop}
    (xs : List α) (each : ∀ x ∈ xs, Spells (write x) (print x) (meets x)) :
    Spells ([c].intercalate (xs.map write)) ([c].intercalate (xs.map print))
      (∀ x ∈ xs, meets x) := by
  induction xs with
  | nil => exact (refl []).congr (iff_of_true trivial (List.forall_mem_nil _))
  | cons x xs ih =>
      rw [List.forall_mem_cons] at each
      cases xs with
      | nil =>
          rw [List.map_singleton, List.map_singleton, List.intercalate_singleton,
            List.intercalate_singleton]
          exact each.1.congr (List.forall_mem_singleton).symm
      | cons y ys =>
          have both := each.1.glue separator (ih each.2)
          simp only [List.map_cons, List.intercalate_cons_cons, List.singleton_append,
            List.append_assoc] at both ⊢
          exact both.congr List.forall_mem_cons.symm

end Spells

/-! ## Printing, joined -/

theorem renderElements_eq (vs : List Json) :
    renderElements vs = [','].intercalate (vs.map render) := by
  induction vs with
  | nil => rfl
  | cons v vs ih =>
      cases vs with
      | nil => rw [renderElements, List.map_singleton, List.intercalate_singleton]
      | cons w vs =>
          rw [renderElements, ih]
          simp only [List.map_cons, List.intercalate_cons_cons, List.singleton_append,
            List.append_assoc]

def renderMember (m : List Char × Json) : List Char := quote m.1 ++ ':' :: render m.2

theorem renderMembers_eq (ms : List (List Char × Json)) :
    renderMembers ms = [','].intercalate (ms.map renderMember) := by
  induction ms with
  | nil => rfl
  | cons m ms ih =>
      obtain ⟨name, v⟩ := m
      cases ms with
      | nil => rw [renderMembers, List.map_singleton, List.intercalate_singleton, renderMember]
      | cons m ms =>
          rw [renderMembers, ih]
          simp only [renderMember, List.map_cons, List.intercalate_cons_cons, List.append_assoc,
            List.cons_append, List.nil_append]

end Json

end GpsInformer.Lib
