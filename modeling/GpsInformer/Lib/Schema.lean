import Mathlib.Data.List.Basic

/-!
# Schemas of labelled trees

What a reader asks of a tree it extracts a record from: leaves that are there and
convert, subtrees that are there and conform to a schema of their own, and subtrees or
arrays of subtrees that conform if they are there.  Schemas name each other through a
table, so they may be recursive; conformance is well founded because trees are.
-/

namespace GpsInformer.Lib

/-- The fields a reader insists on; `κ` are the keys, `ν` the names of the schemas and
`ω` the kinds of leaves. -/
structure Schema (κ ν ω : Type*) where
  leaves : List (κ × ω) := []
  required : List (κ × ν) := []
  optional : List (κ × ν) := []
  arrays : List (κ × ν) := []

/-- How trees are read: the subtree under a key, the elements of an array, and which
subtrees a kind of leaf accepts. -/
structure Access (κ ω τ : Type*) where
  find : κ → τ → Option τ
  elements : τ → List τ
  accepts : ω → τ → Prop

variable {κ ν ω τ : Type*} {access : Access κ ω τ} {table : ν → Schema κ ν ω} {name : ν} {t : τ}

inductive Conforms (access : Access κ ω τ) (table : ν → Schema κ ν ω) : ν → τ → Prop
  | intro {name : ν} {t : τ} :
    (∀ leaf ∈ (table name).leaves, ∃ u, access.find leaf.1 t = some u ∧ access.accepts leaf.2 u) →
    (∀ field ∈ (table name).required, ∃ u, access.find field.1 t = some u) →
    (∀ field ∈ (table name).required, ∀ u, access.find field.1 t = some u →
      Conforms access table field.2 u) →
    (∀ field ∈ (table name).optional, ∀ u, access.find field.1 t = some u →
      Conforms access table field.2 u) →
    (∀ field ∈ (table name).arrays, ∀ u, access.find field.1 t = some u →
      ∀ v ∈ access.elements u, Conforms access table field.2 v) →
    Conforms access table name t

/-- The leaf under a key is there and converts. -/
def Access.Leaf (access : Access κ ω τ) (t : τ) (leaf : κ × ω) : Prop :=
  ∃ u, access.find leaf.1 t = some u ∧ access.accepts leaf.2 u

/-- The subtree under a key conforms if it is there. -/
def Access.Optional (access : Access κ ω τ) (table : ν → Schema κ ν ω) (t : τ) (field : κ × ν) :
    Prop :=
  ∀ u, access.find field.1 t = some u → Conforms access table field.2 u

/-- The subtree under a key is there and conforms. -/
def Access.Required (access : Access κ ω τ) (table : ν → Schema κ ν ω) (t : τ) (field : κ × ν) :
    Prop :=
  ∃ u, access.find field.1 t = some u ∧ Conforms access table field.2 u

/-- The elements under a key conform if it is there. -/
def Access.Elements (access : Access κ ω τ) (table : ν → Schema κ ν ω) (t : τ) (field : κ × ν) :
    Prop :=
  ∀ u, access.find field.1 t = some u → ∀ v ∈ access.elements u, Conforms access table field.2 v

/-- A tree conforms iff its fields do. -/
theorem conforms_iff :
    Conforms access table name t ↔
      (∀ leaf ∈ (table name).leaves, access.Leaf t leaf) ∧
      (∀ field ∈ (table name).required, access.Required table t field) ∧
      (∀ field ∈ (table name).optional, access.Optional table t field) ∧
      ∀ field ∈ (table name).arrays, access.Elements table t field := by
  constructor
  · intro conforms
    cases conforms with
    | intro leaves present required optional arrays =>
        refine ⟨leaves, fun field member => ?_, optional, arrays⟩
        obtain ⟨u, found⟩ := present field member
        exact ⟨u, found, required field member u found⟩
  · intro fields
    obtain ⟨leaves, required, optional, arrays⟩ := fields
    refine .intro leaves (fun field member => ?_) (fun field member u found => ?_) optional arrays
    · obtain ⟨u, found, _⟩ := required field member
      exact ⟨u, found⟩
    · obtain ⟨u', found', conforms⟩ := required field member
      cases found.symm.trans found'
      exact conforms

/-- The same with the fields of a schema one after the other. -/
theorem conforms_iff_forall :
    Conforms access table name t ↔
      (table name).leaves.Forall (access.Leaf t) ∧
      (table name).required.Forall (access.Required table t) ∧
      (table name).optional.Forall (access.Optional table t) ∧
      (table name).arrays.Forall (access.Elements table t) := by
  rw [conforms_iff, List.forall_iff_forall_mem, List.forall_iff_forall_mem,
    List.forall_iff_forall_mem, List.forall_iff_forall_mem]

end GpsInformer.Lib
