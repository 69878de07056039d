import Mathlib.Data.Rat.Defs
import GpsInformer.StdString

/-!
# `property_tree::ptree`

The trees `read_json` makes of a JSON text: the members of an object are children with
their names, the elements of an array children with empty names, and a string, number
or literal is the data of its node.
-/

namespace GpsInformer

/-- What ends a handler of the Telegram side before it returns. -/
inductive Failure where
  /-- `ptree_bad_path` -/
  | badPath
  /-- `ptree_bad_data` -/
  | badData
  /-- `->second` of the iterator behind the last child -/
  | endIterator
  /-- a member of a null `shared_ptr` -/
  | nullPointer
  /-- `front()` or `pop_front()` of an empty deque -/
  | emptyDeque
  deriving DecidableEq, Repr

inductive PTree where
  | node (data : Str) (children : List (Str × PTree))

/-- `read_json`, which raises where it is `none`, and the conversions of `get`, which do
not convert where they are `none`. -/
structure PTreeEnv where
  readJson : Str → Option PTree
  int32 : Str → Option Int
  int64 : Str → Option Int
  bool : Str → Option Bool
  float : Str → Option ℚ

namespace PTree

def data : PTree → Str
  | node data _ => data

def children : PTree → List (Str × PTree)
  | node _ children => children

/-- `t.find(key)`; `none` is `not_found()` -/
def find (key : Str) (t : PTree) : Option PTree :=
  (t.children.find? fun child => child.1 = key).map Prod.snd

theorem sizeOf_find {key : Str} {t u : PTree} (found : t.find key = some u) :
    sizeOf u < sizeOf t := by
  obtain ⟨child, first, rfl⟩ := Option.map_eq_some_iff.mp found
  have member := List.mem_of_find?_eq_some first
  cases t with
  | node data children =>
      have below : sizeOf child < sizeOf children := List.sizeOf_lt_of_mem member
      have inner : sizeOf child.2 < sizeOf child := by
        cases child
        simp only [Prod.mk.sizeOf_spec]
        omega
      simp only [node.sizeOf_spec]
      omega

/-- `t.get_child(key)` -/
def getChild (key : Str) (t : PTree) : Except Failure PTree :=
  match t.find key with
  | none => .error .badPath
  | some child => .ok child

/-- `t.get<α>(key)` -/
def get {α : Type} (convert : Str → Option α) (key : Str) (t : PTree) : Except Failure α :=
  match t.find key with
  | none => .error .badPath
  | some child =>
      match convert child.data with
      | none => .error .badData
      | some value => .ok value

/-- `t.get<α>(key, default)` -/
def getD {α : Type} (convert : Str → Option α) (key : Str) (default : α) (t : PTree) : α :=
  match t.find key with
  | none => default
  | some child => (convert child.data).getD default

end PTree

end GpsInformer
