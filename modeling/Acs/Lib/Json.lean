/-
JSON documents.

An object is the list of its fields.  A document is walked by paths: a path is a
list of steps, each a key of an object or a position in an array, and `at` is what
stands at the end of it.
-/
import Mathlib.Data.List.Basic
import Mathlib.Tactic.Basic

inductive Json where
  | null
  | bool (b : Bool)
  | num (n : Int)
  | str (s : String)
  | arr (items : List Json)
  | obj (fields : List (String × Json))

namespace Json

/-- Induction over a document: over the items of an array, and the fields of an object. -/
@[elab_as_elim, induction_eliminator]
theorem induction {P : Json → Prop} (null : P .null) (bool : ∀ b, P (.bool b))
    (num : ∀ n, P (.num n)) (str : ∀ s, P (.str s))
    (arr : ∀ items, (∀ j ∈ items, P j) → P (.arr items))
    (obj : ∀ fields, (∀ f ∈ fields, P f.2) → P (.obj fields)) : ∀ j, P j
  | .null => null
  | .bool b => bool b
  | .num n => num n
  | .str s => str s
  | .arr items => arr items fun j _ => induction null bool num str arr obj j
  | .obj fields => obj fields fun f hf =>
    have : sizeOf f.2 < 1 + sizeOf fields := by
      have hmem := List.sizeOf_lt_of_mem hf
      have hsnd : sizeOf f = 1 + sizeOf f.1 + sizeOf f.2 := rfl
      omega
    induction null bool num str arr obj f.2

/-- The value of a key. -/
def field (fields : List (String × Json)) (key : String) : Option Json :=
  (fields.find? (·.1 = key)).map (·.2)

/-- `P` holds of the fields of every object in the document. -/
inductive EveryObject (P : List (String × Json) → Prop) : Json → Prop
  | null : EveryObject P .null
  | bool (b : Bool) : EveryObject P (.bool b)
  | num (n : Int) : EveryObject P (.num n)
  | str (s : String) : EveryObject P (.str s)
  | arr (items : List Json) (h : ∀ j ∈ items, EveryObject P j) : EveryObject P (.arr items)
  | obj (fields : List (String × Json)) (here : P fields)
      (h : ∀ f ∈ fields, EveryObject P f.2) : EveryObject P (.obj fields)

/-- Changing values and keeping keys acts on the value that is found. -/
theorem field_map (fields : List (String × Json)) (g : String → Json → Json) (key : String) :
    field (fields.map fun f => (f.1, g f.1 f.2)) key = (field fields key).map (g key) := by
  induction fields with
  | nil => rfl
  | cons f fields ih =>
    by_cases hkey : f.1 = key
    · simp [field, hkey]
    · simpa [field, hkey] using ih

inductive Step where
  | key (k : String)
  | index (i : Nat)

/-- What stands at the end of a path. -/
def «at» : Json → List Step → Option Json
  | j, [] => some j
  | .obj fields, .key k :: path => (field fields k).bind fun j => j.at path
  | .arr items, .index i :: path => items[i]?.bind fun j => j.at path
  | _, _ :: _ => none

/-- Neither an array nor an object. -/
def leaf : Json → Bool
  | .arr _ | .obj _ => false
  | _ => true

theorem at_leaf {j : Json} (h : j.leaf) (step : Step) (path : List Step) :
    j.at (step :: path) = none := by
  cases j with
  | arr | obj => exact absurd h (by simp [leaf])
  | _ => cases step <;> rfl

end Json
