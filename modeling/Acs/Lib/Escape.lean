/-
Fields joined by a separator, with an escape character before every separator and every
escape character of a field.

Splitting at the separators that are not escaped gives the fields back (`split_join`), so
texts that are joined from different fields differ, whatever the fields hold and however
many there are.
-/
import Mathlib.Tactic.Basic

namespace Escape

variable {α : Type} [DecidableEq α] (esc sep : α)

def escape (field : List α) : List α :=
  field.flatMap fun c => if c = esc ∨ c = sep then [esc, c] else [c]

def join : List (List α) → List α
  | [] => []
  | [field] => escape esc sep field
  | field :: rest => escape esc sep field ++ sep :: join rest

/-- Put a character before the first field. -/
def push (c : α) : List (List α) → List (List α)
  | [] => [[c]]
  | field :: rest => (c :: field) :: rest

/-- An escape character at the end stands for itself. -/
def split : List α → List (List α)
  | [] => [[]]
  | [c] => if c = sep then [[], []] else [[c]]
  | c :: d :: rest =>
    if c = esc then push d (split rest)
    else if c = sep then [] :: split (d :: rest)
    else push c (split (d :: rest))

variable {esc sep} (hne : esc ≠ sep)

include hne

theorem split_sep (rest : List α) : split esc sep (sep :: rest) = [] :: split esc sep rest := by
  cases rest with
  | nil => simp [split]
  | cons d rest => rw [split, if_neg (Ne.symm hne), if_pos rfl]

omit hne in
theorem split_cons {c : α} (hesc : c ≠ esc) (hsep : c ≠ sep) (rest : List α) :
    split esc sep (c :: rest) = push c (split esc sep rest) := by
  cases rest with
  | nil => simp [split, push, hsep]
  | cons d rest => rw [split, if_neg hesc, if_neg hsep]

omit hne in
theorem escape_cons (c : α) (field : List α) : escape esc sep (c :: field) =
    (if c = esc ∨ c = sep then [esc, c] else [c]) ++ escape esc sep field := by
  simp [escape]

omit hne in
/-- An escaped field at the start of a text goes to the first field of the rest. -/
theorem split_escape (field rest first : List α) (others : List (List α))
    (h : split esc sep rest = first :: others) :
    split esc sep (escape esc sep field ++ rest) = (field ++ first) :: others := by
  induction field with
  | nil => exact h
  | cons c field ih =>
    rw [escape_cons]
    split
    · show split esc sep (esc :: c :: (escape esc sep field ++ rest)) = _
      rw [split, if_pos rfl, ih]
      rfl
    next hplain =>
      have hesc : c ≠ esc := fun heq => hplain (.inl heq)
      have hsep : c ≠ sep := fun heq => hplain (.inr heq)
      show split esc sep (c :: (escape esc sep field ++ rest)) = _
      rw [split_cons hesc hsep, ih]
      rfl

theorem split_join {fields : List (List α)} (h : fields ≠ []) :
    split esc sep (join esc sep fields) = fields := by
  induction fields with
  | nil => exact absurd rfl h
  | cons field rest ih =>
    cases rest with
    | nil =>
      have hlast : split esc sep (escape esc sep field ++ []) = [field ++ []] :=
        split_escape field [] [] [] rfl
      rwa [List.append_nil, List.append_nil] at hlast
    | cons next rest =>
      have hrest : split esc sep (join esc sep (next :: rest)) = next :: rest :=
        ih (List.cons_ne_nil _ _)
      show split esc sep (escape esc sep field ++ sep :: join esc sep (next :: rest)) = _
      rw [split_escape field _ [] (next :: rest) (by rw [split_sep hne, hrest]), List.append_nil]

theorem join_injective {a b : List (List α)} (ha : a ≠ []) (hb : b ≠ [])
    (h : join esc sep a = join esc sep b) : a = b := by
  rw [← split_join hne ha, h, split_join hne hb]

end Escape
