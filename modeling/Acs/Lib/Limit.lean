/-
The first records in the order of a number: `ORDER BY key LIMIT n`.

If no two records have the same number, the records that are returned are those below the
highest of them, in increasing order; and a record that is left out comes after a full
list of others.
-/
import Mathlib.Data.List.Sort

variable {α : Type} (key : α → Nat) (n : Nat) (l : List α)

/-- `ORDER BY key LIMIT n`. -/
def limitBy : List α :=
  (l.insertionSort (key · ≤ key ·)).take n

variable {key n l}

theorem mem_of_mem_limitBy {a : α} (h : a ∈ limitBy key n l) : a ∈ l :=
  (List.perm_insertionSort _ l).subset (List.mem_of_mem_take h)

theorem pairwise_insertionSort_key : (l.insertionSort (key · ≤ key ·)).Pairwise (key · ≤ key ·) :=
  have : Std.Total (fun a b : α => key a ≤ key b) := ⟨fun a b => Nat.le_total (key a) (key b)⟩
  have : IsTrans α fun a b : α => key a ≤ key b := ⟨fun _ _ _ => le_trans⟩
  List.pairwise_insertionSort _ l

theorem limitBy_le {a b : α} (ha : a ∈ limitBy key n l) (hb : b ∈ l) (hout : b ∉ limitBy key n l) :
    key a ≤ key b := by
  have hsorted : (l.insertionSort (key · ≤ key ·)).Pairwise (key · ≤ key ·) :=
    pairwise_insertionSort_key
  rw [← List.take_append_drop n (l.insertionSort (key · ≤ key ·)), List.pairwise_append] at hsorted
  have hmem : b ∈ limitBy key n l ++ (l.insertionSort (key · ≤ key ·)).drop n := by
    rw [limitBy, List.take_append_drop]
    exact (List.perm_insertionSort _ l).symm.subset hb
  rcases List.mem_append.mp hmem with hb' | hb'
  · exact absurd hb' hout
  · exact hsorted.2.2 a ha b hb'

/-- A record is left out only of a full list. -/
theorem limitBy_full {b : α} (hb : b ∈ l) (hout : b ∉ limitBy key n l) :
    (limitBy key n l).length = n := by
  rw [limitBy, List.length_take]
  refine Nat.min_eq_left (le_of_not_gt fun hlt => hout ?_)
  rw [limitBy, List.take_of_length_le (le_of_lt hlt)]
  exact (List.perm_insertionSort _ l).symm.subset hb

theorem nodup_map_limitBy {β : Type} {f : α → β} (h : (l.map f).Nodup) :
    ((limitBy key n l).map f).Nodup :=
  (((List.perm_insertionSort _ l).map f).nodup_iff.mpr h).sublist ((List.take_sublist n _).map f)

section Distinct

variable (hdistinct : ∀ a ∈ l, ∀ b ∈ l, key a = key b → a = b)

include hdistinct

theorem limitBy_increasing (hnodup : l.Nodup) : (limitBy key n l).Pairwise (key · < key ·) := by
  have hnodup' : (limitBy key n l).Nodup :=
    ((List.perm_insertionSort _ l).nodup_iff.mpr hnodup).sublist (List.take_sublist n _)
  have hsorted : (limitBy key n l).Pairwise (key · ≤ key ·) :=
    pairwise_insertionSort_key.sublist (List.take_sublist n _)
  refine (hsorted.and hnodup').imp_of_mem fun ha hb hab => Nat.lt_of_le_of_ne hab.1 fun heq => ?_
  exact hab.2 (hdistinct _ (mem_of_mem_limitBy ha) _ (mem_of_mem_limitBy hb) heq)

/-- Nothing up to a record that is returned is left out. -/
theorem mem_limitBy_of_le {a b : α} (ha : a ∈ limitBy key n l) (hb : b ∈ l)
    (hle : key b ≤ key a) : b ∈ limitBy key n l := by
  by_contra hout
  have heq := le_antisymm hle (limitBy_le ha hb hout)
  rw [hdistinct b hb a (mem_of_mem_limitBy ha) heq] at hout
  exact hout ha

end Distinct
