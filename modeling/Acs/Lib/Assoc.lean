/-
Association lists with distinct keys, changed entry by entry.

Mathlib's `AList` has insertion, deletion and union.  Here are the operations that keep
the keys apart by themselves, a change of every value and a selection of entries, with
what a lookup finds afterwards and how many entries there are.
-/
import Mathlib.Data.List.AList

namespace Assoc

open List AList

variable {κ ν : Type}

/-- Change every value. -/
def mapValues (f : κ → ν → ν) (m : AList fun _ : κ => ν) : AList fun _ : κ => ν where
  entries := m.entries.map fun e => ⟨e.1, f e.1 e.2⟩
  nodupKeys := by
    have hkeys : (m.entries.map fun e => (⟨e.1, f e.1 e.2⟩ : (_ : κ) × ν)).keys = m.entries.keys := by
      simp [List.keys]
    rw [List.NodupKeys, hkeys]
    exact m.nodupKeys

/-- Keep the entries that satisfy the test. -/
def select (p : κ → ν → Bool) (m : AList fun _ : κ => ν) : AList fun _ : κ => ν where
  entries := m.entries.filter fun e => p e.1 e.2
  nodupKeys := m.nodupKeys.sublist filter_sublist

/-- Keep the entries whose key satisfies the test. -/
def restrict (p : κ → Bool) (m : AList fun _ : κ => ν) : AList fun _ : κ => ν where
  entries := m.entries.filter fun e => p e.1
  nodupKeys := m.nodupKeys.sublist filter_sublist

variable [DecidableEq κ]

@[simp] theorem lookup_singleton (k : κ) (v : ν) :
    (singleton k v : AList fun _ : κ => ν).lookup k = some v := by
  rw [← insert_empty]
  exact lookup_insert ∅

theorem lookup_insert_if (k k' : κ) (v : ν) (m : AList fun _ : κ => ν) :
    (m.insert k v).lookup k' = if k' = k then some v else m.lookup k' := by
  split
  next hk =>
    rw [hk, lookup_insert]
  next hk =>
    rw [lookup_insert_ne hk]

theorem lookup_of_insert {k k' : κ} {v v' : ν} {m : AList fun _ : κ => ν}
    (h : (m.insert k v).lookup k' = some v') :
    k' = k ∧ v' = v ∨ k' ≠ k ∧ m.lookup k' = some v' := by
  rw [lookup_insert_if] at h
  split at h
  next hk => exact .inl ⟨hk, (Option.some.inj h).symm⟩
  next hk => exact .inr ⟨hk, h⟩

/-- What holds of a new entry and of the others holds of all. -/
theorem forall_lookup_insert {P : κ → ν → Prop} {k : κ} {v : ν} {m : AList fun _ : κ => ν}
    (hnew : P k v) (hold : ∀ k' v', m.lookup k' = some v' → P k' v') :
    ∀ k' v', (m.insert k v).lookup k' = some v' → P k' v' := by
  intro k' v' h
  rcases lookup_of_insert h with ⟨rfl, rfl⟩ | ⟨-, h⟩
  · exact hnew
  · exact hold k' v' h

theorem lookup_of_erase {k k' : κ} {v : ν} {m : AList fun _ : κ => ν}
    (h : (m.erase k).lookup k' = some v) : k' ≠ k ∧ m.lookup k' = some v := by
  have hne : k' ≠ k := by
    rintro rfl
    rw [lookup_erase] at h
    nomatch h
  exact ⟨hne, by rwa [lookup_erase_ne hne] at h⟩

@[simp] theorem lookup_mapValues (f : κ → ν → ν) (m : AList fun _ : κ => ν) (k : κ) :
    (mapValues f m).lookup k = (m.lookup k).map (f k) :=
  dlookup_map₂ k

@[simp] theorem lookup_select (p : κ → ν → Bool) (m : AList fun _ : κ => ν) (k : κ) :
    (select p m).lookup k = (m.lookup k).filter (p k) := by
  obtain ⟨entries, h⟩ := m
  induction entries with
  | nil => simp [AList.lookup, select]
  | cons e rest ih =>
    obtain ⟨a, b⟩ := e
    rw [nodupKeys_cons] at h
    have hrest := ih h.2
    simp only [AList.lookup, select, filter_cons] at hrest ⊢
    by_cases hk : k = a
    · subst hk
      rw [dlookup_cons_eq]
      by_cases hp : p k b
      · rw [if_pos hp, dlookup_cons_eq, Option.filter_some, if_pos hp]
      · have hnone : List.dlookup k rest = none := dlookup_eq_none.mpr h.1
        rw [if_neg hp, hrest, hnone, Option.filter_some, if_neg hp]
        rfl
    · by_cases hp : p a b
      · rw [if_pos hp, dlookup_cons_ne _ _ hk, dlookup_cons_ne _ _ hk, hrest]
      · rw [if_neg hp, dlookup_cons_ne _ _ hk, hrest]

@[simp] theorem lookup_restrict (p : κ → Bool) (m : AList fun _ : κ => ν) (k : κ) :
    (restrict p m).lookup k = if p k then m.lookup k else none := by
  rw [show restrict p m = select (fun k _ => p k) m from rfl, lookup_select]
  cases m.lookup k <;> simp [Option.filter_some]

/-! ### How many entries there are -/

omit [DecidableEq κ] in
theorem size_select_le (p : κ → ν → Bool) (m : AList fun _ : κ => ν) :
    (select p m).keys.length ≤ m.keys.length := by
  simp only [AList.keys, List.keys, length_map]
  exact length_filter_le _ _

theorem size_insert_of_mem {k : κ} {v : ν} {m : AList fun _ : κ => ν} (h : k ∈ m) :
    (m.insert k v).keys.length = m.keys.length := by
  rw [keys_insert, length_cons, length_erase_of_mem (mem_keys.mp h)]
  exact Nat.succ_pred_eq_of_pos (length_pos_of_mem (mem_keys.mp h))

theorem size_insert_le (k : κ) (v : ν) (m : AList fun _ : κ => ν) :
    (m.insert k v).keys.length ≤ m.keys.length + 1 := by
  rw [keys_insert, length_cons]
  exact Nat.succ_le_succ (erase_sublist.length_le)

end Assoc
