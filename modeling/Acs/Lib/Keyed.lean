/-
Lists of records with a key.

A table with a primary key is kept as the list of its rows together with the fact
that no two rows have the same key.  A row is then found by its key, and a change
that leaves the keys alone acts on the row that is found.
-/
import Mathlib.Data.List.Nodup

namespace Keyed

open List

variable {α κ : Type} [DecidableEq κ] {key : α → κ} {l : List α}

theorem find_of_mem (hnodup : (l.map key).Nodup) {a : α} (h : a ∈ l) :
    l.find? (key · = key a) = some a := by
  induction l with
  | nil => exact absurd h (by simp)
  | cons b l ih =>
    rw [map_cons, nodup_cons] at hnodup
    rcases mem_cons.mp h with rfl | hmem
    · simp
    · have hne : key b ≠ key a := by
        intro heq
        exact hnodup.1 (heq ▸ mem_map_of_mem hmem)
      rw [find?_cons_of_neg (by simpa using hne)]
      exact ih hnodup.2 hmem

theorem find_map {f : α → α} (hf : ∀ a, key (f a) = key a) (k : κ) :
    (l.map f).find? (key · = k) = (l.find? (key · = k)).map f := by
  rw [find?_map]
  congr 2
  funext a
  simp only [Function.comp_apply, hf]

/-- The record that is found, among records with other keys. -/
theorem split_of_find (hnodup : (l.map key).Nodup) {k : κ} {a : α}
    (h : l.find? (key · = k) = some a) :
    ∃ l₁ l₂, l = l₁ ++ a :: l₂ ∧ key a = k ∧ ∀ b ∈ l₁ ++ l₂, key b ≠ k := by
  obtain ⟨hkey, l₁, l₂, rfl, hbefore⟩ := find?_eq_some_iff_append.mp h
  have hkey : key a = k := by simpa using hkey
  refine ⟨l₁, l₂, rfl, hkey, fun b hb => ?_⟩
  rcases mem_append.mp hb with hb | hb
  · simpa using hbefore b hb
  · rw [map_append, map_cons, nodup_append] at hnodup
    have hafter := (nodup_cons.mp hnodup.2.1).1
    exact fun heq => hafter (hkey ▸ heq ▸ mem_map_of_mem hb)

omit [DecidableEq κ] in
theorem nodup_append (hnodup : (l.map key).Nodup) {a : α} (hnew : ∀ b ∈ l, key b ≠ key a) :
    ((l ++ [a]).map key).Nodup := by
  rw [map_append, List.nodup_append]
  refine ⟨hnodup, nodup_singleton _, fun k hk k' hk' heq => ?_⟩
  obtain ⟨b, hb, rfl⟩ := mem_map.mp hk
  exact hnew b hb (heq.trans (mem_singleton.mp hk'))

omit [DecidableEq κ] in
theorem map_key_map {f : α → α} (hf : ∀ a, key (f a) = key a) :
    (l.map f).map key = l.map key := by
  rw [map_map]
  exact map_congr_left fun a _ => hf a

theorem filter_of_mem (hnodup : (l.map key).Nodup) {a : α} (h : a ∈ l) :
    l.filter (key · = key a) = [a] := by
  induction l with
  | nil => exact absurd h not_mem_nil
  | cons b l ih =>
    rw [map_cons, nodup_cons] at hnodup
    rcases mem_cons.mp h with rfl | hmem
    · have hrest : l.filter (key · = key a) = [] := by
        refine filter_eq_nil_iff.mpr fun c hc => ?_
        have hne : key c ≠ key a := fun heq => hnodup.1 (heq ▸ mem_map_of_mem hc)
        simpa using hne
      rw [filter_cons_of_pos (by simp), hrest]
    · have hne : key b ≠ key a := fun heq => hnodup.1 (heq ▸ mem_map_of_mem hmem)
      rw [filter_cons_of_neg (by simpa using hne)]
      exact ih hnodup.2 hmem

omit [DecidableEq κ] in
theorem length_le_one (hnodup : (l.map key).Nodup) (h : ∀ a ∈ l, ∀ b ∈ l, key a = key b) :
    l.length ≤ 1 := by
  cases l with
  | nil => exact Nat.zero_le 1
  | cons a l =>
    cases l with
    | nil => exact Nat.le_refl 1
    | cons b l =>
      have hab : key a = key b := h a (by simp) b (by simp)
      rw [map_cons, nodup_cons, map_cons, hab] at hnodup
      exact absurd mem_cons_self hnodup.1

end Keyed
