/-
A worklist walk whose requests may go unanswered.

The walk has one item in hand (the cursor) and a queue of items still to be
asked for.  Three things can happen to the cursor.  An answer visits it and may
add new items at the end of the queue.  A first failure only defers it: it goes
to the end of the queue.  A second failure gives up on it, which counts as a
visit.  After each of them the head of the queue becomes the new cursor.

An item is never asked for a third time, and the number of requests is bounded by the
number of items known: a visit pays for two requests and a deferral for one, and a walk
never makes more requests than it has paid for.
-/
import Mathlib.Data.List.Nodup
import Mathlib.Data.List.Perm.Basic
import Mathlib.Data.List.Count
import Mathlib.Tactic.Tauto

namespace Worklist

open List

variable {α : Type}

/-- The walk between two requests: `cursor` is the item asked for next. -/
structure State (α : Type) where
  cursor : α
  (pending visited deferred : List α)

/-- Every item the walk has heard of. -/
def State.known (s : State α) : List α :=
  s.cursor :: (s.pending ++ s.visited)

/-- One request that leaves the walk unfinished. -/
inductive Step : State α → State α → Prop
  | answer {s : State α} {found rest : List α} {c : α} (hnew : found.Nodup)
      (hfresh : ∀ x ∈ found, x ∉ s.known) (hpop : s.pending ++ found = c :: rest) :
      Step s ⟨c, rest, s.cursor :: s.visited, s.deferred⟩
  | defer {s : State α} {rest : List α} {c : α} (hfirst : s.cursor ∉ s.deferred)
      (hpop : s.pending ++ [s.cursor] = c :: rest) :
      Step s ⟨c, rest, s.visited, s.cursor :: s.deferred⟩
  | giveUp {s : State α} {rest : List α} {c : α} (hsecond : s.cursor ∈ s.deferred)
      (hpop : s.pending = c :: rest) :
      Step s ⟨c, rest, s.cursor :: s.visited, s.deferred⟩

/-- No item is in two places, and only known items were ever deferred. -/
structure Inv (s : State α) : Prop where
  nodup : s.known.Nodup
  deferred : ∀ x ∈ s.deferred, x ∈ s.known

/-! ### One request

Popping the queue only moves items between the cursor, the queue and the visited
items, so what a step knows afterwards is a permutation of what it knew and what
it was told.
-/

private theorem known_pop {queue rest visited : List α} {c : α} (h : queue = c :: rest) :
    c :: (rest ++ visited) = queue ++ visited := by
  rw [h, cons_append]

variable {s s' : State α} {x : α}

/-- A step forgets nothing, and whatever it adds is new. -/
theorem step_known (h : Step s s') :
    ∃ found, found.Nodup ∧ (∀ x ∈ found, x ∉ s.known) ∧
      (s.known ++ found).Perm s'.known := by
  cases h with
  | @answer found rest c hnew hfresh hpop =>
    refine ⟨found, hnew, hfresh, ?_⟩
    show (s.cursor :: (s.pending ++ s.visited) ++ found).Perm
      (c :: (rest ++ s.cursor :: s.visited))
    rw [known_pop hpop]
    have hswap : (s.pending ++ s.visited ++ found).Perm (s.pending ++ found ++ s.visited) := by
      rw [append_assoc, append_assoc]
      exact List.Perm.append_left _ perm_append_comm
    exact ((hswap.cons s.cursor).trans perm_middle.symm)
  | @defer rest c hfirst hpop =>
    refine ⟨[], nodup_nil, by simp, ?_⟩
    show (s.cursor :: (s.pending ++ s.visited) ++ []).Perm (c :: (rest ++ s.visited))
    rw [known_pop hpop, append_nil, append_assoc]
    exact perm_middle.symm
  | @giveUp rest c hsecond hpop =>
    refine ⟨[], nodup_nil, by simp, ?_⟩
    show (s.cursor :: (s.pending ++ s.visited) ++ []).Perm
      (c :: (rest ++ s.cursor :: s.visited))
    rw [known_pop hpop, append_nil]
    exact perm_middle.symm

theorem step_known_subset (h : Step s s') (hx : x ∈ s.known) :
    x ∈ s'.known := by
  obtain ⟨found, _, _, hperm⟩ := step_known h
  exact hperm.subset (mem_append_left _ hx)

theorem step_visited_subset (h : Step s s') (hx : x ∈ s.visited) :
    x ∈ s'.visited := by
  cases h with
  | answer => exact mem_cons_of_mem _ hx
  | defer => exact hx
  | giveUp => exact mem_cons_of_mem _ hx

theorem step_inv (h : Step s s') (hi : Inv s) : Inv s' := by
  obtain ⟨found, hnew, hfresh, hperm⟩ := step_known h
  refine ⟨hperm.nodup_iff.mp ?_, fun x hx => ?_⟩
  · refine nodup_append.mpr ⟨hi.nodup, hnew, ?_⟩
    intro x hx y hy hxy
    exact hfresh y hy (hxy ▸ hx)
  · -- A deferred item was deferred before, or it is the old cursor.
    have hold : x ∈ s.known := by
      cases h with
      | answer | giveUp => exact hi.deferred x hx
      | defer =>
        rcases mem_cons.mp hx with rfl | hx
        · exact mem_cons_self
        · exact hi.deferred x hx
    exact step_known_subset h hold

theorem Inv.cursor_notMem_pending (hi : Inv s) : s.cursor ∉ s.pending :=
  fun h => (nodup_cons.mp hi.nodup).1 (mem_append_left _ h)

theorem Inv.cursor_notMem_visited (hi : Inv s) : s.cursor ∉ s.visited :=
  fun h => (nodup_cons.mp hi.nodup).1 (mem_append_right _ h)

theorem Inv.pending_nodup (hi : Inv s) : s.pending.Nodup :=
  (nodup_append.mp (nodup_cons.mp hi.nodup).2).1

theorem Inv.pending_notMem_visited (hi : Inv s) (hx : x ∈ s.pending) :
    x ∉ s.visited :=
  fun hv => (nodup_append.mp (nodup_cons.mp hi.nodup).2).2.2 x hx x hv rfl

/-! ### What the requests cost

`charge` is the number of requests an item has been paid for, and `spent` the
number the whole walk has been paid for.
-/

section Cost

variable [DecidableEq α]

/-- How many requests for `x` the state accounts for. -/
def charge (s : State α) (x : α) : Nat :=
  if x ∈ s.visited then 2 else if x ∈ s.deferred then 1 else 0

/-- How many requests the state accounts for in all. -/
def spent (s : State α) : Nat :=
  2 * s.visited.length + (s.cursor :: s.pending).countP (· ∈ s.deferred)

theorem charge_le_two (s : State α) (x : α) : charge s x ≤ 2 := by
  unfold charge
  split
  · exact Nat.le_refl 2
  · split <;> omega

variable {s : State α}

theorem charge_cursor_le_one (hi : Inv s) : charge s s.cursor ≤ 1 := by
  unfold charge
  rw [if_neg hi.cursor_notMem_visited]
  split <;> omega

/-- One request is charged to the item it asked for, and nothing is refunded. -/
theorem step_charge {s' : State α} (h : Step s s') (hi : Inv s) (x : α) :
    charge s x + (if x = s.cursor then 1 else 0) ≤ charge s' x := by
  have hcursor := hi.cursor_notMem_visited
  have hone := charge_cursor_le_one hi
  by_cases hx : x = s.cursor
  · subst hx
    rw [if_pos rfl]
    cases h with
    | answer | giveUp =>
      simp only [charge, mem_cons, true_or, if_true]; simpa [charge] using hone
    | defer hfirst => simp [charge, hcursor, hfirst]
  · rw [if_neg hx, Nat.add_zero]
    cases h <;> simp [charge, hx]

/-- **Each request is paid for.** -/
theorem step_spent {s' : State α} (h : Step s s') (hi : Inv s) : spent s + 1 ≤ spent s' := by
  cases h with
  | @answer found rest c hnew hfresh hpop =>
    -- The new items were unknown, so none of them was ever deferred.
    have hzero : found.countP (· ∈ s.deferred) = 0 := by
      refine countP_eq_zero.mpr ?_
      intro x hx
      simpa using fun hd => hfresh x hx (hi.deferred x hd)
    simp only [spent, ← hpop, countP_append, hzero, length_cons,
      countP_cons]
    split <;> omega
  | @defer rest c hfirst hpop =>
    have hpending : s.pending.countP (· ∈ s.cursor :: s.deferred)
        = s.pending.countP (· ∈ s.deferred) := by
      refine countP_congr ?_
      intro x hx
      have hne : x ≠ s.cursor := fun hc => hi.cursor_notMem_pending (hc ▸ hx)
      simp [hne]
    simp only [spent, ← hpop, countP_append, hpending, countP_cons]
    simp only [hfirst, decide_false, mem_cons_self, decide_true, countP_nil]
    simp only [Bool.false_eq_true, if_false, if_true]
    omega
  | @giveUp rest c hsecond hpop =>
    simp only [spent, ← hpop, countP_cons, length_cons]
    simp only [hsecond, decide_true, if_true]
    omega

/-- The walk has paid for at most two requests an item, and for at most one of
an item it has yet to visit. -/
theorem spent_le (s : State α) : spent s ≤ 2 * s.visited.length + s.pending.length + 1 := by
  have h := countP_le_length (p := (· ∈ s.deferred)) (l := s.cursor :: s.pending)
  simp only [length_cons] at h
  unfold spent
  omega

end Cost

/-! ### A whole walk -/

/-- `Path s requests s'`: from `s` the walk makes `requests` and is then at `s'`,
still unfinished. -/
inductive Path : State α → List α → State α → Prop
  | nil (s : State α) : Path s [] s
  | cons {s s' s'' : State α} {requests : List α} (h : Step s s') (hrest : Path s' requests s'') :
      Path s (s.cursor :: requests) s''

theorem path_visited_subset {requests : List α} (h : Path s requests s') (hx : x ∈ s.visited) :
    x ∈ s'.visited := by
  induction h with
  | nil => exact hx
  | cons hstep _ ih => exact ih (step_visited_subset hstep hx)

/-- A visited item is never asked for again. -/
theorem path_visited_not_requested {requests : List α} (h : Path s requests s') (hi : Inv s)
    (hx : x ∈ s.visited) : x ∉ requests := by
  induction h with
  | nil => exact not_mem_nil
  | @cons s s₁ s₂ requests hstep _ ih =>
    intro hmem
    rcases mem_cons.mp hmem with rfl | hmem
    · exact hi.cursor_notMem_visited hx
    · exact ih (step_inv hstep hi) (step_visited_subset hstep hx) hmem

section Cost

variable [DecidableEq α]

/-- **No item is asked for more often than it was charged.** -/
theorem path_charge {s s' : State α} {requests : List α} (h : Path s requests s') (hi : Inv s)
    (x : α) : charge s x + requests.count x ≤ charge s' x := by
  induction h with
  | nil => simp
  | @cons s s₁ s₂ requests hstep _ ih =>
    have hone := step_charge hstep hi x
    have hrest := ih (step_inv hstep hi)
    rw [count_cons]
    by_cases hx : x = s.cursor
    · subst hx; simp only [if_true, beq_self_eq_true] at hone ⊢; omega
    · have hbeq : (s.cursor == x) = false := beq_false_of_ne (Ne.symm hx)
      simp only [hx, hbeq, if_false] at hone ⊢
      simp only [Bool.false_eq_true, if_false]
      omega

/-- **The walk never makes more requests than it has paid for.** -/
theorem path_spent {s s' : State α} {requests : List α} (h : Path s requests s') (hi : Inv s) :
    spent s + requests.length ≤ spent s' := by
  induction h with
  | nil => exact Nat.le_refl _
  | cons hstep _ ih =>
    have hone := step_spent hstep hi
    have hrest := ih (step_inv hstep hi)
    rw [length_cons]
    omega

end Cost

end Worklist
