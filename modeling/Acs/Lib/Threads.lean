/-
What one thread of a run does.

A bound on how often a program issues a kind of statement, along every path of answers
(`Prog.AtMost`), is a bound on what each thread of a run does: the events of a run are
split by the thread, or the task, they come from.
-/
import Acs.Lib.Pool

namespace Prog

variable {S : Type} {Res : S → Type} {α β : Type}

/-- As long as answers satisfy `R`, the program issues at most `n` statements in `sel`. -/
def AtMost (R : (s : S) → Res s → Prop) (sel : S → Bool) : Prog Res α → Nat → Prop
  | .done _, _ => True
  | .stmt s k, n =>
    (sel s → 0 < n) ∧ ∀ r, R s r → (k r).AtMost R sel (if sel s then n - 1 else n)

variable {R : (s : S) → Res s → Prop} {sel : S → Bool}

theorem AtMost.mono {p : Prog Res α} {m n : Nat} (h : p.AtMost R sel m) (hmn : m ≤ n) :
    p.AtMost R sel n := by
  induction p generalizing m n with
  | done a => trivial
  | stmt s k ih =>
    refine ⟨fun hs => Nat.lt_of_lt_of_le (h.1 hs) hmn, fun r hr => ih r (h.2 r hr) ?_⟩
    split <;> omega

theorem atMost_zero {Q : α → Prop} {p : Prog Res α} (h : p.All R (fun s => sel s = false) Q) :
    p.AtMost R sel 0 := by
  induction p with
  | done a => trivial
  | stmt s k ih =>
    refine ⟨fun hs => ?_, fun r hr => ?_⟩
    · rw [h.1] at hs
      cases hs
    · rw [h.1]
      exact ih r (h.2 r hr)

/-- The rule for sequencing: the bounds add up. -/
theorem AtMost.bind {Q : β → Prop} {p : Prog Res β} {f : β → Prog Res α} {m n : Nat}
    (hp : p.AtMost R sel m) (hQ : p.All R (fun _ => True) Q)
    (hf : ∀ b, Q b → (f b).AtMost R sel n) : (p >>= f).AtMost R sel (m + n) := by
  induction p generalizing m with
  | done b => exact (hf b hQ).mono (Nat.le_add_left n m)
  | stmt s k ih =>
    refine ⟨fun hs => ?_, fun r hr => ?_⟩
    · have := hp.1 hs
      omega
    · have hrest := ih r (hp.2 r hr) (hQ.2 r hr)
      refine hrest.mono ?_
      by_cases hs : sel s
      · have := hp.1 hs
        simp only [hs, if_true]
        omega
      · simp [hs]

theorem AtMost.after {Q : β → Prop} {p : Prog Res β} {f : β → Prog Res α} {n : Nat}
    (hp : p.All R (fun s => sel s = false) Q) (hf : ∀ b, Q b → (f b).AtMost R sel n) :
    (p >>= f).AtMost R sel n := by
  rw [← Nat.zero_add n]
  exact (atMost_zero hp).bind (hp.mono_stmt fun _ _ => trivial) hf

theorem atMost_collect {xs : List β} {f : β → Prog Res α}
    (h : ∀ x ∈ xs, (f x).AtMost R sel 1) : (collect xs f).AtMost R sel xs.length := by
  induction xs with
  | nil => trivial
  | cons x xs ih =>
    rw [List.length_cons, Nat.add_comm]
    refine (h x List.mem_cons_self).bind (all_true _) fun a _ => ?_
    exact (ih fun y hy => h y (List.mem_cons_of_mem _ hy)).bind (n := 0) (all_true _)
      fun as _ => trivial

end Prog

namespace Pool

variable {S : Type} {Res : S → Type} {σ C T : Type}
variable (exec : (s : S) → C → σ → Res s × σ) (prog : T → Prog Res Unit)

/-- The events of the thread with number `i`. -/
def eventsOf (i : Nat) : List (Action T C) → Pool Res σ → List (Event Res σ)
  | [], _ => []
  | .step j c :: as, P =>
    (if j = i then (act exec prog (.step j c) P).1 else []) ++
      eventsOf i as (act exec prog (.step j c) P).2
  | a :: as, P => eventsOf i as (act exec prog a P).2

/-- The events of each task that is carried out in one go. -/
def eventsOfAtomics : List (Action T C) → Pool Res σ → List (List (Event Res σ))
  | [], _ => []
  | .atomic t cs :: as, P =>
    (act exec prog (.atomic t cs) P).1 :: eventsOfAtomics as (act exec prog (.atomic t cs) P).2
  | a :: as, P => eventsOfAtomics as (act exec prog a P).2

/-- The events of a run, task by task. -/
def eventsByTask (as : List (Action T C)) (P : Pool Res σ) : List (List (Event Res σ)) :=
  eventsOfAtomics exec prog as P ++
    (List.range (run exec prog as P).2.threads.length).map (eventsOf exec prog · as P)

variable {exec prog} {R : (s : S) → Res s → Prop} {sel : S → Bool} {n : Nat}

theorem trace_atMost {p : Prog Res Unit} : ∀ {cs : Nat → C} {st : σ} {n : Nat},
    p.AtMost R sel n → (∀ ev ∈ trace exec cs p st, R ev.stmt ev.res) →
    (trace exec cs p st).countP (fun ev => sel ev.stmt) ≤ n := by
  induction p with
  | done a => intro cs st n _ _; exact Nat.zero_le n
  | stmt s k ih =>
    intro cs st n h hR
    have hrest := ih _ (h.2 _ (hR _ List.mem_cons_self))
      fun ev hev => hR ev (List.mem_cons_of_mem _ hev)
    rw [trace, List.countP_cons]
    by_cases hs : sel s
    · have := h.1 hs
      simp only [hs, if_true, fire] at hrest ⊢
      omega
    · simpa [hs, fire] using hrest

/-- A thread does at most what its program may, from where it is. -/
theorem eventsOf_atMost {i : Nat} {as : List (Action T C)} : ∀ {P : Pool Res σ} {n : Nat},
    (∀ p, P.threads[i]? = some p → p.AtMost R sel n) →
    (P.threads[i]? = none → ∀ t ∈ started as, (prog t).AtMost R sel n) →
    (∀ ev ∈ (run exec prog as P).1, R ev.stmt ev.res) →
    (eventsOf exec prog i as P).countP (fun ev => sel ev.stmt) ≤ n := by
  induction as with
  | nil => intro P n _ _ _; exact Nat.zero_le n
  | cons a as ih =>
    intro P n hthread htasks hR
    obtain ⟨hfirst, hR'⟩ := List.forall_mem_append.mp hR
    have htasks' : P.threads[i]? = none → ∀ t ∈ started as, (prog t).AtMost R sel n :=
      fun hnone => (forall_started_cons.mp (htasks hnone)).2
    cases a with
    | atomic t cs => exact ih hthread htasks' hR'
    | spawn t =>
      refine ih ?_ ?_ hR'
      · intro p hp
        by_cases hi : i < P.threads.length
        · exact hthread p (by rwa [act, List.getElem?_append_left hi] at hp)
        · have hnone : P.threads[i]? = none := List.getElem?_eq_none (Nat.le_of_not_lt hi)
          have hp' : p = prog t := by
            rw [act, List.getElem?_append_right (Nat.le_of_not_lt hi)] at hp
            simpa using List.mem_of_getElem? hp
          rw [hp']
          exact (forall_started_cons.mp (htasks hnone)).1 t rfl
      · intro hnone
        refine htasks' ?_
        rw [List.getElem?_eq_none_iff] at hnone ⊢
        simp only [act, List.length_append] at hnone
        omega
    | step j c =>
      rw [eventsOf, List.countP_append]
      rcases act_step_at exec prog j c P with hact | ⟨s, k, hj, hact⟩
      · rw [hact] at hR' ⊢
        rw [ite_self, List.countP_nil, Nat.zero_add]
        exact ih hthread htasks' hR'
      · by_cases hji : j = i
        · -- The thread takes a step, and its program has one statement less to issue.
          subst hji
          have hp := hthread _ hj
          have hans : R s (exec s c P.shared).1 :=
            hfirst (fire exec s c P.shared) (by simp [hact])
          have hset : (P.threads.set j (k (exec s c P.shared).1))[j]? =
              some (k (exec s c P.shared).1) :=
            List.getElem?_set_self (List.getElem?_eq_some_iff.mp hj).1
          rw [if_pos rfl]
          rw [hact] at hR' ⊢
          have hrest := ih (n := if sel s then n - 1 else n) (fun q hq => ?_) (fun hnone => ?_) hR'
          · rw [List.countP_singleton]
            by_cases hs : sel s
            · have := hp.1 hs
              simp only [hs, if_true, fire] at hrest ⊢
              omega
            · simpa [hs, fire] using hrest
          · rw [← Option.some.inj (hset.symm.trans hq)]
            exact hp.2 _ hans
          · rw [hset] at hnone
            cases hnone
        · rw [if_neg hji, List.countP_nil, Nat.zero_add]
          rw [hact] at hR' ⊢
          refine ih ?_ ?_ hR'
          · intro p hp
            rw [List.getElem?_set_ne hji] at hp
            exact hthread p hp
          · intro hnone
            rw [List.getElem?_set_ne hji] at hnone
            exact htasks' hnone

theorem eventsOfAtomics_atMost {as : List (Action T C)} : ∀ {P : Pool Res σ},
    (∀ t ∈ started as, (prog t).AtMost R sel n) →
    (∀ ev ∈ (run exec prog as P).1, R ev.stmt ev.res) →
    ∀ evs ∈ eventsOfAtomics exec prog as P, evs.countP (fun ev => sel ev.stmt) ≤ n := by
  induction as with
  | nil => intro P _ _ evs hevs; cases hevs
  | cons a as ih =>
    intro P htasks hR
    obtain ⟨htask, htasks'⟩ := forall_started_cons.mp htasks
    obtain ⟨hfirst, hR'⟩ := List.forall_mem_append.mp hR
    have hrest := ih htasks' hR'
    cases a with
    | spawn | step => exact hrest
    | atomic t cs => exact List.forall_mem_cons.mpr ⟨trace_atMost (htask t rfl) hfirst, hrest⟩

/-- **What each program does at most, each task of a run does at most.** -/
theorem eventsByTask_atMost {as : List (Action T C)} {st : σ}
    (htasks : ∀ t ∈ started as, (prog t).AtMost R sel n)
    (hR : ∀ ev ∈ (run exec prog as ⟨st, []⟩).1, R ev.stmt ev.res) :
    ∀ evs ∈ eventsByTask exec prog as ⟨st, []⟩, evs.countP (fun ev => sel ev.stmt) ≤ n := by
  intro evs hevs
  rcases List.mem_append.mp hevs with hevs | hevs
  · exact eventsOfAtomics_atMost htasks hR evs hevs
  · obtain ⟨i, _, rfl⟩ := List.mem_map.mp hevs
    exact eventsOf_atMost (by simp) (fun _ => htasks) hR

end Pool
