/-
Knowledge that grows with the shared state.

What a program has read stays true if it is a fact of the kind that is never lost: that a
row exists, that something was received, that a value has been seen.  `R st` says what
answers tell in state `st`, `W t st` what a statement of task `t` satisfies there, and states
are ordered by `grows`, along which no answer is forgotten.  A program is checked once, by
`Prog.All`, for the facts of every state; then in a run every statement satisfies `W` in the
very state it is executed in (`byTask_growing`).

The events of a run carry the task they come from, so `W` may depend on the task.
-/
import Acs.Lib.Pool

namespace Pool

open List Pool.Action

variable {S : Type} {Res : S → Type} {σ C T : Type}

/-! ### Events and their tasks -/

/-- The task an action executes statements of, given the tasks of the threads. -/
def Action.author (ts : List T) : Action T C → Option T
  | .spawn _ => none
  | .step i _ => ts[i]?
  | .atomic t _ => some t

/-- The tasks of the threads after an action. -/
def Action.authors (ts : List T) : Action T C → List T
  | .spawn t => ts ++ [t]
  | _ => ts

section ByTask

variable (exec : (s : S) → C → σ → Res s × σ) (prog : T → Prog Res Unit)

/-- The events of a run, each with the task it comes from. -/
def byTask : List (Action T C) → List T → Pool Res σ → List (T × Event Res σ)
  | [], _, _ => []
  | a :: as, ts, P =>
    ((a.author ts).toList.flatMap fun t => (act exec prog a P).1.map (t, ·)) ++
      byTask as (a.authors ts) (act exec prog a P).2

theorem act_threads_length (a : Action T C) (ts : List T) (P : Pool Res σ)
    (h : ts.length = P.threads.length) :
    (a.authors ts).length = (act exec prog a P).2.threads.length := by
  cases a with
  | spawn t => simp [authors, act, h]
  | atomic t cs => exact h
  | step i c =>
    rcases act_step_at exec prog i c P with hact | ⟨s, k, _, hact⟩
    · rw [hact]
      exact h
    · rw [hact, length_set]
      exact h

theorem map_snd_byTask (as : List (Action T C)) : ∀ ts P,
    ts.length = P.threads.length →
    (byTask exec prog as ts P).map Prod.snd = (run exec prog as P).1 := by
  induction as with
  | nil => intro ts P _; rfl
  | cons a as ih =>
    intro ts P h
    rw [byTask, map_append, ih _ _ (act_threads_length exec prog a ts P h), run]
    congr 1
    cases a with
    | spawn t => rfl
    | atomic t cs => simp [author, Function.comp_def]
    | step i c =>
      rcases act_step_at exec prog i c P with hact | ⟨s, k, hi, hact⟩
      · simp [hact]
      · have hlt : i < ts.length := h ▸ (List.getElem?_eq_some_iff.mp hi).1
        simp [hact, author, getElem?_eq_getElem hlt]

end ByTask

/-! ### The rule -/

section Growing

variable {exec : (s : S) → C → σ → Res s × σ} {prog : T → Prog Res Unit}
variable {R : σ → (s : S) → Res s → Prop} {W : T → σ → S → Prop} {J : σ → Prop}
variable {grows : σ → σ → Prop} {G : Event Res σ → Prop}

/-- A program that satisfies `W`, now and in every state to come. -/
def Informed (R : σ → (s : S) → Res s → Prop) (W : T → σ → S → Prop) (grows : σ → σ → Prop)
    (t : T) (p : Prog Res Unit) (st : σ) : Prop :=
  ∀ st', grows st st' → p.All (R st') (W t st') fun _ => True

/-- What is shown of each event of a run. -/
structure Event.Grown (exec : (s : S) → C → σ → Res s × σ) (W : T → σ → S → Prop) (J : σ → Prop)
    (grows : σ → σ → Prop) (t : T) (ev : Event Res σ) : Prop where
  legal : ev.Legal exec
  stmt : W t ev.pre ev.stmt
  pre : J ev.pre
  post : J ev.post
  grows : grows ev.pre ev.post

variable (hrefl : ∀ a, grows a a) (htrans : ∀ a b c, grows a b → grows b c → grows a c)
variable (hmono : ∀ a b s r, grows a b → R a s r → R b s r)
variable (hexec : ∀ t s c st, G (fire exec s c st) → W t st s → J st →
  R (exec s c st).2 s (exec s c st).1 ∧ J (exec s c st).2 ∧ grows st (exec s c st).2)

include hrefl htrans hmono hexec

/-- One statement of an informed program, and the program after it. -/
theorem informed_step {t : T} {s : S} {k : Res s → Prog Res Unit} {st : σ} {c : C}
    (hp : Informed R W grows t (.stmt s k) st) (hJ : J st) (hG : G (fire exec s c st)) :
    (fire exec s c st).Grown exec W J grows t ∧
      Informed R W grows t (k (exec s c st).1) (exec s c st).2 := by
  have hstmt : W t st s := (hp st (hrefl st)).1
  obtain ⟨hR, hJ', hgrows⟩ := hexec t s c st hG hstmt hJ
  refine ⟨⟨fire_legal exec s c st, hstmt, hJ, hJ', hgrows⟩, ?_⟩
  intro st' hst'
  exact (hp st' (htrans _ _ _ hgrows hst')).2 _ (hmono _ _ _ _ hst' hR)

theorem trace_growing {t : T} {p : Prog Res Unit} {cs : Nat → C} {st : σ}
    (hp : Informed R W grows t p st) (hJ : J st) (hG : ∀ ev ∈ trace exec cs p st, G ev) :
    (∀ ev ∈ trace exec cs p st, ev.Grown exec W J grows t) ∧
      J (p.after exec cs st) ∧ grows st (p.after exec cs st) := by
  have hrun := trace_rule (W := Event.Grown exec W J grows t)
    (M := fun p st' => Informed R W grows t p st' ∧ J st' ∧ grows st st')
    (fun ⟨hp, hJ, hgrown⟩ hG => by
      obtain ⟨hfirst, hrest⟩ := informed_step hrefl htrans hmono hexec hp hJ hG
      exact ⟨hfirst, hrest, hfirst.post, htrans _ _ _ hgrown hfirst.grows⟩) ⟨hp, hJ, hrefl st⟩ hG
  exact ⟨hrun.1, hrun.2.2⟩

/-- One action: its events are as they should be, and so are the programs it leaves. -/
theorem act_growing {a : Action T C} {ts : List T} {P : Pool Res σ}
    (hthreads : ∀ (i : Nat) t p, ts[i]? = some t → P.threads[i]? = some p →
      Informed R W grows t p P.shared)
    (hlength : ts.length = P.threads.length) (hJ : J P.shared)
    (htask : ∀ t, a.task = some t → ∀ st, (prog t).Issues (R st) (W t st))
    (hG : ∀ ev ∈ (act exec prog a P).1, G ev) :
    (∀ t, a.author ts = some t → ∀ ev ∈ (act exec prog a P).1, ev.Grown exec W J grows t) ∧
      J (act exec prog a P).2.shared ∧
      ∀ (i : Nat) t p, (a.authors ts)[i]? = some t → (act exec prog a P).2.threads[i]? = some p →
        Informed R W grows t p (act exec prog a P).2.shared := by
  have hlater : ∀ {st' : σ}, grows P.shared st' → ∀ (i : Nat) t p, ts[i]? = some t →
      P.threads[i]? = some p → Informed R W grows t p st' :=
    fun hst' i t p hi hp st₂ h₂ => hthreads i t p hi hp st₂ (htrans _ _ _ hst' h₂)
  cases a with
  | spawn t =>
    refine ⟨by simp [act], hJ, ?_⟩
    intro i u p hu hp
    by_cases hi : i < ts.length
    · refine hthreads i u p ?_ ?_
      · rwa [authors, getElem?_append_left hi] at hu
      · rwa [act, getElem?_append_left (hlength ▸ hi)] at hp
    · have hge : ts.length ≤ i := Nat.le_of_not_lt hi
      rw [authors, getElem?_append_right hge] at hu
      rw [act, getElem?_append_right (hlength ▸ hge)] at hp
      have hu' : u = t := by simpa using mem_of_getElem? hu
      have hp' : p = prog t := by simpa using mem_of_getElem? hp
      subst hu' hp'
      exact fun st' _ => htask u rfl st'
  | atomic t cs =>
    have hinformed : Informed R W grows t (prog t) P.shared := fun st' _ => htask t rfl st'
    obtain ⟨hall, hJ', hgrows⟩ := trace_growing hrefl htrans hmono hexec hinformed hJ hG
    refine ⟨?_, hJ', hlater hgrows⟩
    intro u hu
    cases hu
    exact hall
  | step i c =>
    rcases act_step_at exec prog i c P with hact | ⟨s, k, hi, hact⟩
    · rw [hact]
      exact ⟨by simp, hJ, hthreads⟩
    · have hlt : i < ts.length := hlength ▸ (List.getElem?_eq_some_iff.mp hi).1
      have hts : ts[i]? = some ts[i] := getElem?_eq_getElem hlt
      have hG' : G (fire exec s c P.shared) := hG _ (by rw [hact]; exact mem_cons_self)
      obtain ⟨hfire, hrest⟩ := informed_step hrefl htrans hmono hexec
        (hthreads i ts[i] _ hts hi) hJ hG'
      rw [hact]
      refine ⟨?_, hfire.post, ?_⟩
      · intro t ht ev hev
        obtain rfl : ts[i] = t := Option.some.inj (hts.symm.trans ht)
        rw [mem_singleton.mp hev]
        exact hfire
      · intro j t p hj hp
        by_cases hji : i = j
        · subst hji
          obtain rfl : ts[i] = t := Option.some.inj (hts.symm.trans hj)
          have hset : (P.threads.set i (k (exec s c P.shared).1))[i]? =
              some (k (exec s c P.shared).1) :=
            getElem?_set_self (List.getElem?_eq_some_iff.mp hi).1
          rw [← Option.some.inj (hset.symm.trans hp)]
          exact hrest
        · rw [getElem?_set_ne hji] at hp
          exact hlater hfire.grows j t p hj hp

/-- **The rule for runs, when knowledge grows.**  If each task is well behaved whatever the
facts are, every statement of a run is as it should be in the state it is executed in. -/
theorem byTask_growing {as : List (Action T C)} : ∀ {ts : List T} {P : Pool Res σ},
    (∀ (i : Nat) t p, ts[i]? = some t → P.threads[i]? = some p → Informed R W grows t p P.shared) →
    ts.length = P.threads.length → J P.shared →
    (∀ t ∈ started as, ∀ st, (prog t).Issues (R st) (W t st)) →
    (∀ ev ∈ (run exec prog as P).1, G ev) →
    ∀ te ∈ byTask exec prog as ts P, te.2.Grown exec W J grows te.1 := by
  induction as with
  | nil => intro ts P _ _ _ _ _ te hte; cases hte
  | cons a as ih =>
    intro ts P hthreads hlength hJ htasks hG
    obtain ⟨htask, htasks⟩ := forall_started_cons.mp htasks
    obtain ⟨hfirst, hG⟩ := forall_mem_append.mp hG
    obtain ⟨hhere, hJ', hthreads'⟩ :=
      act_growing hrefl htrans hmono hexec hthreads hlength hJ htask hfirst
    refine forall_mem_append.mpr ⟨fun te hte => ?_,
      ih hthreads' (act_threads_length exec prog a ts P hlength) hJ' htasks hG⟩
    obtain ⟨t, ht, hte⟩ := mem_flatMap.mp hte
    obtain ⟨ev, hev, rfl⟩ := mem_map.mp hte
    exact hhere t (Option.mem_toList.mp ht) ev hev

theorem run_growing {as : List (Action T C)} {st : σ} (hJ : J st)
    (htasks : ∀ t ∈ started as, ∀ st, (prog t).Issues (R st) (W t st))
    (hG : ∀ ev ∈ (run exec prog as ⟨st, []⟩).1, G ev) :
    ∀ ev ∈ (run exec prog as ⟨st, []⟩).1, ∃ t, ev.Grown exec W J grows t := by
  intro ev hev
  rw [← map_snd_byTask exec prog as [] ⟨st, []⟩ rfl] at hev
  obtain ⟨te, hte, rfl⟩ := mem_map.mp hev
  exact ⟨te.1, byTask_growing hrefl htrans hmono hexec (fun i t p hi => by simp at hi) rfl hJ htasks
    hG te hte⟩

end Growing

end Pool
