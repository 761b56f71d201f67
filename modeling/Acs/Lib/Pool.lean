/-
Any number of programs over one shared state.

A pool is the shared state and the programs under way.  An action starts a task,
lets one program execute its next statement, or runs a whole task with nothing in
between.  A run is a list of actions, so lists of actions are all interleavings; it leaves
a trace of the statements executed, each with its answer and the states before and after it.

`rely s` says which changes of the state the statement `s` survives.  In a run that is
`Undisturbed` every step of a program is such a change for the next statement of every other
one; `Prog.Guarded` makes the statements of a program right in such runs, and `Prog.Keeps`
where all programs keep an invariant `J` (`run_kept`).

Most programs are right whatever they have read.  They are checked without a state, by
`Prog.All`: the state keeps `J` as long as the statements satisfy `W`, and what else is known
about the statements of a run comes in through `G` (`run_rule`).
-/
import Acs.Lib.Prog

variable {S : Type} {Res : S → Type} {σ C T : Type}

/-- The shared state and the programs under way. -/
structure Pool {S : Type} (Res : S → Type) (σ : Type) where
  shared : σ
  threads : List (Prog Res Unit)

namespace Pool

open List

inductive Action (T C : Type) where
  | spawn (t : T)
  | step (i : Nat) (c : C)
  | atomic (t : T) (cs : Nat → C)

/-- One executed statement. -/
structure Event {S : Type} (Res : S → Type) (σ : Type) where
  stmt : S
  res : Res stmt
  (pre post : σ)

section Run

variable (exec : (s : S) → C → σ → Res s × σ) (prog : T → Prog Res Unit)

/-- Execute one statement. -/
def fire (s : S) (c : C) (st : σ) : Event Res σ :=
  ⟨s, (exec s c st).1, st, (exec s c st).2⟩

/-- The trace of a program run alone. -/
def trace (cs : Nat → C) : Prog Res Unit → σ → List (Event Res σ)
  | .done _, _ => []
  | .stmt s k, st =>
    fire exec s (cs 0) st ::
      trace (fun n => cs (n + 1)) (k (exec s (cs 0) st).1) (exec s (cs 0) st).2

def act : Action T C → Pool Res σ → List (Event Res σ) × Pool Res σ
  | .spawn t, P => ([], { P with threads := P.threads ++ [prog t] })
  | .step i c, P =>
    match P.threads[i]? with
    | some (.stmt s k) =>
      ([fire exec s c P.shared],
        ⟨(exec s c P.shared).2, P.threads.set i (k (exec s c P.shared).1)⟩)
    | _ => ([], P)
  | .atomic t cs, P =>
    (trace exec cs (prog t) P.shared, { P with shared := (prog t).after exec cs P.shared })

/-- The trace and the final pool of a run. -/
def run : List (Action T C) → Pool Res σ → List (Event Res σ) × Pool Res σ
  | [], P => ([], P)
  | a :: as, P =>
    ((act exec prog a P).1 ++ (run as (act exec prog a P).2).1, (run as (act exec prog a P).2).2)

theorem run_append (as bs : List (Action T C)) (P : Pool Res σ) :
    run exec prog (as ++ bs) P =
      ((run exec prog as P).1 ++ (run exec prog bs (run exec prog as P).2).1,
        (run exec prog bs (run exec prog as P).2).2) := by
  induction as generalizing P with
  | nil => rfl
  | cons a as ih =>
    simp only [cons_append, run, ih, append_assoc]

theorem act_step_at (i : Nat) (c : C) (P : Pool Res σ) :
    act exec prog (.step i c) P = ([], P) ∨
    ∃ s k, P.threads[i]? = some (.stmt s k) ∧
      act exec prog (.step i c) P = ([fire exec s c P.shared],
        ⟨(exec s c P.shared).2, P.threads.set i (k (exec s c P.shared).1)⟩) := by
  cases hthread : P.threads[i]? with
  | none => exact .inl (by simp only [act, hthread])
  | some p =>
    cases p with
    | done a => exact .inl (by simp only [act, hthread])
    | stmt s k => exact .inr ⟨s, k, rfl, by simp only [act, hthread]⟩

theorem act_step_cases (i : Nat) (c : C) (P : Pool Res σ) :
    act exec prog (.step i c) P = ([], P) ∨
    ∃ s k, .stmt s k ∈ P.threads ∧
      act exec prog (.step i c) P = ([fire exec s c P.shared],
        ⟨(exec s c P.shared).2, P.threads.set i (k (exec s c P.shared).1)⟩) := by
  rcases act_step_at exec prog i c P with h | ⟨s, k, hthread, h⟩
  · exact .inl h
  · exact .inr ⟨s, k, mem_of_getElem? hthread, h⟩

/-! ### The states of a trace follow one another -/

/-- Each event starts in the state the one before it left. -/
inductive Chain : σ → List (Event Res σ) → σ → Prop
  | nil (st : σ) : Chain st [] st
  | cons {ev : Event Res σ} {evs : List (Event Res σ)} {st : σ} (h : Chain ev.post evs st) :
      Chain ev.pre (ev :: evs) st

variable {evs : List (Event Res σ)} {st st' : σ} {ev : Event Res σ} {as : List (Action T C)}

theorem Chain.append {st₁ st₂ st₃ : σ} {evs' : List (Event Res σ)} (h : Chain st₁ evs st₂)
    (h' : Chain st₂ evs' st₃) : Chain st₁ (evs ++ evs') st₃ := by
  induction h with
  | nil => exact h'
  | cons _ ih => exact .cons (ih h')

theorem Chain.split {evs' : List (Event Res σ)} : ∀ {st₁ st₃ : σ},
    Chain st₁ (evs ++ evs') st₃ → ∃ st₂, Chain st₁ evs st₂ ∧ Chain st₂ evs' st₃ := by
  induction evs with
  | nil => intro st₁ st₃ h; exact ⟨st₁, .nil _, h⟩
  | cons ev evs ih =>
    intro st₁ st₃ h
    cases h with
    | cons h =>
      obtain ⟨st₂, h₁, h₂⟩ := ih h
      exact ⟨st₂, .cons h₁, h₂⟩

/-- What every event keeps holds all along the chain. -/
theorem Chain.keeps {I : σ → Prop} (h : Chain st evs st') (hstep : ∀ ev ∈ evs, I ev.pre → I ev.post)
    (hI : I st) :
    I st' ∧ ∀ ev ∈ evs, I ev.pre ∧ I ev.post := by
  induction h with
  | nil => exact ⟨hI, by simp⟩
  | @cons ev evs st h ih =>
    obtain ⟨hfirst, hrest⟩ := forall_mem_cons.mp hstep
    obtain ⟨hlast, hall⟩ := ih hrest (hfirst hI)
    exact ⟨hlast, forall_mem_cons.mpr ⟨⟨hI, hfirst hI⟩, hall⟩⟩

/-- What follows an event of a chain is a chain from the state it left. -/
theorem Chain.after_mem (h : Chain st evs st') (hev : ev ∈ evs) :
    ∃ later, Chain ev.post later st' ∧ ∀ e ∈ later, e ∈ evs := by
  induction h with
  | nil => exact absurd hev (by simp)
  | cons h ih =>
    rcases mem_cons.mp hev with rfl | hev
    · exact ⟨_, h, fun e he => mem_cons_of_mem _ he⟩
    · obtain ⟨later, hlater, hsub⟩ := ih hev
      exact ⟨later, hlater, fun e he => mem_cons_of_mem _ (hsub e he)⟩

/-- What comes before an event of a chain is a chain to the state it starts in. -/
theorem Chain.before_mem (h : Chain st evs st') (hev : ev ∈ evs) :
    ∃ earlier, Chain st earlier ev.pre ∧ ∀ e ∈ earlier, e ∈ evs := by
  induction h with
  | nil => exact absurd hev (by simp)
  | @cons e evs st h ih =>
    rcases mem_cons.mp hev with rfl | hev
    · exact ⟨[], .nil _, by simp⟩
    · obtain ⟨earlier, hearlier, hsub⟩ := ih hev
      refine ⟨e :: earlier, .cons hearlier, ?_⟩
      intro e' he'
      rcases mem_cons.mp he' with rfl | he'
      · exact mem_cons_self
      · exact mem_cons_of_mem _ (hsub e' he')

/-- Of two events of a chain one leads to the other. -/
theorem Chain.order {e₁ e₂ : Event Res σ} (h : Chain st evs st') (h₁ : e₁ ∈ evs) (h₂ : e₂ ∈ evs) :
    e₁ = e₂ ∨ (∃ mid, Chain e₁.post mid e₂.pre ∧ ∀ e ∈ mid, e ∈ evs) ∨
      ∃ mid, Chain e₂.post mid e₁.pre ∧ ∀ e ∈ mid, e ∈ evs := by
  induction h with
  | nil => exact absurd h₁ (by simp)
  | @cons e evs st h ih =>
    have hsub : ∀ {mid : List (Event Res σ)}, (∀ x ∈ mid, x ∈ evs) → ∀ x ∈ mid, x ∈ e :: evs :=
      fun hmid x hx => mem_cons_of_mem _ (hmid x hx)
    rcases mem_cons.mp h₁ with rfl | hmem₁ <;> rcases mem_cons.mp h₂ with rfl | hmem₂
    · exact .inl rfl
    · obtain ⟨mid, hchain, hmid⟩ := h.before_mem hmem₂
      exact .inr (.inl ⟨mid, hchain, hsub hmid⟩)
    · obtain ⟨mid, hchain, hmid⟩ := h.before_mem hmem₁
      exact .inr (.inr ⟨mid, hchain, hsub hmid⟩)
    · rcases ih hmem₁ hmem₂ with heq | ⟨mid, hchain, hmid⟩ | ⟨mid, hchain, hmid⟩
      · exact .inl heq
      · exact .inr (.inl ⟨mid, hchain, hsub hmid⟩)
      · exact .inr (.inr ⟨mid, hchain, hsub hmid⟩)

/-- What happens only where `I` holds, and ends it for good, happens at most once. -/
theorem Chain.atMostOnce {I : σ → Prop} {p : Event Res σ → Bool} (h : Chain st evs st')
    (hends : ∀ ev ∈ evs, p ev → I ev.pre ∧ ¬ I ev.post)
    (hstays : ∀ ev ∈ evs, ¬ I ev.pre → ¬ I ev.post) : (evs.filter p).length ≤ 1 := by
  induction h with
  | nil => simp
  | @cons ev evs st h ih =>
    obtain ⟨hfirst, hends⟩ := forall_mem_cons.mp hends
    obtain ⟨-, hstays⟩ := forall_mem_cons.mp hstays
    by_cases hp : p ev
    · have hnone : ∀ e ∈ evs, ¬ p e := by
        intro e he hpe
        have hkept := h.keeps (I := fun st => ¬ I st) hstays (hfirst hp).2
        exact (hkept.2 e he).1 (hends e he hpe).1
      rw [filter_cons_of_pos hp, filter_eq_nil_iff.mpr hnone]
      exact Nat.le_refl 1
    · rw [filter_cons_of_neg hp]
      exact ih hends hstays

theorem trace_chain (p : Prog Res Unit) : ∀ cs st,
    Chain st (trace exec cs p st) (p.after exec cs st) := by
  induction p with
  | done a => intro cs st; exact .nil st
  | stmt s k ih =>
    intro cs st
    exact @Chain.cons S Res σ (fire exec s (cs 0) st) _ _ (ih _ _ _)

theorem act_chain (a : Action T C) (P : Pool Res σ) :
    Chain P.shared (act exec prog a P).1 (act exec prog a P).2.shared := by
  cases a with
  | spawn t => exact .nil _
  | atomic t cs => exact trace_chain exec (prog t) cs P.shared
  | step i c =>
    rcases act_step_cases exec prog i c P with h | ⟨s, k, _, h⟩
    · rw [h]
      exact .nil _
    · rw [h]
      exact @Chain.cons S Res σ (fire exec s c P.shared) _ _ (.nil _)

theorem run_chain (as : List (Action T C)) : ∀ P,
    Chain P.shared (run exec prog as P).1 (run exec prog as P).2.shared := by
  induction as with
  | nil => intro P; exact .nil _
  | cons a as ih => intro P; exact (act_chain exec prog a P).append (ih _)

/-! ### What holds of every statement of a run -/

/-- The event is the execution of its statement. -/
def Event.Legal (ev : Event Res σ) : Prop :=
  ∃ c, (ev.res, ev.post) = exec ev.stmt c ev.pre

theorem fire_legal (s : S) (c : C) (st : σ) : (fire exec s c st).Legal exec :=
  ⟨c, rfl⟩

theorem Event.Legal.eq_fire (h : ev.Legal exec) :
    ∃ s c st, ev = fire exec s c st := by
  obtain ⟨s, r, pre, post⟩ := ev
  obtain ⟨c, h⟩ := h
  exact ⟨s, c, pre, by rw [fire, ← h]⟩

variable {exec prog}

def Action.task : Action T C → Option T
  | .spawn t | .atomic t _ => some t
  | .step _ _ => none

/-- The tasks a run starts. -/
def started (as : List (Action T C)) : List T :=
  as.filterMap Action.task

/-- The tasks of a run whose statements may interleave with others. -/
def spawned (as : List (Action T C)) : List T :=
  as.filterMap fun
    | .spawn t => some t
    | _ => none

@[simp] theorem started_append (as bs : List (Action T C)) :
    started (as ++ bs) = started as ++ started bs :=
  filterMap_append

@[simp] theorem spawned_append (as bs : List (Action T C)) :
    spawned (as ++ bs) = spawned as ++ spawned bs :=
  filterMap_append

theorem started_of_spawned {t : T} (h : t ∈ spawned as) :
    t ∈ started as := by
  obtain ⟨a, ha, hat⟩ := mem_filterMap.mp h
  refine mem_filterMap.mpr ⟨a, ha, ?_⟩
  cases a with
  | spawn t' => exact hat
  | _ => cases hat

theorem forall_started_cons {a : Action T C} {p : T → Prop} : (∀ t ∈ started (a :: as), p t) ↔
    (∀ t, a.task = some t → p t) ∧ ∀ t ∈ started as, p t := by
  simp [started, or_imp, forall_and]

/-- The threads a run leaves behind may issue what the spawned tasks may, whatever
the tasks that ran alone did. -/
theorem run_threads {R : (s : S) → Res s → Prop} {W : S → Prop} :
    ∀ {P : Pool Res σ}, (∀ p ∈ P.threads, p.Issues R W) →
    (∀ t ∈ spawned as, (prog t).Issues R W) →
    (∀ ev ∈ (run exec prog as P).1, R ev.stmt ev.res) →
    ∀ p ∈ (run exec prog as P).2.threads, p.Issues R W := by
  induction as with
  | nil => intro P hthreads _ _; exact hthreads
  | cons a as ih =>
    intro P hthreads htask hR
    have hsub : ∀ t ∈ spawned as, t ∈ spawned (a :: as) := fun t ht => by
      rw [spawned, mem_filterMap] at ht ⊢
      obtain ⟨b, hb, hbt⟩ := ht
      exact ⟨b, mem_cons_of_mem _ hb, hbt⟩
    obtain ⟨hhere, hR⟩ := forall_mem_append.mp hR
    refine ih (fun p hp => ?_) (fun t ht => htask t (hsub t ht)) hR
    cases a with
    | spawn t =>
      rcases mem_append.mp hp with hp | hp
      · exact hthreads p hp
      · rw [mem_singleton.mp hp]
        exact htask t (by simp [spawned])
    | atomic t cs => exact hthreads p hp
    | step i c =>
      rcases act_step_cases exec prog i c P with h | ⟨s, k, hthread, h⟩
      · rw [h] at hp
        exact hthreads p hp
      · rw [h] at hp hhere
        rcases mem_or_eq_of_mem_set hp with hold | rfl
        · exact hthreads p hold
        · exact (hthreads _ hthread).2 _ (hhere _ mem_cons_self)

end Run

end Pool

namespace Prog

variable {α β : Type}

/-- The change is one the next statement survives. -/
def Steady (rely : S → σ → σ → Prop) (p : Prog Res α) (st st' : σ) : Prop :=
  match p with
  | .done _ => True
  | .stmt s _ => rely s st st'

instance (rely : S → σ → σ → Prop) [∀ s a b, Decidable (rely s a b)] (p : Prog Res α)
    (st st' : σ) : Decidable (p.Steady rely st st') :=
  match p with
  | .done _ => .isTrue trivial
  | .stmt s _ => inferInstanceAs (Decidable (rely s st st'))

variable (exec : (s : S) → C → σ → Res s × σ)

/-- Whatever changes the next statement survives happen before each statement, every
statement that is executed as `G` allows satisfies `W`. -/
def Guarded (rely : S → σ → σ → Prop) (G W : Pool.Event Res σ → Prop) (Q : α → σ → Prop) :
    Prog Res α → σ → Prop
  | .done a, st => Q a st
  | .stmt s k, st => ∀ st' c, rely s st st' → G (Pool.fire exec s c st') →
      W (Pool.fire exec s c st') ∧ Guarded rely G W Q (k (exec s c st').1) (exec s c st').2

variable {exec} {rely : S → σ → σ → Prop} {G W : Pool.Event Res σ → Prop} {Q : α → σ → Prop}

variable {st : σ} {p : Prog Res α}

theorem Guarded.after (htrans : ∀ s a b c, rely s a b → rely s b c → rely s a c)
    {Q : Unit → σ → Prop} (hQ : ∀ a st st', Q a st → Q a st') {p : Prog Res Unit} {st' : σ}
    (h : p.Guarded exec rely G W Q st) (hsteady : p.Steady rely st st') :
    p.Guarded exec rely G W Q st' := by
  cases p with
  | done a => exact hQ a st st' h
  | stmt s k => exact fun st₂ c h₂ hG => h st₂ c (htrans s _ _ _ hsteady h₂) hG

theorem Guarded.bind {R : β → σ → Prop} {p : Prog Res β} {f : β → Prog Res α}
    (hp : p.Guarded exec rely G W R st) (hf : ∀ b st, R b st → (f b).Guarded exec rely G W Q st) :
    (p >>= f).Guarded exec rely G W Q st := by
  induction p generalizing st with
  | done b => exact hf b st hp
  | stmt s k ih =>
    intro st' c hrely hG
    obtain ⟨hW, hrest⟩ := hp st' c hrely hG
    exact ⟨hW, ih _ hrest⟩

/-- Fewer changes to survive, fewer statements to answer for, less to show of them and of
the end. -/
theorem Guarded.imp {rely' : S → σ → σ → Prop} {G' W' : Pool.Event Res σ → Prop}
    {Q' : α → σ → Prop} (h : p.Guarded exec rely G W Q st)
    (hrely : ∀ s a b, rely' s a b → rely s a b) (hG : ∀ ev, G' ev → G ev)
    (hW : ∀ ev, W ev → W' ev) (hQ : ∀ a st, Q a st → Q' a st) :
    p.Guarded exec rely' G' W' Q' st := by
  induction p generalizing st with
  | done a => exact hQ a st h
  | stmt s k ih =>
    intro st' c hs hfire
    obtain ⟨hhere, hrest⟩ := h st' c (hrely _ _ _ hs) (hG _ hfire)
    exact ⟨hW _ hhere, ih _ hrest⟩

theorem Guarded.mono {Q' : α → σ → Prop} (h : p.Guarded exec rely G W Q st)
    (hQ : ∀ a st, Q a st → Q' a st) : p.Guarded exec rely G W Q' st :=
  h.imp (fun _ _ _ h => h) (fun _ h => h) (fun _ h => h) hQ

/-- The rule for loops, with an invariant that may speak of the rounds that are left. -/
theorem Guarded.each {I : List β → σ → Prop} {f : β → Prog Res Unit} {xs : List β}
    (hround : ∀ x rest st, I (x :: rest) st →
      (f x).Guarded exec rely G W (fun _ st => I rest st) st) (h : I xs st) :
    (Prog.each xs f).Guarded exec rely G W (fun _ st => I [] st) st := by
  induction xs generalizing st with
  | nil => exact h
  | cons x rest ih => exact (hround x rest st h).bind fun _ _ h₁ => ih h₁

/-- A program whose statements are right wherever an invariant holds that others keep. -/
theorem Guarded.of_all_kept {J : σ → Prop} {R : (s : S) → Res s → Prop} {W₀ : S → Prop}
    {Q : α → Prop} (hstable : ∀ {s a b}, J a → rely s a b → J b)
    (hexec : ∀ s c st, W₀ s → J st → G (Pool.fire exec s c st) →
      R s (exec s c st).1 ∧ W (Pool.fire exec s c st) ∧ J (exec s c st).2) (hp : p.All R W₀ Q)
    (hst : J st) :
    p.Guarded exec rely G W (fun a st => Q a ∧ J st) st := by
  induction p generalizing st with
  | done a => exact ⟨hp, hst⟩
  | stmt s k ih =>
    intro st' c hrely hG
    obtain ⟨hR, hW, hJ⟩ := hexec s c st' hp.1 (hstable hst hrely) hG
    exact ⟨hW, ih _ (hp.2 _ hR) hJ⟩

theorem Guarded.of_all {R : (s : S) → Res s → Prop} {W₀ : S → Prop} {Q : α → Prop}
    (hexec : ∀ s c st, W₀ s → G (Pool.fire exec s c st) →
      R s (exec s c st).1 ∧ W (Pool.fire exec s c st)) (hp : p.All R W₀ Q) (st : σ) :
    p.Guarded exec rely G W (fun a _ => Q a) st :=
  (Guarded.of_all_kept (J := fun _ => True) (fun _ _ => trivial)
    (fun s c st h _ hG => (hexec s c st h hG).imp_right fun hW => ⟨hW, trivial⟩) hp trivial).mono
    fun _ _ h => h.1

theorem Guarded.collect {I : List β → σ → Prop} {f : β → Prog Res α} {xs : List β}
    (hround : ∀ x rest st, I (x :: rest) st →
      (f x).Guarded exec rely G W (fun _ st => I rest st) st) (h : I xs st) :
    (Prog.collect xs f).Guarded exec rely G W (fun _ st => I [] st) st := by
  induction xs generalizing st with
  | nil => exact h
  | cons x rest ih =>
    exact (hround x rest st h).bind fun _ _ h₁ => (ih h₁).bind fun _ _ h₂ => h₂

/-- The program keeps the invariant `J`, and lets the state only grow; it may rely on both. -/
abbrev Keeps (exec : (s : S) → C → σ → Res s × σ) (rely : S → σ → σ → Prop)
    (grows : σ → σ → Prop) (J : σ → Prop) (G W : Pool.Event Res σ → Prop) (Q : α → σ → Prop)
    (p : Prog Res α) (st : σ) : Prop :=
  p.Guarded exec (fun s a b => rely s a b ∧ grows a b) (fun ev => G ev ∧ J ev.pre)
    (fun ev => W ev ∧ J ev.post ∧ grows ev.pre ev.post) Q st

end Prog

namespace Pool

open List

variable (exec : (s : S) → C → σ → Res s × σ) (prog : T → Prog Res Unit)

/-- The threads that do not take part in an action. -/
def bystanders : Action T C → List (Prog Res Unit) → List (Prog Res Unit)
  | .step i _, threads => threads.eraseIdx i
  | _, threads => threads

/-- No action of the run disturbs a thread that does not take part in it. -/
def Undisturbed (rely : S → σ → σ → Prop) : List (Action T C) → Pool Res σ → Prop
  | [], _ => True
  | a :: as, P =>
    (∀ p ∈ bystanders a P.threads, p.Steady rely P.shared (act exec prog a P).2.shared) ∧
      Undisturbed rely as (act exec prog a P).2

instance Undisturbed.decidable (rely : S → σ → σ → Prop) [∀ s a b, Decidable (rely s a b)] :
    (as : List (Action T C)) → (P : Pool Res σ) → Decidable (Undisturbed exec prog rely as P)
  | [], _ => .isTrue trivial
  | a :: as, P =>
    have := Undisturbed.decidable rely as (act exec prog a P).2
    inferInstanceAs (Decidable (_ ∧ _))

variable {exec prog} {rely : S → σ → σ → Prop} {G W : Event Res σ → Prop}

theorem undisturbed_of_forall (h : ∀ s a b, rely s a b) :
    ∀ (as : List (Action T C)) (P : Pool Res σ), Undisturbed exec prog rely as P
  | [], _ => trivial
  | _ :: as, _ => by
    refine ⟨fun p _ => ?_, undisturbed_of_forall h as _⟩
    cases p with
    | done => trivial
    | stmt s k => exact h s _ _

/-- A thread after a step is one that took no part in it, or the one that did. -/
theorem mem_set_cases {threads : List (Prog Res Unit)} {i : Nat} {p q : Prog Res Unit}
    (h : q ∈ threads.set i p) : q ∈ threads.eraseIdx i ∨ q = p := by
  induction threads generalizing i with
  | nil => cases h
  | cons x xs ih =>
    cases i with
    | zero =>
      rcases mem_cons.mp h with rfl | h
      · exact .inr rfl
      · exact .inl h
    | succ i =>
      rcases mem_cons.mp h with rfl | h
      · exact .inl mem_cons_self
      · exact (ih h).imp_left (mem_cons_of_mem _)

/-! ### The rule -/

/-- What each statement keeps of the program that is left and the state, a program that runs
alone keeps to its end. -/
theorem trace_rule {M : Prog Res Unit → σ → Prop}
    (hstep : ∀ {s k st c}, M (.stmt s k) st → G (fire exec s c st) →
      W (fire exec s c st) ∧ M (k (exec s c st).1) (exec s c st).2) {p : Prog Res Unit} :
    ∀ {cs : Nat → C} {st : σ}, M p st → (∀ ev ∈ trace exec cs p st, G ev) →
      (∀ ev ∈ trace exec cs p st, W ev) ∧ M (.done ()) (p.after exec cs st) := by
  induction p with
  | done a => exact fun h _ => ⟨nofun, h⟩
  | stmt s k ih =>
    intro cs st h hG
    obtain ⟨hfirst, hG⟩ := forall_mem_cons.mp hG
    obtain ⟨hhere, hrest⟩ := hstep h hfirst
    obtain ⟨hall, hend⟩ := ih _ hrest hG
    exact ⟨forall_mem_cons.mpr ⟨hhere, hall⟩, hend⟩

section Kept

variable {J : σ → Prop} {grows : σ → σ → Prop}
variable (hrefl : ∀ s a, rely s a a) (htrans : ∀ s a b c, rely s a b → rely s b c → rely s a c)
variable (hsame : ∀ a, grows a a) (hchain : ∀ a b c, grows a b → grows b c → grows a c)

include hrefl hsame hchain

theorem trace_kept {Q : Unit → σ → Prop} {p : Prog Res Unit} {cs : Nat → C} {st : σ}
    (h : p.Keeps exec rely grows J G W Q st) (hJ : J st) (hG : ∀ ev ∈ trace exec cs p st, G ev) :
    (∀ ev ∈ trace exec cs p st, W ev ∧ J ev.pre ∧ J ev.post) ∧ J (p.after exec cs st) ∧
      grows st (p.after exec cs st) := by
  have hrun := trace_rule (W := fun ev => W ev ∧ J ev.pre ∧ J ev.post)
    (M := fun p st' => p.Keeps exec rely grows J G W Q st' ∧ J st' ∧ grows st st')
    (fun ⟨h, hJ, hgrown⟩ hG => by
      obtain ⟨⟨hW, hJ', hgrows⟩, hrest⟩ := h _ _ ⟨hrefl _ _, hsame _⟩ ⟨hG, hJ⟩
      exact ⟨⟨hW, hJ, hJ'⟩, hrest, hJ', hchain _ _ _ hgrown hgrows⟩) ⟨h, hJ, hsame st⟩ hG
  exact ⟨hrun.1, hrun.2.2⟩

include htrans

theorem act_kept {a : Action T C} {P : Pool Res σ} (hJ : J P.shared)
    (hthreads : ∀ p ∈ P.threads, p.Keeps exec rely grows J G W (fun _ _ => True) P.shared)
    (htask : ∀ t, a.task = some t → ∀ st, (prog t).Keeps exec rely grows J G W (fun _ _ => True) st)
    (hsteady : ∀ p ∈ bystanders a P.threads, p.Steady rely P.shared (act exec prog a P).2.shared)
    (hG : ∀ ev ∈ (act exec prog a P).1, G ev) :
    (∀ ev ∈ (act exec prog a P).1, W ev ∧ J ev.pre ∧ J ev.post) ∧ J (act exec prog a P).2.shared ∧
      ∀ p ∈ (act exec prog a P).2.threads,
        p.Keeps exec rely grows J G W (fun _ _ => True) (act exec prog a P).2.shared := by
  -- a thread that took no part is as good as before, if the action only lets things grow
  have hstill : grows P.shared (act exec prog a P).2.shared → ∀ p ∈ bystanders a P.threads,
      p ∈ P.threads →
      p.Keeps exec rely grows J G W (fun _ _ => True) (act exec prog a P).2.shared := by
    intro hgrows p hp hmem
    refine (hthreads p hmem).after
      (fun s a b c h h' => And.intro (htrans s a b c h.1 h'.1) (hchain a b c h.2 h'.2))
      (fun _ _ _ h => h) ?_
    have hp := hsteady p hp
    cases p with
    | done => trivial
    | stmt s k => exact ⟨hp, hgrows⟩
  cases a with
  | spawn t =>
    refine ⟨nofun, hJ, fun p hp => ?_⟩
    rcases mem_append.mp hp with hp | hp
    · exact hstill (hsame _) p hp hp
    · rw [mem_singleton.mp hp]
      exact htask t rfl _
  | atomic t cs =>
    obtain ⟨hall, hJ', hgrows⟩ := trace_kept hrefl hsame hchain (htask t rfl P.shared) hJ hG
    exact ⟨hall, hJ', fun p hp => hstill hgrows p hp hp⟩
  | step i c =>
    rcases act_step_cases exec prog i c P with h | ⟨s, k, hmem, h⟩
    · rw [h]
      exact ⟨nofun, hJ, hthreads⟩
    · have hfire : G (fire exec s c P.shared) :=
        hG _ (by rw [h]; exact mem_singleton_self _)
      obtain ⟨⟨hW, hJ', hgrows⟩, hrest⟩ :=
        hthreads _ hmem P.shared c ⟨hrefl s _, hsame _⟩ ⟨hfire, hJ⟩
      have hshared : (act exec prog (.step i c) P).2.shared = (exec s c P.shared).2 := by rw [h]
      have hlist : (act exec prog (.step i c) P).2.threads =
          P.threads.set i (k (exec s c P.shared).1) := by rw [h]
      refine ⟨fun ev hev => ?_, by rw [hshared]; exact hJ', fun p hp => ?_⟩
      · rw [h] at hev
        rw [mem_singleton.mp hev]
        exact ⟨hW, hJ, hJ'⟩
      · rw [hlist] at hp
        rcases mem_set_cases hp with hp | rfl
        · exact hstill (by rw [hshared]; exact hgrows) p hp (mem_of_mem_eraseIdx hp)
        · rw [hshared]
          exact hrest

/-- **The rule for undisturbed runs**, with an invariant of the state and a relation along
which it only grows. -/
theorem run_kept {as : List (Action T C)} : ∀ {P : Pool Res σ}, J P.shared →
    (∀ p ∈ P.threads, p.Keeps exec rely grows J G W (fun _ _ => True) P.shared) →
    (∀ t ∈ started as, ∀ st, (prog t).Keeps exec rely grows J G W (fun _ _ => True) st) →
    Undisturbed exec prog rely as P → (∀ ev ∈ (run exec prog as P).1, G ev) →
    (∀ ev ∈ (run exec prog as P).1, W ev ∧ J ev.pre ∧ J ev.post) ∧
      J (run exec prog as P).2.shared := by
  induction as with
  | nil => intro P hJ _ _ _ _; exact ⟨nofun, hJ⟩
  | cons a as ih =>
    intro P hJ hthreads htasks hrun hG
    obtain ⟨htask, htasks⟩ := forall_started_cons.mp htasks
    obtain ⟨hfirst, hG⟩ := forall_mem_append.mp hG
    obtain ⟨hhere, hJ', hthreads'⟩ := act_kept hrefl htrans hsame hchain hJ hthreads htask hrun.1 hfirst
    obtain ⟨hthere, hJend⟩ := ih hJ' hthreads' htasks hrun.2 hG
    exact ⟨forall_mem_append.mpr ⟨hhere, hthere⟩, hJend⟩

end Kept

theorem run_guarded (hrefl : ∀ s a, rely s a a)
    (htrans : ∀ s a b c, rely s a b → rely s b c → rely s a c) {as : List (Action T C)}
    {P : Pool Res σ}
    (hthreads : ∀ p ∈ P.threads, p.Guarded exec rely G W (fun _ _ => True) P.shared)
    (htasks : ∀ t ∈ started as, ∀ st, (prog t).Guarded exec rely G W (fun _ _ => True) st)
    (hrun : Undisturbed exec prog rely as P) (hG : ∀ ev ∈ (run exec prog as P).1, G ev) :
    ∀ ev ∈ (run exec prog as P).1, W ev := by
  have hkeeps : ∀ {p : Prog Res Unit} {st : σ}, p.Guarded exec rely G W (fun _ _ => True) st →
      p.Keeps exec rely (fun _ _ => True) (fun _ => True) G W (fun _ _ => True) st :=
    fun h => h.imp (fun _ _ _ h => h.1) (fun _ h => h.1) (fun _ h => ⟨h, trivial, trivial⟩) fun _ _ h => h
  obtain ⟨hall, -⟩ := run_kept hrefl htrans (fun _ => trivial) (fun _ _ _ _ _ => trivial) trivial
    (fun p hp => hkeeps (hthreads p hp)) (fun t ht st => hkeeps (htasks t ht st)) hrun hG
  exact fun ev hev => (hall ev hev).1

/-! ### Programs that are right whatever they have read -/

section Rule

variable {R : (s : S) → Res s → Prop} {W : S → Prop} {J : σ → Prop} {G : Event Res σ → Prop}

/-- What is shown of each event of a run. -/
structure Event.Sound (R : (s : S) → Res s → Prop) (W : S → Prop) (J : σ → Prop)
    (ev : Event Res σ) : Prop where
  stmt : W ev.stmt
  res : R ev.stmt ev.res
  pre : J ev.pre
  post : J ev.post

/-- **The rule for runs.**  If the tasks are well behaved and their statements keep
the state's invariant, every statement of every run is as it should be. -/
theorem run_rule
    (hexec : ∀ s c st, G (fire exec s c st) → W s → J st →
      R s (exec s c st).1 ∧ J (exec s c st).2) {as : List (Action T C)} {P : Pool Res σ}
    (hthreads : ∀ p ∈ P.threads, p.Issues R W) (hJ : J P.shared)
    (htasks : ∀ t ∈ started as, (prog t).Issues R W)
    (hG : ∀ ev ∈ (run exec prog as P).1, G ev) :
    ∀ ev ∈ (run exec prog as P).1, ev.Legal exec ∧ ev.Sound R W J := by
  have hkeeps : ∀ {p : Prog Res Unit}, p.Issues R W → ∀ st,
      p.Keeps exec (fun _ _ _ => True) (fun _ _ => True) J G
        (fun ev => ev.Legal exec ∧ W ev.stmt ∧ R ev.stmt ev.res) (fun _ _ => True) st := by
    refine fun hp st => Prog.Guarded.of_all (fun s c st hs hG => ?_) hp st
    obtain ⟨hR, hJ'⟩ := hexec s c st hG.1 hs hG.2
    exact ⟨hR, ⟨fire_legal exec s c st, hs, hR⟩, hJ', trivial⟩
  intro ev hev
  obtain ⟨⟨hlegal, hW, hR⟩, hpre, hpost⟩ := (run_kept (fun _ _ => trivial)
    (fun _ _ _ _ _ _ => trivial) (fun _ => trivial) (fun _ _ _ _ _ => trivial) hJ
    (fun p hp => hkeeps (hthreads p hp) _) (fun t ht => hkeeps (htasks t ht))
    (undisturbed_of_forall (fun _ _ _ => trivial) as P) hG).1 ev hev
  exact ⟨hlegal, hW, hR, hpre, hpost⟩

end Rule

theorem run_legal (as : List (Action T C)) : ∀ P,
    ∀ ev ∈ (run exec prog as P).1, ev.Legal exec := by
  intro P ev hev
  exact (run_rule (R := fun _ _ => True) (W := fun _ => True) (J := fun _ => True)
    (G := fun _ => True) (by simp) (fun p _ => Prog.all_true p) trivial
    (fun t _ => Prog.all_true _) (by simp) ev hev).1

/-- A run is undisturbed if every step is a change that every statement survives. -/
theorem undisturbed_of_steps {rely : σ → σ → Prop} (hrefl : ∀ a, rely a a)
    (htrans : ∀ a b c, rely a b → rely b c → rely a c)
    (hstep : ∀ ev, ev.Legal exec → G ev → rely ev.pre ev.post) :
    ∀ {as : List (Action T C)} {P : Pool Res σ}, (∀ ev ∈ (run exec prog as P).1, G ev) →
      Undisturbed exec prog (fun _ => rely) as P
  | [], _, _ => trivial
  | a :: as, P, hG => by
    obtain ⟨hfirst, hG⟩ := forall_mem_append.mp hG
    have hlegal : ∀ ev ∈ (act exec prog a P).1, ev.Legal exec :=
      fun ev hev => run_legal [a] P ev (mem_append_left _ hev)
    have hmoves : rely P.shared (act exec prog a P).2.shared :=
      ((act_chain exec prog a P).keeps (I := rely P.shared)
        (fun ev hev h => htrans _ _ _ h (hstep ev (hlegal ev hev) (hfirst ev hev))) (hrefl _)).1
    refine ⟨fun p _ => ?_, undisturbed_of_steps hrefl htrans hstep hG⟩
    cases p with
    | done => trivial
    | stmt s k => exact hmoves

/-! ### Tasks that run one after the other -/

/-- Every task of the run is carried out before the next one starts. -/
def Serial (as : List (Action T C)) : Prop :=
  ∀ a ∈ as, ∃ t cs, a = .atomic t cs

/-- **Programs that run one after the other** keep what each of them restores. -/
theorem run_serial {J : σ → Prop} {as : List (Action T C)} (hserial : Serial as) :
    ∀ {P : Pool Res σ}, J P.shared →
      (∀ t ∈ started as, ∀ st, J st → (prog t).Guarded exec (fun _ => Eq) G W (fun _ st => J st) st) →
      (∀ ev ∈ (run exec prog as P).1, G ev) → ∀ ev ∈ (run exec prog as P).1, W ev := by
  induction as with
  | nil => intro P _ _ _ ev hev; cases hev
  | cons a as ih =>
    intro P hJ htasks hG
    obtain ⟨hatomic, hlater⟩ := forall_mem_cons.mp hserial
    obtain ⟨t, cs, rfl⟩ := hatomic
    obtain ⟨htask, htasks⟩ := forall_started_cons.mp htasks
    obtain ⟨hfirst, hG⟩ := forall_mem_append.mp hG
    have hsafe : (∀ ev ∈ trace exec cs (prog t) P.shared, W ev) ∧
        J ((prog t).after exec cs P.shared) :=
      trace_rule (M := Prog.Guarded exec (fun _ => Eq) G W fun _ st => J st)
        (fun h hG => h _ _ rfl hG) (htask t rfl P.shared hJ) hfirst
    exact forall_mem_append.mpr ⟨hsafe.1, ih hlater hsafe.2 htasks hG⟩

end Pool
