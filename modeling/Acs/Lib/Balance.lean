/-
What programs earn and spend.

Every statement is worth something, which may depend on its answer.  `Prog.Pays` bounds
what a program is worth from below, along every path of answers from its start to its end;
what it earns in one place it may spend in another.  A run whose programs have all come to
their end is worth at least what they pay together (`Pool.run_pays`).  So that every
statement of one kind is matched by one of another kind is two such bounds.
-/
import Acs.Lib.Pool

/-- The sum over a list. -/
def tally {β : Type} (worth : β → Int) : List β → Int
  | [] => 0
  | x :: xs => worth x + tally worth xs

section Tally

variable {β : Type} {worth : β → Int}

theorem tally_append (xs ys : List β) : tally worth (xs ++ ys) = tally worth xs + tally worth ys := by
  induction xs with
  | nil => simp [tally]
  | cons x xs ih => simp only [List.cons_append, tally, ih, Int.add_assoc]

theorem tally_congr {worth' : β → Int} {xs : List β} (h : ∀ x ∈ xs, worth x = worth' x) :
    tally worth xs = tally worth' xs := by
  induction xs with
  | nil => rfl
  | cons x xs ih =>
    rw [tally, tally, h x List.mem_cons_self, ih fun y hy => h y (List.mem_cons_of_mem _ hy)]

theorem tally_sub {worth' : β → Int} (xs : List β) :
    tally (fun x => worth x - worth' x) xs = tally worth xs - tally worth' xs := by
  induction xs with
  | nil => rfl
  | cons x xs ih =>
    rw [tally, tally, tally, ih]
    omega

theorem tally_countP (p : β → Bool) (xs : List β) :
    tally (fun x => if p x then 1 else 0) xs = xs.countP p := by
  induction xs with
  | nil => rfl
  | cons x xs ih =>
    rw [tally, List.countP_cons, ih]
    split <;> omega

end Tally

namespace Prog

variable {S : Type} {Res : S → Type} {α β : Type}

/-- As long as answers satisfy `R`, the statements up to the end of the program are worth at
least `n`. -/
def Pays (R : (s : S) → Res s → Prop) (worth : (s : S) → Res s → Int) : Prog Res α → Int → Prop
  | .done _, n => n ≤ 0
  | .stmt s k, n => ∀ r, R s r → (k r).Pays R worth (n - worth s r)

variable {R : (s : S) → Res s → Prop} {worth : (s : S) → Res s → Int}

variable {n : Int} {p : Prog Res α} {g : β → Prog Res α}

theorem Pays.mono {m : Int} (h : p.Pays R worth n) (hmn : m ≤ n) :
    p.Pays R worth m := by
  induction p generalizing m n with
  | done a => exact Int.le_trans hmn h
  | stmt s k ih => exact fun r hr => ih r (h r hr) (by omega)

/-- The rule for sequencing: the payments add up. -/
theorem Pays.bind {Q : β → Prop} {p : Prog Res β} {m : Int} (hp : p.Pays R worth m)
    (hQ : p.All R (fun _ => True) Q) (hg : ∀ b, Q b → (g b).Pays R worth n) :
    (p >>= g).Pays R worth (m + n) := by
  induction p generalizing m with
  | done b => exact (hg b hQ).mono (by have : m ≤ 0 := hp; omega)
  | stmt s k ih =>
    intro r hr
    exact (ih r (hp r hr) (hQ.2 r hr)).mono (by omega)

theorem pays_free {W : S → Prop} {Q : α → Prop} (h : p.All R W Q)
    (hfree : ∀ s r, W s → R s r → 0 ≤ worth s r) : p.Pays R worth 0 := by
  induction p with
  | done a => exact Int.le_refl 0
  | stmt s k ih =>
    intro r hr
    exact (ih r (h.2 r hr)).mono (by have := hfree s r h.1 hr; omega)

theorem Pays.after {W : S → Prop} {Q : β → Prop} {p : Prog Res β} (hp : p.All R W Q)
    (hfree : ∀ s r, W s → R s r → 0 ≤ worth s r) (hg : ∀ b, Q b → (g b).Pays R worth n) :
    (p >>= g).Pays R worth n := by
  rw [← Int.zero_add n]
  exact (pays_free hp hfree).bind (hp.mono_stmt fun _ _ => trivial) hg

theorem Pays.before {p : Prog Res β} (hp : p.Pays R worth n) (hg : ∀ b, (g b).Pays R worth 0) :
    (p >>= g).Pays R worth n := by
  rw [← Int.add_zero n]
  exact hp.bind (all_true _) fun b _ => hg b

theorem Pays.perform {s : S} {g : Res s → Prog Res α}
    (h : ∀ r, R s r → (g r).Pays R worth (n - worth s r)) :
    (Prog.perform s >>= g).Pays R worth n :=
  h

theorem pays_collect {xs : List β} {n : β → Int} (h : ∀ x ∈ xs, (g x).Pays R worth (n x)) :
    (collect xs g).Pays R worth (tally n xs) := by
  induction xs with
  | nil => exact Int.le_refl 0
  | cons x xs ih =>
    refine (h x List.mem_cons_self).bind (all_true _) fun a _ => ?_
    exact (ih fun y hy => h y (List.mem_cons_of_mem _ hy)).before fun as => Int.le_refl 0

theorem Pays.lift {S' : Type} {Res' : S' → Type} {f : S → S'}
    {answer : (s : S) → Res' (f s) → Res s} {R' : (s : S') → Res' s → Prop}
    {worth' : (s : S') → Res' s → Int} (h : p.Pays R worth n)
    (hR : ∀ s r, R' (f s) r → R s (answer s r))
    (hworth : ∀ s r, worth' (f s) r = worth s (answer s r)) :
    (p.lift f answer).Pays R' worth' n := by
  induction p generalizing n with
  | done a => exact h
  | stmt s k ih =>
    intro r hr
    rw [hworth]
    exact ih _ (h _ (hR s r hr))

end Prog

namespace Pool

variable {S : Type} {Res : S → Type} {σ C T : Type}

/-- What the statements of a run are worth. -/
def earned (worth : (s : S) → Res s → Int) (evs : List (Event Res σ)) : Int :=
  tally (fun ev => worth ev.stmt ev.res) evs

/-- What programs under way will pay together. -/
def Owes (R : (s : S) → Res s → Prop) (worth : (s : S) → Res s → Int) :
    List (Prog Res Unit) → Int → Prop
  | [], n => n ≤ 0
  | p :: ps, n => ∃ m, p.Pays R worth m ∧ Owes R worth ps (n - m)

variable {R : (s : S) → Res s → Prop} {worth : (s : S) → Res s → Int}

variable {ps : List (Prog Res Unit)}

theorem Owes.spawn {p : Prog Res Unit} (hp : p.Pays R worth 0) :
    ∀ {n : Int}, Owes R worth ps n → Owes R worth (ps ++ [p]) n := by
  induction ps with
  | nil =>
    intro n h
    have hn : n ≤ 0 := h
    exact ⟨0, hp, by show n - 0 ≤ 0; omega⟩
  | cons q ps ih =>
    rintro n ⟨m, hq, hps⟩
    exact ⟨m, hq, ih hps⟩

theorem Owes.step {s : S} {k : Res s → Prog Res Unit} {r : Res s} (hr : R s r) :
    ∀ {i : Nat} {n : Int}, Owes R worth ps n →
      ps[i]? = some (.stmt s k) → Owes R worth (ps.set i (k r)) (n - worth s r) := by
  induction ps with
  | nil => nofun
  | cons q ps ih =>
    rintro i n ⟨m, hq, hps⟩ hi
    cases i with
    | zero =>
      cases Option.some.inj hi
      refine ⟨m - worth s r, hq r hr, ?_⟩
      have heq : n - worth s r - (m - worth s r) = n - m := by omega
      rw [heq]
      exact hps
    | succ i =>
      refine ⟨m, hq, ?_⟩
      have heq : n - worth s r - m = n - m - worth s r := by omega
      rw [heq]
      exact ih hps hi

theorem Owes.done (hdone : ∀ p ∈ ps, p = .done ()) :
    ∀ {n : Int}, Owes R worth ps n → n ≤ 0 := by
  induction ps with
  | nil => exact fun h => h
  | cons p ps ih =>
    rintro n ⟨m, hp, hps⟩
    rw [hdone p List.mem_cons_self] at hp
    have hm : m ≤ 0 := hp
    have := ih (fun q hq => hdone q (List.mem_cons_of_mem _ hq)) hps
    omega

variable {exec : (s : S) → C → σ → Res s × σ} {prog : T → Prog Res Unit}

theorem trace_pays {p : Prog Res Unit} : ∀ {cs : Nat → C} {st : σ} {n : Int},
    p.Pays R worth n → (∀ ev ∈ trace exec cs p st, R ev.stmt ev.res) →
    n ≤ earned worth (trace exec cs p st) := by
  induction p with
  | done a => exact fun h _ => h
  | stmt s k ih =>
    intro cs st n h hR
    have hhere : R s (exec s (cs 0) st).1 := hR (fire exec s (cs 0) st) List.mem_cons_self
    have hrest := ih _ (h _ hhere) fun ev hev => hR ev (List.mem_cons_of_mem _ hev)
    show n ≤ worth s (exec s (cs 0) st).1 + earned worth (trace exec _ _ _)
    omega

/-- **A run whose programs have ended is worth what they pay.** -/
theorem run_pays {as : List (Action T C)} : ∀ {P : Pool Res σ} {n : Int},
    Owes R worth P.threads n → (∀ t ∈ started as, (prog t).Pays R worth 0) →
    (∀ ev ∈ (run exec prog as P).1, R ev.stmt ev.res) →
    (∀ p ∈ (run exec prog as P).2.threads, p = .done ()) →
    n ≤ earned worth (run exec prog as P).1 := by
  induction as with
  | nil => exact fun howes _ _ hdone => howes.done hdone
  | cons a as ih =>
    intro P n howes htasks hR hdone
    obtain ⟨htask, htasks'⟩ := forall_started_cons.mp htasks
    obtain ⟨hfirst, hR'⟩ := List.forall_mem_append.mp hR
    have hhere : earned worth (run exec prog (a :: as) P).1 =
        earned worth (act exec prog a P).1 +
          earned worth (run exec prog as (act exec prog a P).2).1 := tally_append _ _
    rw [hhere]
    cases a with
    | spawn t =>
      have hrest := ih (howes.spawn (htask t rfl)) htasks' hR' hdone
      show n ≤ 0 + _
      omega
    | atomic t cs =>
      have howes' : Owes R worth (act exec prog (.atomic t cs) P).2.threads n := howes
      have hrest := ih howes' htasks' hR' hdone
      have htrace := trace_pays (htask t rfl) hfirst
      show n ≤ earned worth (trace exec cs (prog t) P.shared) + _
      omega
    | step i c =>
      rcases act_step_at exec prog i c P with hact | ⟨s, k, hi, hact⟩
      · have howes' : Owes R worth (act exec prog (.step i c) P).2.threads n := by
          rw [hact]
          exact howes
        have hrest := ih howes' htasks' hR' hdone
        have hnone : earned worth (act exec prog (.step i c) P).1 = 0 := by
          rw [hact]
          rfl
        omega
      · have hans : R s (exec s c P.shared).1 :=
          hfirst (fire exec s c P.shared) (by simp [hact])
        have howes' : Owes R worth (act exec prog (.step i c) P).2.threads
            (n - worth s (exec s c P.shared).1) := by
          rw [hact]
          exact howes.step hans hi
        have hrest := ih howes' htasks' hR' hdone
        have hone : earned worth (act exec prog (.step i c) P).1 =
            worth s (exec s c P.shared).1 := by
          rw [hact]
          exact Int.add_zero _
        omega

end Pool
