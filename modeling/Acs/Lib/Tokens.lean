/-
Things a program is handed once and may use up once.

A statement's answer may hand the program tokens (a claim it has won, the rows it has
listed) and later statements use them up.  `Prog.Spends` says that along
every path of answers a program uses up only tokens it holds, each of them once.  As long as
each is handed out once, no two programs of a pool hold the same one, so whatever `held`
says of a token in the shared state is still there when its owner comes to use it
(`run_tokens`).
-/
import Acs.Lib.Pool
import Mathlib.Data.Set.Insert

variable {S : Type} {Res : S → Type} {σ C T τ : Type}

namespace Prog

variable {α β : Type} (issues : (s : S) → Res s → Set τ) (spends : S → Option τ)

/-- What is held after a statement. -/
def heldAfter (s : S) (r : Res s) (held : Set τ) : Set τ :=
  {t | t ∈ held ∧ spends s ≠ some t ∨ t ∈ issues s r}

/-- As long as answers satisfy `R`, only tokens that are held are used up. -/
def Spends (R : (s : S) → Res s → Prop) (Q : α → Set τ → Prop) : Prog Res α → Set τ → Prop
  | .done a, held => Q a held
  | .stmt s k, held =>
    (∀ t, spends s = some t → t ∈ held) ∧
      ∀ r, R s r → Spends R Q (k r) (heldAfter issues spends s r held)

variable {issues spends} {R : (s : S) → Res s → Prop}

theorem Spends.bind {Q' : β → Set τ → Prop} {Q : α → Set τ → Prop} {p : Prog Res β}
    {f : β → Prog Res α} {held : Set τ} (hp : p.Spends issues spends R Q' held)
    (hf : ∀ b held, Q' b held → (f b).Spends issues spends R Q held) :
    (p >>= f).Spends issues spends R Q held := by
  induction p generalizing held with
  | done b => exact hf b held hp
  | stmt s k ih => exact ⟨hp.1, fun r hr => ih r (hp.2 r hr)⟩

theorem Spends.of_all {Q : α → Prop} {p : Prog Res α}
    (h : p.All R (fun s => spends s = none) Q) (held : Set τ) :
    p.Spends issues spends R (fun a _ => Q a) held := by
  induction p generalizing held with
  | done a => exact h
  | stmt s k ih =>
    refine ⟨fun t ht => ?_, fun r hr => ih r (h.2 r hr) _⟩
    rw [h.1] at ht
    cases ht

/-- A loop keeps what its rounds to come need. -/
theorem spends_each {I : List β → Set τ → Prop} {f : β → Prog Res Unit} {xs : List β}
    (hround : ∀ x rest held, I (x :: rest) held →
      (f x).Spends issues spends R (fun _ held' => I rest held') held)
    {held : Set τ} (h : I xs held) :
    (each xs f).Spends issues spends R (fun _ held' => I [] held') held := by
  induction xs generalizing held with
  | nil => exact h
  | cons x rest ih => exact (hround x rest held h).bind fun _ held' h' => ih h'

theorem Spends.mono {Q Q' : α → Set τ → Prop} {p : Prog Res α} {held : Set τ}
    (h : p.Spends issues spends R Q held) (hQ : ∀ a held, Q a held → Q' a held) :
    p.Spends issues spends R Q' held := by
  induction p generalizing held with
  | done a => exact hQ a held h
  | stmt s k ih => exact ⟨h.1, fun r hr => ih r (h.2 r hr)⟩

end Prog

namespace Pool

variable {exec : (s : S) → C → σ → Res s × σ} {prog : T → Prog Res Unit}
variable {issues : (s : S) → Res s → Set τ} {spends : S → Option τ} {held : σ → Set τ}
variable {R : (s : S) → Res s → Prop} {J : σ → Prop} {G : Event Res σ → Prop}

/-- What is shown of each event of a run. -/
structure Event.Owned (exec : (s : S) → C → σ → Res s × σ) (spends : S → Option τ)
    (held : σ → Set τ) (J : σ → Prop) (ev : Event Res σ) : Prop where
  legal : ev.Legal exec
  stmt : ∀ t, spends ev.stmt = some t → t ∈ held ev.pre
  pre : J ev.pre
  post : J ev.post

/-- What a statement does to the tokens: those it does not use up stay, and those it hands
out are new. -/
structure Event.Honest (issues : (s : S) → Res s → Set τ) (spends : S → Option τ)
    (held : σ → Set τ) (ev : Event Res σ) : Prop where
  stays : ∀ t ∈ held ev.pre, spends ev.stmt ≠ some t → t ∈ held ev.post
  fresh : ∀ t ∈ issues ev.stmt ev.res, t ∉ held ev.pre ∧ t ∈ held ev.post

section Owned

/-- A program that owns `mine`, among programs that own `others`. -/
structure Owns (issues : (s : S) → Res s → Set τ) (spends : S → Option τ) (held : σ → Set τ)
    (R : (s : S) → Res s → Prop) (p : Prog Res Unit) (mine others : Set τ) (st : σ) : Prop where
  program : p.Spends issues spends R (fun _ _ => True) mine
  holds : ∀ t ∈ mine, t ∈ held st
  rest : ∀ t ∈ others, t ∈ held st
  apart : ∀ t ∈ mine, t ∉ others

/-- Who owns what: each thread its own tokens, no two threads the same one. -/
structure Shares (issues : (s : S) → Res s → Set τ) (spends : S → Option τ) (held : σ → Set τ)
    (R : (s : S) → Res s → Prop) (own : Nat → Set τ) (P : Pool Res σ) : Prop where
  program : ∀ (i : Nat) p, P.threads[i]? = some p →
    p.Spends issues spends R (fun _ _ => True) (own i)
  holds : ∀ i, ∀ t ∈ own i, t ∈ held P.shared
  apart : ∀ i j, i ≠ j → ∀ t ∈ own i, t ∉ own j
  none : ∀ i, P.threads.length ≤ i → own i = ∅

theorem Shares.owns {own : Nat → Set τ} {P : Pool Res σ} (h : Shares issues spends held R own P)
    {i : Nat} {p : Prog Res Unit} (hp : P.threads[i]? = some p) :
    Owns issues spends held R p (own i) {t | ∃ j, j ≠ i ∧ t ∈ own j} P.shared where
  program := h.program i p hp
  holds := h.holds i
  rest := fun t ⟨j, _, ht⟩ => h.holds j t ht
  apart := fun t ht ⟨j, hj, htj⟩ => h.apart i j (Ne.symm hj) t ht htj

variable (hexec : ∀ s c st, G (fire exec s c st) → (∀ t, spends s = some t → t ∈ held st) → J st →
  (fire exec s c st).Honest issues spends held ∧ R s (exec s c st).1 ∧ J (exec s c st).2)

include hexec

theorem owns_step {s : S} {k : Res s → Prog Res Unit} {mine others : Set τ} {st : σ} {c : C}
    (h : Owns issues spends held R (.stmt s k) mine others st) (hJ : J st)
    (hG : G (fire exec s c st)) :
    (fire exec s c st).Owned exec spends held J ∧
      Owns issues spends held R (k (exec s c st).1)
        (Prog.heldAfter issues spends s (exec s c st).1 mine) others (exec s c st).2 := by
  have hstmt : ∀ t, spends s = some t → t ∈ held st := fun t ht => h.holds t (h.program.1 t ht)
  obtain ⟨hhonest, hR, hJ'⟩ := hexec s c st hG hstmt hJ
  refine ⟨⟨fire_legal exec s c st, hstmt, hJ, hJ'⟩, h.program.2 _ hR, ?_, ?_, ?_⟩
  · rintro t (⟨ht, hkept⟩ | ht)
    · exact hhonest.stays t (h.holds t ht) hkept
    · exact (hhonest.fresh t ht).2
  · intro t ht
    exact hhonest.stays t (h.rest t ht) fun hspent => h.apart t (h.program.1 t hspent) ht
  · rintro t (⟨ht, -⟩ | ht)
    · exact h.apart t ht
    · exact fun hother => (hhonest.fresh t ht).1 (h.rest t hother)

theorem trace_owns {p : Prog Res Unit} {cs : Nat → C} {mine others : Set τ} {st : σ}
    (h : Owns issues spends held R p mine others st) (hJ : J st)
    (hG : ∀ ev ∈ trace exec cs p st, G ev) :
    (∀ ev ∈ trace exec cs p st, ev.Owned exec spends held J) ∧ J (p.after exec cs st) ∧
      ∀ t ∈ others, t ∈ held (p.after exec cs st) := by
  obtain ⟨hall, hJ', _, howns⟩ := trace_rule (W := Event.Owned exec spends held J)
    (M := fun p st => J st ∧ ∃ mine, Owns issues spends held R p mine others st)
    (fun ⟨hJ, _, h⟩ hG => by
      obtain ⟨hfirst, hrest⟩ := owns_step hexec h hJ hG
      exact ⟨hfirst, hfirst.post, _, hrest⟩) ⟨hJ, mine, h⟩ hG
  exact ⟨hall, hJ', howns.rest⟩

theorem act_shares {a : Action T C} {own : Nat → Set τ} {P : Pool Res σ}
    (h : Shares issues spends held R own P) (hJ : J P.shared)
    (htask : ∀ t, a.task = some t → (prog t).Spends issues spends R (fun _ _ => True) ∅)
    (hG : ∀ ev ∈ (act exec prog a P).1, G ev) :
    (∀ ev ∈ (act exec prog a P).1, ev.Owned exec spends held J) ∧
      J (act exec prog a P).2.shared ∧
      ∃ own', Shares issues spends held R own' (act exec prog a P).2 := by
  cases a with
  | spawn t =>
    refine ⟨by simp [act], hJ, own, ?_, h.holds, h.apart, ?_⟩
    · intro i p hp
      by_cases hi : i < P.threads.length
      · exact h.program i p (by rwa [act, List.getElem?_append_left hi] at hp)
      · rw [act, List.getElem?_append_right (Nat.le_of_not_lt hi)] at hp
        have hp' : p = prog t := by simpa using List.mem_of_getElem? hp
        rw [hp', h.none i (Nat.le_of_not_lt hi)]
        exact htask t rfl
    · intro i hi
      refine h.none i (Nat.le_trans ?_ hi)
      simp [act]
  | atomic t cs =>
    have howns : Owns issues spends held R (prog t) ∅ {t | ∃ j, t ∈ own j} P.shared :=
      ⟨htask t rfl, fun t ht => ht.elim, fun t ht => ht.elim (h.holds · t), fun t ht => ht.elim⟩
    obtain ⟨hall, hlast, hothers⟩ := trace_owns hexec howns hJ hG
    exact ⟨hall, hlast, own, h.program, fun i t ht => hothers t ⟨i, ht⟩, h.apart, h.none⟩
  | step i c =>
    rcases act_step_at exec prog i c P with hact | ⟨s, k, hi, hact⟩
    · rw [hact]
      exact ⟨by simp, hJ, own, h⟩
    · have hlt : i < P.threads.length := (List.getElem?_eq_some_iff.mp hi).1
      have hG' : G (fire exec s c P.shared) := hG _ (by rw [hact]; exact List.mem_cons_self)
      obtain ⟨hfire, howns⟩ := owns_step hexec (h.owns hi) hJ hG'
      rw [hact]
      refine ⟨fun ev hev => by rwa [List.mem_singleton.mp hev], hfire.post,
        fun j => if j = i then Prog.heldAfter issues spends s (exec s c P.shared).1 (own i)
          else own j, ?_, ?_, ?_, ?_⟩
      · intro j p hp
        by_cases hji : j = i
        · subst hji
          rw [List.getElem?_set_self hlt] at hp
          rw [← Option.some.inj hp, if_pos rfl]
          exact howns.program
        · rw [List.getElem?_set_ne (Ne.symm hji)] at hp
          rw [if_neg hji]
          exact h.program j p hp
      · intro j t ht
        by_cases hji : j = i
        · rw [if_pos hji] at ht
          exact howns.holds t ht
        · rw [if_neg hji] at ht
          exact howns.rest t ⟨j, hji, ht⟩
      · intro j j' hne t ht ht'
        by_cases hj : j = i <;> by_cases hj' : j' = i
        · exact hne (hj.trans hj'.symm)
        · rw [if_pos hj] at ht
          rw [if_neg hj'] at ht'
          exact howns.apart t ht ⟨j', hj', ht'⟩
        · rw [if_neg hj] at ht
          rw [if_pos hj'] at ht'
          exact howns.apart t ht' ⟨j, hj, ht⟩
        · rw [if_neg hj] at ht
          rw [if_neg hj'] at ht'
          exact h.apart j j' hne t ht ht'
      · intro j hj
        rw [List.length_set] at hj
        rw [if_neg (by omega)]
        exact h.none j hj

theorem run_shares {as : List (Action T C)} : ∀ {own : Nat → Set τ} {P : Pool Res σ},
    Shares issues spends held R own P → J P.shared →
    (∀ t ∈ started as, (prog t).Spends issues spends R (fun _ _ => True) ∅) →
    (∀ ev ∈ (run exec prog as P).1, G ev) →
    ∀ ev ∈ (run exec prog as P).1, ev.Owned exec spends held J := by
  induction as with
  | nil => intro own P _ _ _ _ ev hev; cases hev
  | cons a as ih =>
    intro own P h hJ htasks hG
    obtain ⟨htask, htasks⟩ := forall_started_cons.mp htasks
    obtain ⟨hfirst, hG⟩ := List.forall_mem_append.mp hG
    obtain ⟨hhere, hJ', own', h'⟩ := act_shares hexec h hJ htask hfirst
    exact List.forall_mem_append.mpr ⟨hhere, ih h' hJ' htasks hG⟩

/-- **The rule for runs, with tokens.**  What a statement uses up is held at that time. -/
theorem run_tokens {as : List (Action T C)} {st : σ} (hJ : J st)
    (hspends : ∀ t ∈ started as, (prog t).Spends issues spends R (fun _ _ => True) ∅)
    (hG : ∀ ev ∈ (run exec prog as ⟨st, []⟩).1, G ev) :
    ∀ ev ∈ (run exec prog as ⟨st, []⟩).1, ev.Owned exec spends held J := by
  -- Nobody owns anything before the first action.
  have hshares : Shares issues spends held R (fun _ => ∅) (⟨st, []⟩ : Pool Res σ) :=
    ⟨fun i p hp => by simp at hp, fun i t ht => ht.elim, fun i j _ t ht => ht.elim, fun _ _ => rfl⟩
  exact run_shares hexec hshares hJ hspends hG

end Owned

end Pool
