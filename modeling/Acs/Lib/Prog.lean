/-
Programs that reach shared state one atomic statement at a time.

A handler of a server issues a statement (a query, an update, a message to the other
side), looks at the answer, and goes on.  `Prog` is the free monad of such programs: `S`
is the type of statements and `Res s` the type of answers to `s`.  What a statement does
to the shared state is supplied when the program runs, alone (`run`) or among others
(`Acs.Lib.Pool`).

`All R W Q` says of a program that if every answer satisfies `R`, then every statement it
issues satisfies `W` and its result satisfies `Q`.
-/
import Mathlib.Tactic.Basic

variable {S : Type} {Res : S → Type} {α β : Type}

/-- A program with statements in `S`, answered in `Res`, that returns an `α`. -/
inductive Prog {S : Type} (Res : S → Type) (α : Type) : Type where
  | done (a : α) : Prog Res α
  | stmt (s : S) (k : Res s → Prog Res α) : Prog Res α

namespace Prog

open List

def bind : Prog Res α → (α → Prog Res β) → Prog Res β
  | .done a, f => f a
  | .stmt s k, f => .stmt s fun r => (k r).bind f

instance : Monad (Prog Res) where
  pure := .done
  bind := bind

/-- Issue one statement and return its answer. -/
def perform (s : S) : Prog Res (Res s) :=
  .stmt s .done

/-- Run a program for each element of a list, in order. -/
def each : List β → (β → Prog Res Unit) → Prog Res Unit
  | [], _ => .done ()
  | x :: xs, f => (f x).bind fun _ => each xs f

/-- The same, with the results. -/
def collect : List β → (β → Prog Res α) → Prog Res (List α)
  | [], _ => .done []
  | x :: xs, f => (f x).bind fun a => (collect xs f).bind fun as => .done (a :: as)

/-- The same, until one has no result. -/
def gather : List β → (β → Prog Res (Option α)) → Prog Res (Option (List α))
  | [], _ => .done (some [])
  | x :: xs, f => (f x).bind fun
    | none => .done none
    | some a => (gather xs f).bind fun as => .done (as.map (a :: ·))

/-- The program among more statements. -/
def lift {S' : Type} {Res' : S' → Type} (f : S → S') (answer : (s : S) → Res' (f s) → Res s) :
    Prog Res α → Prog Res' α
  | .done a => .done a
  | .stmt s k => .stmt (f s) fun r => (k (answer s r)).lift f answer

theorem lift_bind {S' : Type} {Res' : S' → Type} (f : S → S')
    (answer : (s : S) → Res' (f s) → Res s) (p : Prog Res α) (g : α → Prog Res β) :
    (p >>= g).lift f answer = p.lift f answer >>= fun a => (g a).lift f answer := by
  induction p with
  | done a => rfl
  | stmt s k ih =>
    exact congrArg (Prog.stmt (f s)) (funext fun r => ih (answer s r))

/-! ### What a program may issue -/

/-- Every statement satisfies `W` and the result `Q`, as long as answers satisfy `R`. -/
def All (R : (s : S) → Res s → Prop) (W : S → Prop) (Q : α → Prop) : Prog Res α → Prop
  | .done a => Q a
  | .stmt s k => W s ∧ ∀ r, R s r → (k r).All R W Q

/-- The same, whatever the result is. -/
abbrev Issues (R : (s : S) → Res s → Prop) (W : S → Prop) (p : Prog Res α) : Prop :=
  p.All R W fun _ => True

section All

variable {R : (s : S) → Res s → Prop} {W : S → Prop}

variable {f : α → Prog Res β} {p : Prog Res α} {Q : α → Prop} {xs : List β}

theorem all_bind_iff {Q : β → Prop} :
    All R W Q (p.bind f) ↔ All R W (fun a => All R W Q (f a)) p := by
  induction p with
  | done a => exact Iff.rfl
  | stmt s k ih =>
    exact and_congr_right fun _ => forall_congr' fun r => imp_congr_right fun _ => ih r

@[simp] theorem all_bind {Q : β → Prop} :
    All R W Q (p >>= f) ↔ All R W (fun a => All R W Q (f a)) p :=
  all_bind_iff

theorem All.mono {Q' : α → Prop} (h : All R W Q p) (hQ : ∀ a, Q a → Q' a) :
    All R W Q' p := by
  induction p with
  | done a => exact hQ a h
  | stmt s k ih => exact ⟨h.1, fun r hr => ih r (h.2 r hr)⟩

theorem All.mono_stmt {W' : S → Prop} (h : All R W Q p) (hW : ∀ s, W s → W' s) : All R W' Q p := by
  induction p with
  | done a => exact h
  | stmt s k ih => exact ⟨hW s h.1, fun r hr => ih r (h.2 r hr)⟩

/-- Two properties of the statements at once, under stronger assumptions on the answers. -/
theorem All.both {R₁ R₂ : (s : S) → Res s → Prop} {W₁ W₂ : S → Prop} (h₁ : All R₁ W₁ Q p)
    (h₂ : Issues R₂ W₂ p) (hR₁ : ∀ s r, R s r → R₁ s r) (hR₂ : ∀ s r, R s r → R₂ s r) :
    All R (fun s => W₁ s ∧ W₂ s) Q p := by
  induction p with
  | done a => exact h₁
  | stmt s k ih =>
    exact ⟨⟨h₁.1, h₂.1⟩, fun r hr => ih r (h₁.2 r (hR₁ s r hr)) (h₂.2 r (hR₂ s r hr))⟩

theorem All.bind {P : α → Prop} {Q : β → Prop} (hp : All R W P p) (hf : ∀ a, P a → All R W Q (f a)) :
    All R W Q (p >>= f) :=
  all_bind.mpr (hp.mono hf)

theorem all_perform {s : S} (h : W s) : All R W (R s) (perform s : Prog Res (Res s)) :=
  ⟨h, fun _ hr => hr⟩

theorem all_ask {s : S} {f : Res s → Prog Res α} (h : W s) (hf : ∀ r, R s r → All R W Q (f r)) :
    All R W Q (perform s >>= f) :=
  (all_perform h).bind hf

theorem all_true (p : Prog Res α) : Issues R (fun _ => True) p := by
  induction p with
  | done a => trivial
  | stmt s k ih => exact ⟨trivial, fun r _ => ih r⟩

theorem all_each {f : β → Prog Res Unit} (h : ∀ x ∈ xs, Issues R W (f x)) :
    Issues R W (each xs f) := by
  induction xs with
  | nil => trivial
  | cons x xs ih =>
    exact (h x mem_cons_self).bind fun _ _ =>
      ih fun y hy => h y (mem_cons_of_mem _ hy)

theorem all_collect {f : β → Prog Res α} (h : ∀ x ∈ xs, Issues R W (f x)) :
    Issues R W (collect xs f) := by
  induction xs with
  | nil => trivial
  | cons x xs ih =>
    exact (h x mem_cons_self).bind fun _ _ =>
      (ih fun y hy => h y (mem_cons_of_mem _ hy)).bind fun _ _ => trivial

theorem All.lift {S' : Type} {Res' : S' → Type} {f : S → S'} {answer : (s : S) → Res' (f s) → Res s}
    {R' : (s : S') → Res' s → Prop} {W' : S' → Prop} (h : All R W Q p)
    (hR : ∀ s r, R' (f s) r → R s (answer s r)) (hW : ∀ s, W s → W' (f s)) :
    All R' W' Q (p.lift f answer) := by
  induction p with
  | done a => exact h
  | stmt s k ih => exact ⟨hW s h.1, fun r hr => ih _ (h.2 _ (hR s r hr))⟩

end All

/-- As long as answers satisfy `R`, at some point the program issues a statement and gets
an answer that satisfy `G`. -/
def Meets (R G : (s : S) → Res s → Prop) : Prog Res α → Prop
  | .done _ => False
  | .stmt s k => ∀ r, R s r → G s r ∨ (k r).Meets R G

theorem Meets.after {R G : (s : S) → Res s → Prop} {Q : α → Prop} {p : Prog Res α}
    {f : α → Prog Res β} (hp : All R (fun _ => True) Q p)
    (hf : ∀ a, Q a → Meets R G (f a)) : Meets R G (p >>= f) := by
  induction p with
  | done a => exact hf a hp
  | stmt s k ih => exact fun r hr => .inr (ih r (hp.2 r hr))

end Prog

/-! ### Statements that get lost -/

/-- What happens to a statement on its way to the database and back. -/
inductive Delivery where
  | executed
  /-- It is not executed. -/
  | refused
  /-- It is executed, but the answer is lost. -/
  | lost
  deriving DecidableEq

/-- The answer that arrives, if one does, and the state. -/
def Delivery.deliver {α σ : Type} (d : Delivery) (answer : α) (before after : σ) : Option α × σ :=
  match d with
  | .executed => (some answer, after)
  | .refused => (none, before)
  | .lost => (none, after)

/-- A statement that may fail by itself: then nothing happens. -/
def Delivery.attempt {α σ : Type} (d : Delivery) (before : σ) : Option (α × σ) → Option α × σ
  | none => (none, before)
  | some (answer, after) => d.deliver answer before after

namespace Delivery

variable {σ : Type} (d : Delivery) (answer : α) (before after : σ)

theorem deliver_state :
    (d.deliver answer before after).2 = before ∨ (d.deliver answer before after).2 = after := by
  cases d with
  | refused => exact .inl rfl
  | _ => exact .inr rfl

theorem deliver_keeps {I : σ → Prop} {answer : α} {before after : σ} (h : I before)
    (hafter : I after) : I (d.deliver answer before after).2 := by
  rcases d.deliver_state answer before after with heq | heq <;> rw [heq]
  · exact h
  · exact hafter

/-- An answer that arrives is that of a statement that was executed. -/
theorem deliver_answer {a : α} (h : (d.deliver answer before after).1 = some a) :
    a = answer ∧ (d.deliver answer before after).2 = after := by
  cases d with
  | executed => exact ⟨(Option.some.inj h).symm, rfl⟩
  | _ => cases h

variable {r : Option (α × σ)}

/-- The rule for a statement that may fail or get lost. -/
theorem attempt_rule {P : Option α → σ → Prop} {before : σ} (hnone : P none before)
    (hr : ∀ a after, r = some (a, after) →
      ((d.attempt before r).1 = some a → P (some a) after) ∧ P none after) :
    P (d.attempt before r).1 (d.attempt before r).2 := by
  rcases r with _ | ⟨a, after⟩
  · exact hnone
  · obtain ⟨hsome, hlost⟩ := hr a after rfl
    cases d with
    | executed => exact hsome rfl
    | refused => exact hnone
    | lost => exact hlost

theorem attempt_keeps {I : σ → Prop} {before : σ} (h : I before)
    (hr : ∀ a after, r = some (a, after) → I after) : I (d.attempt before r).2 :=
  d.attempt_rule (P := fun _ st => I st) h fun a after heq =>
    ⟨fun _ => hr a after heq, hr a after heq⟩

theorem attempt_state (before : σ) (r : Option (α × σ)) :
    (d.attempt before r).2 = before ∨
      ∃ a after, r = some (a, after) ∧ (d.attempt before r).2 = after := by
  rcases r with _ | ⟨a, after⟩
  · exact .inl rfl
  · exact (d.deliver_state a before after).imp_right fun h => ⟨a, after, rfl, h⟩

theorem attempt_answer {before : σ} {a : α} (h : (d.attempt before r).1 = some a) :
    ∃ after, r = some (a, after) ∧ (d.attempt before r).2 = after := by
  rcases r with _ | ⟨a', after⟩
  · cases h
  · obtain ⟨rfl, hstate⟩ := d.deliver_answer a' before after h
    exact ⟨after, rfl, hstate⟩

end Delivery

namespace Prog

/-! ### Running a program alone -/

variable {σ C : Type}

/-- Run a program with nothing in between.  The `n`-th statement is executed with
choice `cs n`: what the environment decides about it. -/
def run (exec : (s : S) → C → σ → Res s × σ) (cs : Nat → C) : Prog Res α → σ → α × σ
  | .done a, st => (a, st)
  | .stmt s k, st =>
    (k (exec s (cs 0) st).1).run exec (fun n => cs (n + 1)) (exec s (cs 0) st).2

/-- The state after running a program alone. -/
abbrev after (exec : (s : S) → C → σ → Res s × σ) (cs : Nat → C) (p : Prog Res α) (st : σ) : σ :=
  (p.run exec cs st).2

/-- How many statements a run of the program issues. -/
def steps (exec : (s : S) → C → σ → Res s × σ) (cs : Nat → C) : Prog Res α → σ → Nat
  | .done _, _ => 0
  | .stmt s k, st =>
    (k (exec s (cs 0) st).1).steps exec (fun n => cs (n + 1)) (exec s (cs 0) st).2 + 1

theorem run_bind_eq (exec : (s : S) → C → σ → Res s × σ) (p : Prog Res α)
    (f : α → Prog Res β) : ∀ cs st,
      (p.bind f).run exec cs st =
        (f (p.run exec cs st).1).run exec (fun n => cs (n + p.steps exec cs st))
          (p.run exec cs st).2 := by
  induction p with
  | done a => intro cs st; rfl
  | stmt s k ih =>
    intro cs st
    show ((k _).bind f).run exec _ _ = _
    rw [ih]
    simp only [run, steps]
    congr 1

variable {exec : (s : S) → C → σ → Res s × σ}

theorem run_keeps {I : σ → Prop} {W : S → Prop} {R : (s : S) → Res s → Prop} {Q : α → Prop}
    (hexec : ∀ s c st, W s → I st → R s (exec s c st).1 ∧ I (exec s c st).2) :
    ∀ {p : Prog Res α} {cs : Nat → C} {st : σ}, p.All R W Q → I st →
      Q (p.run exec cs st).1 ∧ I (p.run exec cs st).2 := by
  intro p
  induction p with
  | done a => intro cs st hp hI; exact ⟨hp, hI⟩
  | stmt s k ih =>
    intro cs st hp hI
    obtain ⟨hR, hI'⟩ := hexec s (cs 0) st hp.1 hI
    exact ih _ (hp.2 _ hR) hI'

theorem after_keeps {I : σ → Prop} {W : S → Prop} (hexec : ∀ s c st, W s → I st → I (exec s c st).2)
    {p : Prog Res α} {cs : Nat → C} {st : σ} (hp : p.Issues (fun _ _ => True) W)
    (hI : I st) : I (p.after exec cs st) :=
  (run_keeps (fun s c st hs hst => ⟨trivial, hexec s c st hs hst⟩) hp hI).2

theorem after_perform_bind (exec : (s : S) → C → σ → Res s × σ) (cs : Nat → C) (s : S)
    (f : Res s → Prog Res β) (st : σ) :
    (perform s >>= f).after exec cs st =
      (f (exec s (cs 0) st).1).after exec (fun n => cs (n + 1)) (exec s (cs 0) st).2 := rfl

/-- Sequencing, when every statement is executed with the same choice. -/
theorem after_bind (exec : (s : S) → C → σ → Res s × σ) (c : C) (p : Prog Res α)
    (f : α → Prog Res β) (st : σ) :
    (p >>= f).after exec (fun _ => c) st =
      (f (p.run exec (fun _ => c) st).1).after exec (fun _ => c) (p.after exec (fun _ => c) st) :=
  congrArg Prod.snd (run_bind_eq exec p f (fun _ => c) st)

/-- A loop reaches `G` if one of its rounds does, all rounds before it keep `P`, and
all after it keep `G`. -/
theorem after_each {c : C} {P G : σ → Prop} {xs : List β} {x : β} {f : β → Prog Res Unit}
    (hP : ∀ y ∈ xs, ∀ st, P st → P ((f y).after exec (fun _ => c) st))
    (hG : ∀ y ∈ xs, ∀ st, G st → G ((f y).after exec (fun _ => c) st))
    (hx : ∀ st, P st → G ((f x).after exec (fun _ => c) st)) :
    ∀ {st : σ}, x ∈ xs → P st → G ((each xs f).after exec (fun _ => c) st) := by
  induction xs with
  | nil => intro st hmem _; cases hmem
  | cons y xs ih =>
    intro st hmem hst
    have hrest : ∀ st, G st → G ((each xs f).after exec (fun _ => c) st) := by
      clear ih hP hmem
      induction xs with
      | nil => intro st hst; exact hst
      | cons z xs ih =>
        intro st hst
        rw [show each (z :: xs) f = f z >>= fun _ => each xs f from rfl, after_bind]
        refine ih (fun v hv => hG v ?_) _
          (hG z (List.mem_cons_of_mem _ List.mem_cons_self) st hst)
        rcases List.mem_cons.mp hv with rfl | hv
        · exact List.mem_cons_self
        · exact List.mem_cons_of_mem _ (List.mem_cons_of_mem _ hv)
    rw [show each (y :: xs) f = f y >>= fun _ => each xs f from rfl, after_bind]
    rcases List.mem_cons.mp hmem with rfl | hmem
    · exact hrest _ (hx st hst)
    · exact ih (fun v hv => hP v (List.mem_cons_of_mem _ hv))
        (fun v hv => hG v (List.mem_cons_of_mem _ hv)) hmem (hP y List.mem_cons_self st hst)

end Prog
