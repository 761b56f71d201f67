/-
What a sale has passed when it is SECURED or further.

A sale is moved by `evaluate`, whose decision `Apply` writes to the row, and by Retry.
`evaluate` falls through its states, so a check can be made in one state, skipped in another
and made again after a Retry.  What counts is where a set of states is entered: if the only
way in is an evaluation with `P`, then a sale in one of them has been evaluated with `P`
since it was last PLANNED or CONTACTED (`since_of_entry`).
-/
import Acs.Proofs.Passes

namespace Acs

open Onboarding

/-- What moves a sale. -/
inductive SaleStep where
  | evaluate (f : OnboardingFacts) (bindTo : Option String) (configJobs : Option (List String))
  | retry

/-- The row after `Retry`. -/
def Onboarding.retried (o : Onboarding) : Onboarding :=
  { o with
    state := if o.deviceID = none then .planned else .contacted, stateReason := "",
    stateCode := none, configJobs := [], round := o.round + 1 }

theorem retry_eq (w : OnboardingWorld) (id : String) : w.retry id =
    w.updateSale id (fun o => o.state = .failed ∨ o.state = .onHold) retried := rfl

/-- The facts show the SIM that was sold, on a network of the plan. -/
def Onboarding.SIMMatches (o : Onboarding) (plan : Option ServicePlan) (f : OnboardingFacts) :
    Prop :=
  (o.expectedICCID ≠ "" → Text.trimSpace f.iccid = Text.trimSpace o.expectedICCID) ∧
  (o.expectedIMSI ≠ "" → Text.trimSpace f.imsi = Text.trimSpace o.expectedIMSI) ∧
  ∀ p ∈ plan, p.allowedPLMNs ≠ [] → p.allowsIMSI (Text.trimSpace f.imsi) = true

section Gate

variable (mask : IdentifierMask) (plan : Option ServicePlan) (o : Onboarding)

/-- The row of a sale after a list of steps, the last of them first. -/
def Onboarding.after : List SaleStep → Onboarding
  | [] => o
  | .evaluate f bindTo configJobs :: earlier =>
    (after earlier).applied (evaluate mask (after earlier) plan f) bindTo configJobs
  | .retry :: earlier =>
    if (after earlier).state = .failed ∨ (after earlier).state = .onHold then
      (after earlier).retried
    else after earlier

/-- Since the sale was last PLANNED or CONTACTED it was evaluated in a state and with facts
that satisfy `P`. -/
def Onboarding.EvaluatedSince (P : OnboardingState → OnboardingFacts → Prop) :
    List SaleStep → Prop
  | [] => False
  | s :: earlier =>
    ((o.after mask plan (s :: earlier)).state ≠ .planned ∧
      (o.after mask plan (s :: earlier)).state ≠ .contacted) ∧
    ((∃ f bindTo configJobs, s = .evaluate f bindTo configJobs ∧
        P (o.after mask plan earlier).state f) ∨ EvaluatedSince P earlier)

variable {mask plan o} {f : OnboardingFacts}

/-! ### One evaluation -/

theorem checkSIM_none (h : checkSIM mask o plan f = none) : o.SIMMatches plan f := by
  unfold checkSIM at h
  dsimp only at h
  split at h
  · cases h
  next hiccid =>
    split at h
    · cases h
    next himsi =>
      split at h
      · cases h
      next hplmn =>
        split at h
        · cases h
        next hknown =>
          rw [not_or] at hknown
          refine ⟨fun hexp => ?_, fun hexp => ?_, fun p hp hlist => ?_⟩
          · by_contra hne
            exact hiccid ⟨hexp, fun hempty => hknown.1 ⟨hexp, hempty⟩, hne⟩
          · by_contra hne
            exact himsi ⟨hexp, fun hempty => hknown.2 ⟨.inl hexp, hempty⟩, hne⟩
          · cases hp
            by_contra hno
            refine hplmn ⟨fun hempty => hknown.2 ⟨.inr hlist, hempty⟩, ?_⟩
            simpa [hlist] using hno

/-- SECURED or further. -/
def OnboardingState.checked : OnboardingState → Bool
  | .secured | .discovered | .configuring | .inService => true
  | _ => false

/-- DISCOVERED or further. -/
def OnboardingState.explored : OnboardingState → Bool
  | .discovered | .configuring | .inService => true
  | _ => false

theorem evaluateContacted_checked (h : (evaluateContacted mask o plan f).state.checked) :
    evaluateContacted mask o plan f = evaluateSecured plan f ∧ o.SIMMatches plan f ∧
      f.secured := by
  unfold evaluateContacted at h ⊢
  split at h
  next d hd =>
    rcases (checkSIM_state hd).1 with hstate | hstate <;> rw [hstate] at h <;> cases h
  next hnone =>
    cases hsecured : f.secured with
    | false => simp [hsecured, OnboardingState.checked] at h
    | true => exact ⟨rfl, checkSIM_none hnone, rfl⟩

/-- A decision for a checked state: the sale was in one, or passes its checks now and is
decided like a secured one. -/
theorem evaluate_checked (h : (evaluate mask o plan f).state.checked) :
    o.state.checked ∨ evaluate mask o plan f = evaluateSecured plan f ∧
      o.SIMMatches plan f ∧ f.secured := by
  unfold evaluate at h ⊢
  cases hstate : o.state with
  | secured | discovered | configuring | inService => exact .inl rfl
  | planned =>
    simp only [hstate] at h ⊢
    split at h
    · cases h
    next hinformed =>
      rw [if_neg hinformed]
      exact .inr (evaluateContacted_checked h)
  | contacted =>
    simp only [hstate] at h ⊢
    exact .inr (evaluateContacted_checked h)
  | onHold | failed | cancelled | ended =>
    simp only [hstate] at h
    cases h

theorem evaluateSecured_explored (h : (evaluateSecured plan f).state.explored)
    (hplan : plan.any (·.requireDiscovery)) : f.discovered := by
  unfold evaluateSecured at h
  split at h
  · cases h
  next hcheck =>
    simpa [hplan] using hcheck

theorem evaluate_explored (h : (evaluate mask o plan f).state.explored) :
    o.state.explored ∨ (plan.any (·.requireDiscovery) → f.discovered) := by
  have hchecked : (evaluate mask o plan f).state.checked := by
    cases hstate : (evaluate mask o plan f).state <;> rw [hstate] at h <;> first | rfl | cases h
  rcases evaluate_checked hchecked with hchecked | ⟨heq, -, -⟩
  · cases hstate : o.state with
    | secured =>
      rw [evaluate, hstate] at h
      exact .inr (evaluateSecured_explored h)
    | discovered | configuring | inService => exact .inl rfl
    | _ =>
      rw [hstate] at hchecked
      cases hchecked
  · rw [heq] at h
    exact .inr (evaluateSecured_explored h)

theorem evaluateSecured_ne_inService (hplan : plan.any (·.hasConfiguration)) :
    (evaluateSecured plan f).state ≠ .inService := by
  unfold evaluateSecured evaluateDiscovered
  rw [if_pos hplan]
  split <;> simp

theorem evaluate_inService (hplan : plan.any (·.hasConfiguration))
    (h : (evaluate mask o plan f).state = .inService) :
    o.state = .inService ∨ o.state = .configuring ∧ f.configPending = 0 ∧ f.configFailed = 0 := by
  rcases evaluate_checked (by rw [h]; rfl) with hchecked | ⟨heq, -, -⟩
  · cases hstate : o.state with
    | inService => exact .inl rfl
    | configuring =>
      simp only [evaluate, hstate, evaluateConfiguring] at h
      split_ifs at h with hfailed hpending
      exact .inr ⟨rfl, Nat.eq_zero_of_not_pos hpending, Nat.eq_zero_of_not_pos hfailed⟩
    | secured =>
      rw [evaluate, hstate] at h
      exact absurd h (evaluateSecured_ne_inService hplan)
    | discovered =>
      rw [evaluate, hstate] at h
      simp [evaluateDiscovered, hplan] at h
    | _ =>
      rw [hstate] at hchecked
      cases hchecked
  · rw [heq] at h
    exact absurd h (evaluateSecured_ne_inService hplan)

/-! ### Histories -/

theorem after_expected (steps : List SaleStep) :
    (o.after mask plan steps).expectedICCID = o.expectedICCID ∧
      (o.after mask plan steps).expectedIMSI = o.expectedIMSI := by
  induction steps with
  | nil => exact ⟨rfl, rfl⟩
  | cons s earlier ih =>
    cases s with
    | evaluate => exact ih
    | retry =>
      unfold after
      split
      · exact ih
      · exact ih

/-- A sale in a set of states that are not those of first contact, and that evaluations
enter only with `P`, was evaluated with `P` since then. -/
theorem since_of_entry {A : OnboardingState → Prop} {P : OnboardingState → OnboardingFacts → Prop}
    (hstart : o.state = .planned) (hplanned : ¬A .planned) (hcontacted : ¬A .contacted)
    (henter : ∀ earlier f, A (evaluate mask (o.after mask plan earlier) plan f).state →
      A (o.after mask plan earlier).state ∨ P (o.after mask plan earlier).state f)
    {steps : List SaleStep} (h : A (o.after mask plan steps).state) :
    o.EvaluatedSince mask plan P steps := by
  induction steps with
  | nil => exact absurd (hstart ▸ h) hplanned
  | cons s earlier ih =>
    refine ⟨⟨fun heq => hplanned (heq ▸ h), fun heq => hcontacted (heq ▸ h)⟩, ?_⟩
    cases s with
    | evaluate f bindTo configJobs =>
      rcases henter earlier f h with hin | hP
      · exact .inr (ih hin)
      · exact .inl ⟨f, bindTo, configJobs, rfl, hP⟩
    | retry =>
      unfold after at h
      split at h
      · unfold retried at h
        dsimp only at h
        split at h
        · exact absurd h hplanned
        · exact absurd h hcontacted
      · exact .inr (ih h)

end Gate

/-- The gate of an onboarding, for every history of a sale that starts PLANNED. -/
theorem onboarding_gate (mask : IdentifierMask) (plan : Option ServicePlan) (o : Onboarding)
    (steps : List SaleStep) (hstart : o.state = .planned) :
    ((o.after mask plan steps).state.checked = true →
      o.EvaluatedSince mask plan (fun _ f => o.SIMMatches plan f ∧ f.secured = true) steps) ∧
    ((o.after mask plan steps).state.explored = true → o.EvaluatedSince mask plan
      (fun _ f => plan.any (·.requireDiscovery) = true → f.discovered = true) steps) ∧
    (plan.any (·.hasConfiguration) = true → (o.after mask plan steps).state = .inService →
      o.EvaluatedSince mask plan
        (fun st f => st = .configuring ∧ f.configPending = 0 ∧ f.configFailed = 0) steps) := by
  refine ⟨since_of_entry (A := (·.checked = true)) hstart nofun nofun ?_,
    since_of_entry (A := (·.explored = true)) hstart nofun nofun fun _ _ => evaluate_explored,
    fun hplan => since_of_entry (A := (· = .inService)) hstart nofun nofun fun _ _ =>
      evaluate_inService hplan⟩
  intro earlier f hchecked
  refine (evaluate_checked hchecked).imp_right fun hpass => ⟨?_, hpass.2.2⟩
  have hmatches := hpass.2.1
  rwa [SIMMatches, (after_expected earlier).1, (after_expected earlier).2] at hmatches

/-- First contact, before and after discovery, and the configuration done. -/
def onboarded : List SaleStep :=
  let facts := { informed := true, secured := true, discovered := true, iccid := " 8931", imsi := "" }
  [.evaluate facts none none, .evaluate facts none (some ["j"]),
   .evaluate { facts with discovered := false } (some "d") none]

theorem onboarding_gate_onboarded :
    let o : Onboarding := { expectedSerial := "1", expectedICCID := "8931" }
    let plan : Option ServicePlan := some { templateIDs := ["t"] }
    (o.after ⟨id, id⟩ plan onboarded).state = .inService ∧ o.EvaluatedSince ⟨id, id⟩ plan
      (fun st f => st = .configuring ∧ f.configPending = 0 ∧ f.configFailed = 0) onboarded :=
  ⟨rfl, (onboarding_gate _ _ _ onboarded rfl).2.2 rfl rfl⟩

end Acs
