/-
Reasoning about passes of the reconciler.

A pass goes through stages: its sale is loaded, the outcome of earlier jobs looked up,
configuration queued, the sale moved.  `PassProof` says what has to be shown of each kind of
statement for facts `F stage` to hold from stage to stage while others change the state in
ways the statements survive; `PassProof.reconcileSale` puts the pass together.
-/
import Acs.Onboarding.Reconcile

namespace Acs

open List Option

open OnboardingWorld (ConfigOutcome)

/-! ### What is decided -/

/-- The states in which a pass evaluates a sale. -/
def OnboardingState.inProgress : OnboardingState → Bool
  | .planned | .contacted | .secured | .discovered | .configuring => true
  | _ => false

section Evaluate

variable {mask : IdentifierMask} {o : Onboarding} {plan : Option ServicePlan}
  {f : OnboardingFacts} {d : OnboardingDecision}

theorem checkSIM_state (h : checkSIM mask o plan f = some d) :
    (d.state = .onHold ∨ d.state = .contacted) ∧ d.configure = false := by
  unfold checkSIM at h
  dsimp only at h
  split_ifs at h <;> cases h <;> simp

variable (plan f) in
theorem evaluateSecured_cases :
    (evaluateSecured plan f).state = .secured ∧ (evaluateSecured plan f).configure = false ∨
      evaluateSecured plan f = evaluateDiscovered plan := by
  unfold evaluateSecured
  split_ifs <;> simp

/-- What is decided about a sale in progress. -/
inductive Evaluated (o : Onboarding) (f : OnboardingFacts) : OnboardingDecision → Prop
  | configure {d : OnboardingDecision} (ho : o.state ≠ .configuring) (hc : d.configure = true)
      (hs : d.state = .configuring) : Evaluated o f d
  | early {d : OnboardingDecision} (ho : o.state ≠ .configuring) (hc : d.configure = false)
      (hs : d.state ∈ [.onHold, .contacted, .secured, .inService]) : Evaluated o f d
  | configuring {d : OnboardingDecision} (ho : o.state = .configuring) (hc : d.configure = false)
      (hs : d.state = .failed ∨ d.state = .configuring ∨
        d.state = .inService ∧ f.configFailed = 0 ∧ f.configPending = 0) : Evaluated o f d

theorem evaluated (hinformed : f.informed) (ho : o.state.inProgress) :
    Evaluated o f (evaluate mask o plan f) := by
  have hdiscovered : ∀ (hne : o.state ≠ .configuring), Evaluated o f (evaluateDiscovered plan) := by
    intro hne
    unfold evaluateDiscovered
    split_ifs
    · exact .configure hne rfl rfl
    · exact .early hne rfl (by simp)
  have hsecured : ∀ (hne : o.state ≠ .configuring), Evaluated o f (evaluateSecured plan f) := by
    intro hne
    rcases evaluateSecured_cases plan f with ⟨hs, hc⟩ | heq
    · exact .early hne hc (by simp [hs])
    · rw [heq]
      exact hdiscovered hne
  have hcontacted : ∀ (hne : o.state ≠ .configuring),
      Evaluated o f (evaluateContacted mask o plan f) := by
    intro hne
    unfold evaluateContacted
    split
    next d hd =>
      obtain ⟨hstate, hconfigure⟩ := checkSIM_state hd
      exact .early hne hconfigure (by rcases hstate with h | h <;> simp [h])
    · split_ifs
      · exact .early hne rfl (by simp)
      · exact hsecured hne
  unfold evaluate
  cases hstate : o.state with
  | planned =>
    simp only [hinformed, Bool.not_true]
    exact hcontacted (by simp [hstate])
  | contacted => exact hcontacted (by simp [hstate])
  | secured => exact hsecured (by simp [hstate])
  | discovered => exact hdiscovered (by simp [hstate])
  | configuring =>
    refine .configuring hstate ?_ ?_
    · dsimp only [evaluateConfiguring]
      split_ifs <;> rfl
    · dsimp only [evaluateConfiguring]
      split_ifs with hfailed hpending
      · exact .inl rfl
      · exact .inr (.inl rfl)
      · exact .inr (.inr ⟨rfl, by omega, by omega⟩)
  | inService | onHold | failed | cancelled | ended => simp [hstate, OnboardingState.inProgress] at ho

theorem evaluate_configure (h : (evaluate mask o plan f).configure) : plan ≠ none := by
  rintro rfl
  have hdiscovered : (evaluateDiscovered none).configure = false := rfl
  have hsecured : (evaluateSecured none f).configure = false := by
    rcases evaluateSecured_cases none f with ⟨-, hc⟩ | heq
    · exact hc
    · rw [heq, hdiscovered]
  have hcontacted : (evaluateContacted mask o none f).configure = false := by
    unfold evaluateContacted
    split
    next d hd =>
      exact (checkSIM_state hd).2
    · split_ifs
      · rfl
      · exact hsecured
  unfold evaluate at h
  split at h
  · cases h
  · cases h
  · cases h
  · cases h
  · cases h
  · split_ifs at h
    rw [hcontacted] at h
    cases h
  · rw [hcontacted] at h
    cases h
  · cases h
  · cases h
  · unfold evaluateConfiguring at h
    split_ifs at h

theorem evaluate_stopped (ho : o.state.inProgress = false) :
    evaluate mask o plan f = { state := o.state, reason := o.stateReason, code := o.stateCode } := by
  unfold evaluate
  cases hstate : o.state <;> first | rfl | simp [hstate, OnboardingState.inProgress] at ho

end Evaluate

theorem OnboardingWorld.openForDevice_some {w : OnboardingWorld} {upper : String → String}
    {deviceID saleID : String} {device : OnboardingDevice} {o : Onboarding}
    (h : w.openForDevice upper deviceID device = some (saleID, o)) :
    w.sales.lookup saleID = some o ∧ o.state.isOpen ∧
      (o.deviceID = none ∨ o.deviceID = some deviceID) := by
  unfold OnboardingWorld.openForDevice at h
  obtain ⟨e, he, heq⟩ := map_eq_some_iff.mp h
  cases heq
  have hfound : ∀ {p : (_ : String) × Onboarding → Bool},
      (w.sales.entries.filter (·.2.state.isOpen)).find? p = some e →
      w.sales.lookup e.1 = some e.2 ∧ e.2.state.isOpen ∧ p e := by
    intro p hp
    obtain ⟨hmem, hopen⟩ := mem_filter.mp (mem_of_find?_eq_some hp)
    exact ⟨AList.mem_lookup_iff.mpr hmem, hopen, find?_some hp⟩
  rcases or_eq_some_iff.mp he with hbound | ⟨-, hserial⟩
  · obtain ⟨hlookup, hopen, hp⟩ := hfound hbound
    exact ⟨hlookup, hopen, .inr (of_decide_eq_true hp)⟩
  · obtain ⟨hlookup, hopen, hp⟩ := hfound hserial
    exact ⟨hlookup, hopen, .inl (of_decide_eq_true hp).1⟩

/-! ### Stages of a pass -/

/-- How far a pass has come. -/
inductive PassStage where
  | loaded
  | looked (outcome : ConfigOutcome)
  | queued (parts : List ConfigPart) (keys : List String)
  | failed
  | applied

/-- The pass may be over: nothing is queued that the sale does not know of. -/
def PassStage.settled : PassStage → Bool
  | .queued .. | .failed => false
  | _ => true

/-- The parts of a plan, in the order they are queued. -/
def ServicePlan.parts (plan : ServicePlan) : List ConfigPart :=
  plan.templateIDs.map .template ++ [.cellular]

/-- What a pass asks `Apply` for, and at which stage. -/
inductive Asked (deviceID : String) (o : Onboarding) (device : OnboardingDevice)
    (P : ServicePlan → Prop) :
    PassStage → OnboardingDecision → Option String → Option (List String) → Prop
  /-- The device is another customer's. -/
  | held {outcome : ConfigOutcome} {d : OnboardingDecision} (hother : belongsToOther o device = true)
      (hs : d.state = .onHold) (hcode : d.code = some .deviceOtherCustomer) :
      Asked deviceID o device P (.looked outcome) d none none
  | evaluated {outcome : ConfigOutcome} {d : OnboardingDecision} {f : OnboardingFacts}
      (hother : belongsToOther o device = false)
      (ho : o.state.inProgress = true) (hd : Evaluated o f d) (hc : d.configure = false)
      (hpending : f.configPending = outcome.pending) (hfailed : f.configFailed = outcome.failed) :
      Asked deviceID o device P (.looked outcome) d (some deviceID) none
  | configured {plan : ServicePlan} {parts : List ConfigPart} {keys : List String}
      {d : OnboardingDecision} (hother : belongsToOther o device = false)
      (ho : o.state.inProgress = true) (hne : o.state ≠ .configuring) (hs : d.state = .configuring)
      (hplan : P plan) (hparts : parts.Sublist plan.parts) :
      Asked deviceID o device P (.queued parts keys) d (some deviceID) (some keys)
  | unqueued {keys : List String} {d : OnboardingDecision}
      (hother : belongsToOther o device = false) (ho : o.state.inProgress = true)
      (hs : d.state = .failed) : Asked deviceID o device P .failed d (some deviceID) (some keys)

/-- Statements that look something up, or read the SIM. -/
def PassStmt.quiet : PassStmt → Bool
  | .createConfigJob .. | .apply .. | .returns => false
  | _ => true

section Proof

variable (env : OnboardingEnv) (rely : OnboardingStmt → OnboardingWorld → OnboardingWorld → Prop)
  (grows : OnboardingWorld → OnboardingWorld → Prop) (J : OnboardingWorld → Prop)
  (G W : OnboardingEvent → Prop) (P : ServicePlan → Prop)
  (deviceID saleID : String) (o : Onboarding) (device : OnboardingDevice)

/-- One statement of a pass. -/
abbrev passEvent (s : PassStmt) (c : OnboardingChoice) (w : OnboardingWorld) : OnboardingEvent :=
  Pool.fire (OnboardingStmt.exec env) (.ofPass deviceID saleID o s) c w

/-- What every statement has to satisfy. -/
abbrev Sound (ev : OnboardingEvent) : Prop :=
  W ev ∧ J ev.post ∧ grows ev.pre ev.post

/-- What has to be shown of a pass on a sale. -/
structure PassProof (F : PassStage → OnboardingWorld → Prop) : Prop where
  stable : ∀ {stage s w w'}, rely (.ofPass deviceID saleID o s) w w' → grows w w' →
    F stage w → F stage w'
  quiet : ∀ {stage s c w}, s.quiet → J w → F stage w →
    Sound grows J W (passEvent env deviceID saleID o s c w) ∧
      F stage (passEvent env deviceID saleID o s c w).post
  plan : ∀ {planID plan w}, J w → w.plans planID = some plan → P plan
  noJobs : ∀ {w}, o.configJobs = [] → F .loaded w → F (.looked ⟨0, 0, 0, ""⟩) w
  outcome : ∀ {w}, J w → F .loaded w → F (.looked (w.configOutcome o.configJobs)) w
  start : ∀ {outcome w}, belongsToOther o device = false → o.state.inProgress →
    o.state ≠ .configuring → F (.looked outcome) w → F (.queued [] []) w
  lose : ∀ {parts keys w}, F (.queued parts keys) w → F .failed w
  queue : ∀ {plan parts keys part createdBy writes c w}, P plan →
    (parts ++ [part]).Sublist plan.parts → J w → F (.queued parts keys) w →
    G (passEvent env deviceID saleID o (.createConfigJob createdBy part writes) c w) →
    Sound grows J W (passEvent env deviceID saleID o (.createConfigJob createdBy part writes) c w) ∧
      (∀ key,
        (passEvent env deviceID saleID o (.createConfigJob createdBy part writes) c w).res =
            (some key : Option String) →
          F (.queued (parts ++ [part]) (keys ++ [key]))
            (passEvent env deviceID saleID o (.createConfigJob createdBy part writes) c w).post) ∧
      ((passEvent env deviceID saleID o (.createConfigJob createdBy part writes) c w).res =
          (none : Option String) →
        F .failed (passEvent env deviceID saleID o (.createConfigJob createdBy part writes) c w).post)
  apply : ∀ {stage d bindTo configJobs c w}, Asked deviceID o device P stage d bindTo configJobs →
    J w → F stage w → G (passEvent env deviceID saleID o (.apply d bindTo configJobs) c w) →
    Sound grows J W (passEvent env deviceID saleID o (.apply d bindTo configJobs) c w) ∧
      F .applied (passEvent env deviceID saleID o (.apply d bindTo configJobs) c w).post
  returns : ∀ {stage c w}, stage.settled → J w → F stage w →
    Sound grows J W (passEvent env deviceID saleID o .returns c w)

end Proof

namespace PassProof

variable {env : OnboardingEnv} {rely : OnboardingStmt → OnboardingWorld → OnboardingWorld → Prop}
  {grows : OnboardingWorld → OnboardingWorld → Prop} {J : OnboardingWorld → Prop}
  {G W : OnboardingEvent → Prop} {P : ServicePlan → Prop}
  {deviceID saleID : String} {o : Onboarding} {device : OnboardingDevice}
  {F : PassStage → OnboardingWorld → Prop} {stage : PassStage} {w : OnboardingWorld}

/-- A part of a pass is as it should be, and ends where `Q` holds. -/
abbrev Keeps (env : OnboardingEnv) (rely : OnboardingStmt → OnboardingWorld → OnboardingWorld → Prop)
    (grows : OnboardingWorld → OnboardingWorld → Prop) (J : OnboardingWorld → Prop)
    (G W : OnboardingEvent → Prop) {α : Type} (Q : α → OnboardingWorld → Prop)
    (p : OnboardingProg α) (w : OnboardingWorld) : Prop :=
  Prog.Keeps (OnboardingStmt.exec env) rely grows J G W Q p w

variable (h : PassProof env rely grows J G W P deviceID saleID o device F)

include h

theorem keeps_quiet {s : PassStmt} (hs : s.quiet) (hF : F stage w) :
    Keeps env rely grows J G W
      (fun r w' => F stage w' ∧ ∃ c w₀, J w₀ ∧ F stage w₀ ∧ (r, w') =
        s.exec deviceID saleID o c w₀)
      (ofPass deviceID saleID o s) w := by
  intro w' c hrely hG
  have hF' := h.stable hrely.1 hrely.2 hF
  obtain ⟨hsound, hpost⟩ := h.quiet (c := c) hs hG.2 hF'
  exact ⟨hsound, hpost, c, w', hG.2, hF', rfl⟩

theorem keeps_loadPlan (hF : F .loaded w) :
    Keeps env rely grows J G W
      (fun r w' => F .loaded w' ∧ ∀ plan, r = some (some plan) → P plan)
      (loadPlan deviceID saleID o) w := by
  unfold loadPlan
  split
  · exact ⟨hF, nofun⟩
  next planID hplanID =>
    refine (h.keeps_quiet rfl hF).bind fun r w' hr => ?_
    obtain ⟨hF', c, w₀, hJ, -, hexec⟩ := hr
    refine ⟨hF', fun plan hplan => ?_⟩
    obtain ⟨plan', hr, heq⟩ := map_eq_some_iff.mp hplan
    cases heq
    have hanswer : (c.delivery.deliver (w₀.plans planID) w₀ w₀).1.join = some plan := by
      rw [← hr]
      exact (congrArg Prod.fst hexec).symm
    obtain ⟨found, hfound, hsome⟩ := bind_eq_some_iff.mp hanswer
    obtain ⟨rfl, -⟩ := c.delivery.deliver_answer _ w₀ w₀ hfound
    exact h.plan hJ hsome

theorem keeps_loadOutcome (hF : F .loaded w) :
    Keeps env rely grows J G W
      (fun r w' => (r = none → F .loaded w') ∧ ∀ outcome, r = some outcome → F (.looked outcome) w')
      (loadOutcome deviceID saleID o) w := by
  unfold loadOutcome
  split
  next hjobs =>
    refine ⟨nofun, fun outcome houtcome => ?_⟩
    cases houtcome
    exact h.noJobs hjobs hF
  · refine (h.keeps_quiet rfl hF).bind fun r w' hr => ?_
    obtain ⟨hF', c, w₀, hJ, hF₀, hexec⟩ := hr
    cases r with
    | none => exact ⟨fun _ => hF', nofun⟩
    | some outcome =>
      have hanswer : (c.delivery.deliver (w₀.configOutcome o.configJobs) w₀ w₀).1 =
          some outcome := (congrArg Prod.fst hexec).symm
      have hstate : w' = w₀ := by
        rw [show w' = _ from congrArg Prod.snd hexec]
        exact or_self_iff.mp (c.delivery.deliver_state _ w₀ w₀)
      obtain ⟨rfl, -⟩ := c.delivery.deliver_answer _ w₀ w₀ hanswer
      refine ⟨nofun, fun outcome houtcome => ?_⟩
      cases houtcome
      rw [hstate]
      exact h.outcome hJ hF₀

variable {d : OnboardingDecision} {names : DiscoveredNames} {onInform : Bool} {cache : CachedValues}

theorem keeps_readSIM (hF : F stage w) :
    Keeps env rely grows J G W
      (fun d' w' => F stage w' ∧ d'.state = d.state ∧ d'.configure = d.configure ∧
        (d.readSIM = false → d' = d))
      (readSIMForOnboarding env deviceID saleID o onInform names d) w := by
  unfold readSIMForOnboarding
  dsimp only
  split_ifs with hskip hunreadable
  · exact ⟨hF, rfl, rfl, fun _ => rfl⟩
  · refine ⟨hF, rfl, rfl, fun hread => ?_⟩
    simp [hread] at hskip
  · refine (h.keeps_quiet rfl hF).bind fun r w' hr => ?_
    have hdone : F stage w' ∧ d.state = d.state ∧ d.configure = d.configure ∧
        (d.readSIM = false → d = d) := ⟨hr.1, rfl, rfl, fun _ => rfl⟩
    rcases r with _ | _ | _
    · exact hdone
    · refine (h.keeps_quiet rfl hr.1).bind fun _ w'' hr' => ?_
      exact ⟨hr'.1, rfl, rfl, fun _ => rfl⟩
    · exact hdone

theorem keeps_loadTemplates (hF : F stage w) (ids : List String) :
    Keeps env rely grows J G W
      (fun r w' => F stage w' ∧ ∀ writes, r = some writes →
        writes.map Prod.fst = ids.map .template)
      (loadTemplates deviceID saleID o ids) w := by
  induction ids generalizing w with
  | nil =>
    refine ⟨hF, fun writes hwrites => ?_⟩
    cases hwrites
    rfl
  | cons id rest ih =>
    refine (h.keeps_quiet rfl hF).bind fun r w' hr => ?_
    cases r with
    | none => exact ⟨hr.1, nofun⟩
    | some params =>
      refine (ih hr.1).bind fun others w'' hothers => ?_
      refine ⟨hothers.1, fun writes hwrites => ?_⟩
      obtain ⟨ws, rfl, rfl⟩ := map_eq_some_iff.mp hwrites
      rw [map_cons, map_cons, hothers.2 ws rfl]

theorem keeps_queueWrites {plan : ServicePlan} (hplan : P plan)
    (todo : List (ConfigPart × List ParameterWrite)) {parts : List ConfigPart} {keys : List String}
    (hparts : (parts ++ todo.map Prod.fst).Sublist plan.parts) (hF : F (.queued parts keys) w) :
    Keeps env rely grows J G W
      (fun r w' => (r.2 ∧ ∃ parts', parts'.Sublist plan.parts ∧ F (.queued parts' r.1) w') ∨
        (r.2 = false ∧ F .failed w'))
      (queueWrites deviceID saleID o todo keys) w := by
  induction todo generalizing parts keys w with
  | nil =>
    rw [map_nil, append_nil] at hparts
    exact .inl ⟨rfl, parts, hparts, hF⟩
  | cons e rest ih =>
    obtain ⟨part, writes⟩ := e
    unfold queueWrites
    split
    · refine ih (Sublist.trans ?_ hparts) hF
      exact (append_sublist_append_left parts).mpr (sublist_cons_self _ _)
    · have hsub : ((parts ++ [part]) ++ rest.map Prod.fst).Sublist plan.parts := by
        rw [append_assoc, singleton_append]
        exact hparts
      refine Prog.Guarded.bind (R := fun r w' =>
        (∀ key, r = some key → F (.queued (parts ++ [part]) (keys ++ [key])) w') ∧
          (r = none → F .failed w')) ?_ fun r w' hr => ?_
      · intro w' c hrely hG
        exact h.queue hplan ((sublist_append_left _ _).trans hsub) hG.2
          (h.stable hrely.1 hrely.2 hF) hG.1
      · cases r with
        | none => exact .inr ⟨rfl, hr.2 rfl⟩
        | some key => exact ih hsub (hr.1 key rfl)

theorem keeps_queueOnboardingConfiguration {plan : ServicePlan} (hplan : P plan)
    (hF : F (.queued [] []) w) :
    Keeps env rely grows J G W
      (fun r w' => (r.2 ∧ ∃ parts', parts'.Sublist plan.parts ∧ F (.queued parts' r.1) w') ∨
        (r.2 = false ∧ F .failed w'))
      (queueOnboardingConfiguration env deviceID saleID o plan names cache) w := by
  refine (h.keeps_loadTemplates hF plan.templateIDs).bind fun r w' hr => ?_
  cases r with
  | none => exact .inr ⟨rfl, h.lose hr.1⟩
  | some writes =>
    refine h.keeps_queueWrites hplan _ ?_ hr.1
    rw [map_append, hr.2 writes rfl]
    exact Sublist.refl _

omit h in
theorem configureOnboarding_skip {mplan : Option ServicePlan} (hc : d.configure = false) :
    configureOnboarding env deviceID saleID o mplan names cache d = pure (d, none) := by
  simp only [configureOnboarding, hc]

theorem keeps_configure {p : ServicePlan} (hp : P p) (hc : d.configure)
    (hF : F (.queued [] []) w) :
    Keeps env rely grows J G W
      (fun r w' =>
        (∃ parts keys, parts.Sublist p.parts ∧ r = (d, some keys) ∧ F (.queued parts keys) w') ∨
          ∃ keys, r.1.state = .failed ∧ r.2 = some keys ∧ F .failed w')
      (configureOnboarding env deviceID saleID o (some p) names cache d) w := by
  simp only [configureOnboarding, hc]
  refine (h.keeps_queueOnboardingConfiguration hp hF).bind fun queued w' hr => ?_
  rcases hr with ⟨hall, parts, hparts, hF'⟩ | ⟨hlost, hF'⟩
  · rw [if_pos hall]
    exact .inl ⟨parts, queued.1, hparts, rfl, hF'⟩
  · rw [if_neg (by simp [hlost])]
    exact .inr ⟨queued.1, rfl, rfl, hF'⟩

theorem keeps_apply {bindTo : Option String} {configJobs : Option (List String)} (hF : F stage w)
    (hsettled : configJobs = none → stage.settled)
    (hasked : ¬(d.state = o.state ∧ d.reason = o.stateReason ∧ configJobs = none) →
      Asked deviceID o device P stage d bindTo configJobs) :
    Keeps env rely grows J G W (fun _ w' => ∃ stage', stage'.settled ∧ F stage' w')
      (applyOnboarding deviceID saleID o d bindTo configJobs) w := by
  unfold applyOnboarding
  split
  next hsame =>
    exact ⟨stage, hsettled hsame.2.2, hF⟩
  next hchanged =>
    refine Prog.Guarded.bind (R := fun _ w' => F .applied w') ?_
      fun _ w' hw' => ⟨.applied, rfl, hw'⟩
    intro w' c hrely hG
    exact h.apply (hasked hchanged) hG.2 (h.stable hrely.1 hrely.2 hF) hG.1

theorem keeps_carryOut {plan : Option ServicePlan} {facts : OnboardingFacts}
    {outcome : ConfigOutcome} (hplan : ∀ p, plan = some p → P p) (hinformed : facts.informed)
    (hpending : facts.configPending = outcome.pending)
    (hfailed : facts.configFailed = outcome.failed) (hF : F (.looked outcome) w) :
    Keeps env rely grows J G W (fun _ w' => ∃ stage', stage'.settled ∧ F stage' w')
      (carryOut env deviceID saleID o device onInform plan names cache facts) w := by
  unfold carryOut
  refine (h.keeps_readSIM hF).bind fun d w' hd => ?_
  obtain ⟨hF', hstate, hconfigure, hsame⟩ := hd
  cases hother : belongsToOther o device with
  | true =>
    have hdecided : decideOnboarding env deviceID o device plan facts =
        ({ state := .onHold, reason := "the device already belongs to another customer",
           code := some .deviceOtherCustomer }, none) := by
      rw [decideOnboarding, if_pos hother]
    rw [hdecided] at hstate hconfigure hsame ⊢
    rw [configureOnboarding_skip hconfigure]
    exact h.keeps_apply hF' (fun _ => rfl) fun _ => .held hother hstate (by rw [hsame rfl])
  | false =>
    have hdecided : decideOnboarding env deviceID o device plan facts =
        (evaluate env.mask o plan facts, some deviceID) := by
      rw [decideOnboarding, if_neg (by simp [hother])]
    rw [hdecided] at hstate hconfigure hsame ⊢
    cases hprogress : o.state.inProgress with
    | false =>
      have heval : evaluate env.mask o plan facts =
          { state := o.state, reason := o.stateReason, code := o.stateCode } :=
        evaluate_stopped hprogress
      rw [heval] at hconfigure hsame
      rw [configureOnboarding_skip hconfigure]
      exact h.keeps_apply hF' (fun _ => rfl) fun hchanged => absurd (by rw [hsame rfl]; simp) hchanged
    | true =>
      have heval : Evaluated o facts (evaluate env.mask o plan facts) :=
        evaluated hinformed hprogress
      have hd : Evaluated o facts d := by
        rcases heval with ⟨ho, hc, hs⟩ | ⟨ho, hc, hs⟩ | ⟨ho, hc, hs⟩
        · exact .configure ho (by rw [hconfigure, hc]) (by rw [hstate, hs])
        · exact .early ho (by rw [hconfigure, hc]) (by rw [hstate]; exact hs)
        · exact .configuring ho (by rw [hconfigure, hc]) (by rw [hstate]; exact hs)
      cases hc : d.configure with
      | false =>
        rw [configureOnboarding_skip hc]
        exact h.keeps_apply hF' (fun _ => rfl) fun _ =>
          .evaluated hother hprogress hd hc hpending hfailed
      | true =>
        have hready : o.state ≠ .configuring ∧ d.state = .configuring := by
          rcases hd with ⟨ho, -, hs⟩ | ⟨-, hc', -⟩ | ⟨-, hc', -⟩
          · exact ⟨ho, hs⟩
          · cases hc.symm.trans hc'
          · cases hc.symm.trans hc'
        obtain ⟨p, rfl⟩ := ne_none_iff_exists'.mp (evaluate_configure (hconfigure ▸ hc))
        have hp := hplan p rfl
        refine (h.keeps_configure hp hc (h.start hother hprogress hready.1 hF')).bind
          fun r w'' hr => ?_
        rcases hr with ⟨parts, keys, hparts, rfl, hF''⟩ | ⟨keys, hs, hkeys, hF''⟩
        · exact h.keeps_apply hF'' nofun fun _ =>
            .configured hother hprogress hready.1 hready.2 hp hparts
        · rw [hkeys]
          exact h.keeps_apply hF'' nofun fun _ => .unqueued hother hprogress hs

theorem reconcileSale (hF : F .loaded w) :
    Keeps env rely grows J G W (fun _ w' => ∃ stage', stage'.settled ∧ F stage' w')
      (Acs.reconcileSale env deviceID saleID o device onInform) w := by
  refine (h.keeps_loadPlan hF).bind fun plan w' hplan => ?_
  cases plan with
  | none => exact ⟨.loaded, rfl, hplan.1⟩
  | some plan =>
    refine (h.keeps_quiet rfl hplan.1).bind fun secured w' hsecured => ?_
    refine (h.keeps_quiet rfl hsecured.1).bind fun names w' hnames => ?_
    refine (h.keeps_quiet rfl hnames.1).bind fun cache w' hcache => ?_
    cases cache with
    | none => exact ⟨.loaded, rfl, hcache.1⟩
    | some cache =>
      refine (h.keeps_loadOutcome hcache.1).bind fun outcome w' houtcome => ?_
      cases outcome with
      | none => exact ⟨.loaded, rfl, houtcome.1 rfl⟩
      | some outcome =>
        exact h.keeps_carryOut (fun p hp => hplan.2 p (by rw [hp])) rfl rfl rfl
          (houtcome.2 outcome rfl)

omit h

theorem openForDevice_answer {c : OnboardingChoice} {r : Option (Option (String × Onboarding))}
    {w' : OnboardingWorld}
    (hexec : OnboardingStmt.exec env (.openForDevice deviceID device) c w = (r, w'))
    (hr : r = some (some (saleID, o))) :
    w.openForDevice env.upper deviceID device = some (saleID, o) ∧
      w' = { w with underway := saleID :: w.underway } := by
  subst hr
  unfold OnboardingStmt.exec at hexec
  dsimp only at hexec
  split at hexec
  next saleID' o' hdelivered =>
    cases hexec
    exact ⟨(c.delivery.deliver_answer _ w w hdelivered).1.symm, rfl⟩
  next hnone =>
    exact absurd (congrArg Prod.fst hexec) (hnone saleID o)

/-- A whole pass: what is known when its sale is loaded, and the pass on that sale. -/
theorem reconcileOnboarding
    {F : String → Onboarding → OnboardingDevice → PassStage → OnboardingWorld → Prop}
    (hpass : ∀ saleID o device,
      PassProof env rely grows J G W P deviceID saleID o device (F saleID o device))
    (hget : ∀ {c w}, J w → Sound grows J W
      (Pool.fire (OnboardingStmt.exec env) (.getDevice deviceID) c w))
    (hload : ∀ {device c w₀ w₁}, w₀.devices.lookup deviceID = some device →
      rely (.openForDevice deviceID device) w₀ w₁ → J w₁ →
      G (Pool.fire (OnboardingStmt.exec env) (.openForDevice deviceID device) c w₁) →
      Sound grows J W (Pool.fire (OnboardingStmt.exec env) (.openForDevice deviceID device) c w₁) ∧
        ∀ saleID o, w₁.openForDevice env.upper deviceID device = some (saleID, o) →
          (OnboardingStmt.exec env (.openForDevice deviceID device) c w₁).2 =
            { w₁ with underway := saleID :: w₁.underway } →
          F saleID o device .loaded { w₁ with underway := saleID :: w₁.underway })
    (onInform : Bool) (w : OnboardingWorld) :
    Keeps env rely grows J G W (fun _ _ => True)
      (Acs.reconcileOnboarding env deviceID onInform) w := by
  refine Prog.Guarded.bind (R := fun r w₀ => ∀ device, r = some device →
    w₀.devices.lookup deviceID = some device) ?_ fun r w₀ hr => ?_
  · intro w' c _ hG
    refine ⟨hget hG.2, fun device hdevice => ?_⟩
    obtain ⟨found, hfound, hsome⟩ := bind_eq_some_iff.mp hdevice
    obtain ⟨rfl, -⟩ := c.delivery.deliver_answer _ w' w' hfound
    exact hsome
  cases r with
  | none => trivial
  | some device =>
    have hdevice := hr device rfl
    refine Prog.Guarded.bind (R := fun r w₁ => ∀ saleID o, r = some (some (saleID, o)) →
      F saleID o device .loaded w₁) ?_ fun r w₁ hr => ?_
    · intro w₁ c hrely hG
      obtain ⟨hsound, hloaded⟩ := hload hdevice hrely.1 hG.2 hG.1
      refine ⟨hsound, fun saleID o hanswer => ?_⟩
      have hpost : (OnboardingStmt.exec env (.openForDevice deviceID device) c w₁).2 =
          { w₁ with underway := saleID :: w₁.underway } := (openForDevice_answer rfl hanswer).2
      rw [hpost]
      exact hloaded saleID o (openForDevice_answer rfl hanswer).1 hpost
    · rcases r with _ | _ | ⟨saleID, o⟩
      · trivial
      · trivial
      · have hproof := hpass saleID o device
        refine (hproof.reconcileSale (hr saleID o rfl)).bind fun _ w' hw' => ?_
        obtain ⟨stage, hsettled, hstage⟩ := hw'
        intro w'' c hrely hG
        exact ⟨hproof.returns hsettled hG.2 (hproof.stable hrely.1 hrely.2 hstage), trivial⟩

end PassProof

/-- Identifiers as they are; no SIM and nothing cellular is found on a device. -/
def OnboardingEnv.plain : OnboardingEnv where
  mask := ⟨id, id⟩
  toUpper := id
  upper := id
  simIdentifiers _ := ("", "")
  simReadPaths _ := []
  cellularWrites _ _ _ := []

namespace OnboardingWorld

/-- Device `d` is nobody's, `e` is customer `b`'s; plan `p` has one template. -/
def planAndDevices : OnboardingWorld where
  devices := ((∅ : AList fun _ : String => OnboardingDevice).insert "e"
    { oui := "O", serialNumber := "T", customerID := some "b" }).insert "d"
    { oui := "O", serialNumber := "S" }
  plans id := if id = "p" then some { templateIDs := ["t"], requireDiscovery := false } else none

/-- A sale to customer `c` with the plan. -/
def soldWithPlan (serial : String) (deviceID : Option String) : OnboardingAction :=
  .atomic (.create { customerID := some "c", expectedSerial := serial, deviceID,
                     servicePlanID := some "p" }) fun _ => { fresh := "s" }

/-- Templates can be loaded. -/
def loadable (n : Nat) : OnboardingChoice :=
  { fresh := toString n, template := some [{ name := "x", value := "1", type := "xsd:string" }] }

end OnboardingWorld

end Acs
