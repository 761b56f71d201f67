/-
A sale goes into service when all that was configured for it has succeeded.

A pass queues the parts of a plan before it moves the sale and records their command keys.
If the sale is not moved, these jobs are never waited for, and the next pass queues the plan
again.  Where passes on a sale do not overlap, what they queued is recorded
and plans name no template twice, a sale that goes into service has waited for everything
that was queued in its round, and nothing was queued twice.
-/
import Acs.Proofs.ConfigRounds

namespace Acs

open List OnboardingWorld OnboardingTask
open OnboardingWorld (Quiet InOrder KeepsSuccess Resets Queues ConfigOutcome Puts)

/-! ### Events -/

/-- A sale that goes into service has had all its configuration, once. -/
def OnboardingWorld.Serves (w w' : OnboardingWorld) : Prop :=
  ∀ id o, w'.sales.lookup id = some o → o.state = .inService →
    (∀ o₀, w.sales.lookup id = some o₀ → o₀.state ≠ .inService) →
    (∀ e ∈ w'.configured id o.round, w'.succeeded e.1 = true) ∧
      ((w'.configured id o.round).map Prod.snd).Nodup

theorem OnboardingWorld.Resets.serves {w w' : OnboardingWorld} (h : Resets w w') :
    w.Serves w' := by
  intro id o ho hstate hnew
  rcases h.sales id o ho with hsame | hrenewed
  · exact absurd hstate (hnew o hsame)
  · obtain ⟨o₀, ho₀, hstate₀⟩ := hrenewed.inService hstate
    exact absurd hstate₀ (hnew o₀ ho₀)

theorem OnboardingWorld.serves_of_sales {w w' : OnboardingWorld} (h : w'.sales = w.sales) :
    w.Serves w' := by
  intro id o ho hstate hnew
  rw [h] at ho
  exact absurd hstate (hnew o ho)

/-- No two passes are underway on one sale, a move that records jobs takes effect, and a job
that has succeeded stays so. -/
def OnboardingEvent.orderly (ev : OnboardingEvent) : Bool :=
  decide ev.post.underway.Nodup &&
  match ev.stmt with
  | .ofPass _ saleID _ (.apply d _ (some keys)) =>
    (ev.post.sales.lookup saleID).any fun o => o.state = d.state ∧ o.configJobs = keys
  | .setJobStatus key .. => !ev.pre.succeeded key || ev.post.succeeded key
  | _ => true

/-- What a pass survives: its sale stays as it is, and nobody else configures it. -/
def OnboardingStmt.saleKept (s : OnboardingStmt) (w w' : OnboardingWorld) : Prop :=
  match s with
  | .ofPass _ saleID o _ => w'.sales.lookup saleID = w.sales.lookup saleID ∧
      w'.configured saleID o.round = w.configured saleID o.round ∧
      (saleID ∈ w.underway → saleID ∈ w'.underway)
  | _ => True

instance (s : OnboardingStmt) (w w' : OnboardingWorld) : Decidable (s.saleKept w w') := by
  unfold OnboardingStmt.saleKept
  split <;> infer_instance

theorem OnboardingStmt.saleKept_refl (s : OnboardingStmt) (w : OnboardingWorld) :
    s.saleKept w w := by
  cases s with
  | ofPass => exact ⟨rfl, rfl, id⟩
  | _ => trivial

theorem OnboardingStmt.saleKept_trans (s : OnboardingStmt) (w₁ w₂ w₃ : OnboardingWorld)
    (h : s.saleKept w₁ w₂) (h' : s.saleKept w₂ w₃) : s.saleKept w₁ w₃ := by
  cases s with
  | ofPass => exact ⟨h'.1.trans h.1, h'.2.1.trans h.2.1, h'.2.2 ∘ h.2.2⟩
  | _ => trivial

/-! ### A pass -/

namespace ConfiguredOnce

/-- The sale is as the pass has loaded it. -/
structure Held (saleID : String) (o : Onboarding) (w : OnboardingWorld) : Prop where
  row : w.sales.lookup saleID = some o
  underway : saleID ∈ w.underway

/-- The facts of a pass from stage to stage. -/
def stageFact (saleID : String) (o : Onboarding) : PassStage → OnboardingWorld → Prop
  | .loaded, w => Held saleID o w ∧ w.Quiet saleID o
  | .looked outcome, w => Held saleID o w ∧ w.Quiet saleID o ∧
      (o.state = .configuring → outcome.failed = 0 → outcome.pending = 0 →
        ∀ e ∈ w.configured saleID o.round, w.succeeded e.1 = true)
  | .queued parts keys, w => Held saleID o w ∧
      (∀ e ∈ w.configured saleID o.round, e.1 ∈ keys ∧ e.2 ∈ parts) ∧
      ((w.configured saleID o.round).map Prod.snd).Nodup
  | .failed, w => Held saleID o w
  | .applied, w => saleID ∈ w.underway ∧
      ∃ o', w.sales.lookup saleID = some o' ∧ o'.round = o.round ∧ w.Quiet saleID o'

variable {env : OnboardingEnv} {deviceID saleID : String} {o : Onboarding}
  {device : OnboardingDevice} {w w' : OnboardingWorld} {stage : PassStage}
  {d : OnboardingDecision} {bindTo : Option String} {configJobs : Option (List String)}

theorem stageFact.kept (h : stageFact saleID o stage w)
    (hrow : w'.sales.lookup saleID = w.sales.lookup saleID)
    (hconfigured : w'.configured saleID o.round = w.configured saleID o.round)
    (hunderway : saleID ∈ w.underway → saleID ∈ w'.underway) (hsuccess : KeepsSuccess w w') :
    stageFact saleID o stage w' := by
  have hheld : Held saleID o w → Held saleID o w' :=
    fun h => ⟨hrow.trans h.row, hunderway h.underway⟩
  cases stage with
  | loaded => exact ⟨hheld h.1, h.2.of_configured hconfigured⟩
  | looked outcome =>
    refine ⟨hheld h.1, h.2.1.of_configured hconfigured, fun hstate hfailed hpending e he => ?_⟩
    rw [hconfigured] at he
    exact hsuccess e.1 (h.2.2 hstate hfailed hpending e he)
  | queued parts keys =>
    rw [stageFact, hconfigured]
    exact ⟨hheld h.1, h.2⟩
  | failed => exact hheld h
  | applied =>
    obtain ⟨hmem, o', ho', hround, hquiet⟩ := h
    refine ⟨hunderway hmem, o', hrow.trans ho', hround, hquiet.of_configured ?_⟩
    rw [hround, hconfigured]

theorem stageFact.quiet (h : stageFact saleID o stage w) (hsettled : stage.settled) :
    ∃ o', w.sales.lookup saleID = some o' ∧ w.Quiet saleID o' := by
  cases stage with
  | loaded => exact ⟨o, h.1.row, h.2⟩
  | looked outcome => exact ⟨o, h.1.row, h.2.1⟩
  | queued | failed => cases hsettled
  | applied =>
    obtain ⟨-, o', ho', -, hquiet⟩ := h
    exact ⟨o', ho', hquiet⟩

variable {part : ConfigPart} {parts : List ConfigPart} {c : OnboardingChoice}

theorem stageFact.queues {keys : List String} {key : String}
    (h : stageFact saleID o (.queued parts keys) w) (hpart : part ∉ parts)
    (hqueues : Queues saleID o.round key part w w') :
    stageFact saleID o (.queued (parts ++ [part]) (keys ++ [key])) w' := by
  obtain ⟨hheld, hqueued, hnodup⟩ := h
  have hconfigured : w'.configured saleID o.round = (key, part) :: w.configured saleID o.round := by
    rw [hqueues.configured, if_pos ⟨rfl, rfl⟩, singleton_append]
  refine ⟨⟨by rw [hqueues.sales]; exact hheld.row, by rw [hqueues.underway]; exact hheld.underway⟩,
    fun e he => ?_, ?_⟩
  · rw [hconfigured] at he
    rcases mem_cons.mp he with rfl | he
    · exact ⟨by simp, by simp⟩
    · obtain ⟨hkey, hmem⟩ := hqueued e he
      exact ⟨mem_append_left _ hkey, mem_append_left _ hmem⟩
  · rw [hconfigured, map_cons, nodup_cons]
    refine ⟨fun hmem => ?_, hnodup⟩
    obtain ⟨e, he, heq⟩ := mem_map.mp hmem
    have hold := (hqueued e he).2
    rw [heq] at hold
    exact hpart hold

theorem nodup_parts {plan : ServicePlan} (h : plan.templateIDs.Nodup) : plan.parts.Nodup := by
  refine List.Nodup.append (h.map fun _ _ heq => ConfigPart.template.inj heq)
    (nodup_singleton _) ?_
  intro part hpart hcellular
  rw [mem_singleton.mp hcellular] at hpart
  obtain ⟨_, -, heq⟩ := mem_map.mp hpart
  cases heq

/-- What a pass may ask for, given what it has found. -/
structure Justified (saleID : String) (o : Onboarding) (d : OnboardingDecision)
    (bindTo : Option String) (configJobs : Option (List String)) (w : OnboardingWorld) : Prop where
  held : Held saleID o w
  moved : w.Quiet saleID (o.applied d bindTo configJobs)
  unmoved : configJobs = none → w.Quiet saleID o
  moves : configJobs ≠ none → d.state ≠ o.state
  served : d.state = .inService →
    (∀ e ∈ w.configured saleID o.round, w.succeeded e.1) ∧
      ((w.configured saleID o.round).map Prod.snd).Nodup

theorem Asked.justified
    (h : Asked deviceID o device (·.templateIDs.Nodup) stage d bindTo configJobs)
    (hF : stageFact saleID o stage w) : Justified saleID o d bindTo configJobs w := by
  cases h with
  | held _ hs _ =>
    obtain ⟨hheld, hquiet, -⟩ := hF
    refine ⟨hheld, .of_stopped ?_, fun _ => hquiet, fun hne => absurd rfl hne, fun hstate => ?_⟩
    · show d.state.inProgress = false
      rw [hs]
      rfl
    · rw [hs] at hstate
      cases hstate
  | evaluated _ hprogress hd hc hpending hfailed =>
    obtain ⟨hheld, hquiet, hdone⟩ := hF
    cases hd with
    | configure _ hc' _ =>
      rw [hc] at hc'
      cases hc'
    | early hne _ hs =>
      have hnone := hquiet.before hprogress hne
      refine ⟨hheld, ⟨fun _ _ => hnone, fun hstate => ?_⟩, fun _ => hquiet,
        fun hjobs => absurd rfl hjobs, fun _ => ?_⟩
      · have hstate' : d.state = .configuring := hstate
        rw [hstate'] at hs
        simp at hs
      · rw [hnone]
        exact ⟨by simp, nodup_nil⟩
    | configuring hstate _ hs =>
      have hserved : d.state = .inService →
          (∀ e ∈ w.configured saleID o.round, w.succeeded e.1) ∧
            ((w.configured saleID o.round).map Prod.snd).Nodup := by
        intro hservice
        rw [hservice] at hs
        obtain ⟨-, hf, hp⟩ := (hs.resolve_left (by simp)).resolve_left (by simp)
        exact ⟨hdone hstate (hfailed.symm.trans hf) (hpending.symm.trans hp),
          (hquiet.during hstate).2⟩
      refine ⟨hheld, ⟨fun hprogress' hne' => ?_, fun _ => hquiet.during hstate⟩,
        fun _ => hquiet, fun hjobs => absurd rfl hjobs, hserved⟩
      -- the sale fails, goes on being configured or goes into service
      rcases hs with hs | hs | ⟨hs, -⟩
      · have hstate' : (o.applied d (some deviceID) none).state = .failed := hs
        rw [hstate'] at hprogress'
        cases hprogress'
      · exact absurd hs hne'
      · have hstate' : (o.applied d (some deviceID) none).state = .inService := hs
        rw [hstate'] at hprogress'
        cases hprogress'
  | configured _ hprogress hne hs hplan hparts =>
    obtain ⟨hheld, hqueued, hnodup⟩ := hF
    refine ⟨hheld, ⟨fun _ hne' => absurd hs hne', fun _ => ⟨fun e he => (hqueued e he).1, hnodup⟩⟩,
      nofun, fun _ heq => hne (heq.symm.trans hs), fun hstate => ?_⟩
    rw [hs] at hstate
    cases hstate
  | unqueued _ hprogress hs =>
    refine ⟨hF, .of_stopped ?_, nofun, fun _ heq => ?_, fun hstate => ?_⟩
    · show d.state.inProgress = false
      rw [hs]
      rfl
    · rw [← heq, hs] at hprogress
      cases hprogress
    · rw [hs] at hstate
      cases hstate

/-- `Apply` leaves everything alone, or moves the sale and touches its device at most. -/
theorem apply_post (hheld : Held saleID o w)
    (h : (c.delivery.deliver (w.apply saleID o d bindTo configJobs).1 w
      (w.apply saleID o d bindTo configJobs).2).2 = w') :
    w' = w ∨ Puts saleID (o.applied d bindTo configJobs) w w' := by
  rcases c.delivery.deliver_state (w.apply saleID o d bindTo configJobs).1 w
    (w.apply saleID o d bindTo configJobs).2 with heq | heq
  · exact .inl (h.symm.trans heq)
  · rw [heq] at h
    rcases apply_cases h with hsame | ⟨row, hrow, -, -, rfl⟩ |
      ⟨row, dev, hrow, -, -, -, -, rfl⟩
    · exact .inl hsame
    · rw [hheld.row] at hrow
      cases hrow
      exact .inr ⟨rfl, rfl, rfl, rfl⟩
    · rw [hheld.row] at hrow
      cases hrow
      exact .inr ⟨rfl, rfl, rfl, rfl⟩

theorem Justified.post (h : Justified saleID o d bindTo configJobs w) (hJ : InOrder w)
    (hputs : Puts saleID (o.applied d bindTo configJobs) w w') :
    (w.Serves w' ∧ InOrder w' ∧ KeepsSuccess w w') ∧ stageFact saleID o .applied w' := by
  have hsuccess : KeepsSuccess w w' := .of_jobs hputs.jobs
  have hrow : w'.sales.lookup saleID = some (o.applied d bindTo configJobs) := by
    rw [hputs.sales, lookup_putSale, if_pos rfl]
  refine ⟨⟨fun id o₁ ho₁ hstate hnew => ?_,
    hJ.moves h.held.row h.held.underway
      (rfl : (o.applied d bindTo configJobs).round = o.round) hputs, hsuccess⟩,
    by rw [hputs.underway]; exact h.held.underway, _, hrow, rfl,
    h.moved.of_configured (configured_congr hputs.jobs)⟩
  rw [hputs.sales, lookup_putSale] at ho₁
  split at ho₁
  next hid =>
    cases ho₁
    subst hid
    rw [configured_congr hputs.jobs]
    obtain ⟨hall, hnodup⟩ := h.served hstate
    exact ⟨fun e he => hsuccess e.1 (hall e he), hnodup⟩
  · exact absurd hstate (hnew o₁ ho₁)

theorem apply_sound (hJ : InOrder w) (h : Justified saleID o d bindTo configJobs w)
    (hG : OnboardingEvent.orderly
      (passEvent env deviceID saleID o (.apply d bindTo configJobs) c w))
    (hw' : (passEvent env deviceID saleID o (.apply d bindTo configJobs) c w).post = w') :
    (w.Serves w' ∧ InOrder w' ∧ KeepsSuccess w w') ∧ stageFact saleID o .applied w' := by
  have heffect := (Bool.and_eq_true_iff.mp hG).2
  rcases apply_post h.held hw' with rfl | hputs
  · -- nothing happened, so there was nothing to record
    have hnone : configJobs = none := by
      by_contra hne
      obtain ⟨keys, rfl⟩ := Option.ne_none_iff_exists'.mp hne
      have hrecorded : ((passEvent env deviceID saleID o (.apply d bindTo (some keys)) c
          w').post.sales.lookup saleID).any
            (fun o => o.state = d.state ∧ o.configJobs = keys) := heffect
      rw [hw', h.held.row] at hrecorded
      exact h.moves hne (of_decide_eq_true hrecorded).1.symm
    exact ⟨⟨serves_of_sales rfl, hJ, fun _ hk => hk⟩, h.held.underway, o,
      h.held.row, rfl, h.unmoved hnone⟩
  · exact h.post hJ hputs

theorem queue_sound (hJ : InOrder w) {keys : List String} {createdBy : String}
    (writes : List ParameterWrite) (hpart : part ∉ parts)
    (hF : stageFact saleID o (.queued parts keys) w) {r : Option String}
    (hexec : (PassStmt.createConfigJob createdBy part writes).exec deviceID saleID o c w = (r, w')) :
    (w.Serves w' ∧ InOrder w' ∧ KeepsSuccess w w') ∧
      (∀ key, r = some key → stageFact saleID o (.queued (parts ++ [part]) (keys ++ [key])) w') ∧
      (r = none → stageFact saleID o .failed w') := by
  have hround : w.roundOf saleID = o.round := by
    unfold roundOf
    rw [hF.1.row]
    rfl
  rcases createConfigJob_cases deviceID saleID createdBy o part writes c w with
    heq | ⟨hqueues, hanswer⟩
  · cases hexec.symm.trans heq
    exact ⟨⟨serves_of_sales rfl, hJ, fun _ hk => hk⟩, nofun, fun _ => hF.1⟩
  · rw [hexec, hround] at hqueues
    rw [hexec] at hanswer
    have hF' := hF.queues hpart hqueues
    refine ⟨⟨serves_of_sales hqueues.sales,
      hJ.queues hF.1.row hF.1.underway hqueues, hqueues.success⟩, fun key hkey => ?_, fun _ => hF'.1⟩
    subst hkey
    rcases hanswer with hnone | hsome
    · cases hnone
    · cases hsome
      exact hF'

theorem not_mem_of_sublist {plan : ServicePlan} (hplan : plan.templateIDs.Nodup)
    (hsub : (parts ++ [part]).Sublist plan.parts) :
    part ∉ parts := by
  intro hmem
  have hnodup := (nodup_parts hplan).sublist hsub
  exact (nodup_append.mp hnodup).2.2 part hmem part (mem_singleton_self _) rfl

theorem passProof (env : OnboardingEnv) (deviceID saleID : String) (o : Onboarding)
    (device : OnboardingDevice) :
    PassProof env OnboardingStmt.saleKept KeepsSuccess InOrder
      (fun ev => OnboardingEvent.orderly ev) (fun ev => ev.pre.Serves ev.post)
      (·.templateIDs.Nodup) deviceID saleID o device (stageFact saleID o) where
  stable hrely hgrows hF := hF.kept hrely.1 hrely.2.1 hrely.2.2 hgrows
  quiet {stage s c w} hs hJ hF := by
    have hresets : Resets w (s.exec deviceID saleID o c w).2 := .quiet hs
    refine ⟨⟨hresets.serves, hJ.resets hresets, hresets.success⟩, ?_⟩
    have hsales : (s.exec deviceID saleID o c w).2.sales = w.sales := by
      refine (PassStmt.exec_tables fun d b k heq => ?_).1
      subst heq
      cases hs
    refine hF.kept ?_ (hresets.configured _ _) (hresets.underway _) hresets.success
    exact congrArg (AList.lookup saleID) hsales
  plan hJ hplan := hJ.plans _ _ hplan
  noJobs hjobs hF := by
    refine ⟨hF.1, hF.2, fun hstate _ _ e he => ?_⟩
    have hkey := (hF.2.during hstate).1 e he
    rw [hjobs] at hkey
    cases hkey
  outcome _ hF := by
    refine ⟨hF.1, hF.2, fun hstate hfailed hpending e he => ?_⟩
    obtain ⟨j, hj⟩ := lookup_of_configured he
    exact succeeded_of_outcome hpending hfailed ((hF.2.during hstate).1 e he) hj
  start _ hprogress hne hF := by
    have hnone := hF.2.1.before hprogress hne
    rw [stageFact, hnone]
    exact ⟨hF.1, by simp, nodup_nil⟩
  lose hF := hF.1
  queue {_ _ _ _ _ writes _ _} hplan hsub hJ hF _ :=
    queue_sound hJ writes (not_mem_of_sublist hplan hsub) hF rfl
  apply hasked hJ hF hG := apply_sound hJ (Asked.justified hasked hF) hG rfl
  returns hsettled hJ hF := by
    obtain ⟨o', ho', hquiet⟩ := hF.quiet hsettled
    exact ⟨serves_of_sales rfl, hJ.returns ho' hquiet, fun _ hk => hk⟩

/-! ### Every run -/

theorem exec_sound (hJ : InOrder w) {s : OnboardingStmt}
    (hpass : ∀ deviceID saleID o p, s ≠ .ofPass deviceID saleID o p)
    (hG : OnboardingEvent.orderly (Pool.fire (OnboardingStmt.exec env) s c w)) :
    Sound KeepsSuccess InOrder (fun ev => ev.pre.Serves ev.post)
      (Pool.fire (OnboardingStmt.exec env) s c w) := by
  have hresets : Resets w (s.exec env c w).2 := by
    refine .exec hpass ?_
    rintro key status fault rfl k hk
    by_cases hkey : k = key
    · subst hkey
      have hstays : (!w.succeeded k ||
          (OnboardingStmt.exec env (.setJobStatus k status fault) c w).2.succeeded k) :=
        (Bool.and_eq_true_iff.mp hG).2
      rwa [hk, Bool.not_true, Bool.false_or] at hstays
    · have hother : (w.setJobStatus key status fault).succeeded k := by
        unfold succeeded setJobStatus at *
        simpa [hkey] using hk
      show (c.delivery.deliver () w (w.setJobStatus key status fault)).2.succeeded k
      rcases c.delivery.deliver_state () w (w.setJobStatus key status fault) with heq | heq
      · rw [heq]
        exact hk
      · rw [heq]
        exact hother
  exact ⟨hresets.serves, hJ.resets hresets, hresets.success⟩

theorem keeps_task (env : OnboardingEnv) (t : OnboardingTask) (w : OnboardingWorld) :
    PassProof.Keeps env OnboardingStmt.saleKept KeepsSuccess InOrder
      (fun ev => OnboardingEvent.orderly ev) (fun ev => ev.pre.Serves ev.post)
      (fun _ _ => True) (prog env t) w := by
  have hone : ∀ s, (∀ deviceID saleID o p, s ≠ .ofPass deviceID saleID o p) →
      PassProof.Keeps env OnboardingStmt.saleKept KeepsSuccess InOrder
        (fun ev => OnboardingEvent.orderly ev) (fun ev => ev.pre.Serves ev.post)
        (fun _ _ => True) (Prog.perform s >>= fun _ => pure ()) w :=
    fun s hs w' c _ hG => ⟨exec_sound hG.2 hs hG.1, trivial⟩
  cases t with
  | reconcile deviceID onInform =>
    refine PassProof.reconcileOnboarding (passProof env deviceID)
      (fun hJ => ⟨serves_of_sales rfl, hJ, fun _ hk => hk⟩) ?_ onInform w
    intro device c w₀ w₁ _ _ hJ hG
    refine ⟨exec_sound hJ (by simp) hG, fun saleID o hfound hpost => ?_⟩
    obtain ⟨hlookup, -, -⟩ := openForDevice_some hfound
    -- no other pass is underway on the sale
    have hfree : saleID ∉ w₁.underway := by
      have hnodup : (OnboardingStmt.exec env (.openForDevice deviceID device) c
          w₁).2.underway.Nodup := of_decide_eq_true (Bool.and_eq_true_iff.mp hG).1
      rw [hpost] at hnodup
      exact (nodup_cons.mp hnodup).1
    exact ⟨⟨hlookup, mem_cons_self⟩, (hJ.quiet saleID o hlookup hfree).of_configured rfl⟩
  | _ => exact hone _ (by simp)

end ConfiguredOnce

/-- A sale goes into service only when every configuration job of its round has ended
SUCCESS, and each part of its plan was queued once at most. -/
theorem served_after_configuration (env : OnboardingEnv) (as : List OnboardingAction)
    (w : OnboardingWorld) (hsales : w.sales = ∅) (hjobs : w.jobs = ∅)
    (hplans : ∀ planID plan, w.plans planID = some plan → plan.templateIDs.Nodup)
    (hleft : Pool.Undisturbed (OnboardingStmt.exec env) (prog env)
      OnboardingStmt.saleKept as ⟨w, []⟩)
    (horderly : ∀ ev ∈ (Pool.run (OnboardingStmt.exec env) (prog env) as ⟨w, []⟩).1,
      OnboardingEvent.orderly ev = true) :
    ∀ ev ∈ (Pool.run (OnboardingStmt.exec env) (prog env) as ⟨w, []⟩).1,
      ∀ id o, ev.post.sales.lookup id = some o → o.state = .inService →
        (∀ o₀, ev.pre.sales.lookup id = some o₀ → o₀.state ≠ .inService) →
        (∀ e ∈ ev.post.configured id o.round, ev.post.succeeded e.1 = true) ∧
          ((ev.post.configured id o.round).map Prod.snd).Nodup := by
  have hstart : InOrder w := by
    refine ⟨fun id o ho => ?_, fun id r hne => ?_, hplans⟩
    · rw [hsales] at ho
      cases ho
    · refine absurd ?_ hne
      unfold configured
      rw [hjobs]
      rfl
  obtain ⟨hevents, -⟩ := Pool.run_kept (J := InOrder) OnboardingStmt.saleKept_refl
    OnboardingStmt.saleKept_trans (fun _ _ hk => hk) (fun _ _ _ h h' k hk => h' k (h k hk)) hstart
    (by simp) (fun t _ st => ConfiguredOnce.keeps_task env t st) hleft horderly
  exact fun ev hev => (hevents ev hev).1

namespace OnboardingWorld

/-- One pass configures the sale, the job succeeds, and another one finds that. -/
def configuredInTurn : List OnboardingAction :=
  [soldWithPlan "S" none, .atomic (.reconcile "d" true) loadable,
   .atomic (.jobStatus "7" .success "") loadable, .atomic (.reconcile "d" true) loadable]

/-- Two gateways load the sale and queue its template; the one that moves it first has its
job done. -/
def configuredByTwo : List OnboardingAction :=
  [soldWithPlan "S" none, .spawn (.reconcile "d" true), .spawn (.reconcile "d" true)] ++
    (List.range 7).map (fun n => .step 0 (loadable n)) ++
    (List.range 7).map (fun n => .step 1 (loadable (20 + n))) ++
    [.step 0 (loadable 7), .step 0 (loadable 8), .step 1 (loadable 27), .step 1 (loadable 28),
     .atomic (.jobStatus "7" .success "") loadable, .atomic (.reconcile "d" true) loadable]

/-- The first pass cannot move the sale; the job of the second one is done. -/
def configuredAgain : List OnboardingAction :=
  [soldWithPlan "S" none,
   .atomic (.reconcile "d" true)
    fun n => { loadable n with delivery := if n = 8 then .refused else .executed },
   .atomic (.reconcile "d" true) fun n => loadable (20 + n),
   .atomic (.jobStatus "27" .success "") loadable, .atomic (.reconcile "d" true) loadable]

/-- The plan names its template twice. -/
def doubledTemplate : OnboardingWorld :=
  { planAndDevices with
    plans := fun id =>
      if id = "p" then some { templateIDs := ["t", "t"], requireDiscovery := false } else none }

def configuredTwice : List OnboardingAction :=
  [soldWithPlan "S" none, .atomic (.reconcile "d" true) loadable,
   .atomic (.jobStatus "8" .success "") loadable, .atomic (.jobStatus "9" .success "") loadable,
   .atomic (.reconcile "d" true) loadable]

/-- The configuration jobs of a sale when it goes into service: the part of the plan, and
whether the job has succeeded. -/
def served (as : List OnboardingAction) (w : OnboardingWorld) (id : String) :
    List (List (ConfigPart × Bool)) :=
  (Pool.run (OnboardingStmt.exec .plain) (prog .plain) as ⟨w, []⟩).1.filterMap
    fun ev =>
      if (ev.pre.sales.lookup id).any (·.state ≠ .inService) ∧
          (ev.post.sales.lookup id).any (·.state = .inService) then
        some ((ev.post.configured id (ev.post.roundOf id)).map
          fun e => (e.2, ev.post.succeeded e.1))
      else none

end OnboardingWorld

open OnboardingWorld in
theorem served_after_configuration_inTurn :
    served configuredInTurn planAndDevices "s" = [[(.template "t", true)]] ∧
    ∀ ev ∈ (Pool.run (OnboardingStmt.exec .plain) (prog .plain) configuredInTurn
        ⟨planAndDevices, []⟩).1,
      ∀ id o, ev.post.sales.lookup id = some o → o.state = .inService →
        (∀ o₀, ev.pre.sales.lookup id = some o₀ → o₀.state ≠ .inService) →
        (∀ e ∈ ev.post.configured id o.round, ev.post.succeeded e.1 = true) ∧
          ((ev.post.configured id o.round).map Prod.snd).Nodup := by
  refine ⟨by decide, served_after_configuration .plain configuredInTurn planAndDevices rfl rfl
    (fun planID plan hplan => ?_) (by decide) (by decide)⟩
  obtain ⟨-, hplan⟩ := Option.ite_none_right_eq_some.mp hplan
  cases hplan
  exact nodup_singleton _

open OnboardingWorld in
/-- The sale goes into service with its template queued twice.  After two passes at once, or
one that could not move the sale, one of the jobs is still waiting for the device. -/
theorem served_before_configuration :
    served configuredByTwo planAndDevices "s" = [[(.template "t", false), (.template "t", true)]] ∧
    served configuredAgain planAndDevices "s" = [[(.template "t", true), (.template "t", false)]] ∧
    served configuredTwice doubledTemplate "s" = [[(.template "t", true), (.template "t", true)]] := by
  decide

end Acs
