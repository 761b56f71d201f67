/-
The configuration jobs of a sale, round by round.

A round begins when a sale is recorded, retried or given another plan.  Between passes of
the reconciler a sale records every configuration job of its round (`Quiet`).  Operations
other than passes queue nothing and leave sales alone, stop them or begin a new round
(`Resets`), and so keep that.
-/
import Acs.Proofs.SaleBonds

namespace Acs

open List Option

/-! ### Configuration jobs -/

namespace OnboardingWorld

variable (w : OnboardingWorld)

/-- The configuration jobs of one round of a sale: command key and part of the plan. -/
def configured (saleID : String) (round : Nat) : List (String × ConfigPart) :=
  w.jobs.entries.filterMap fun e =>
    if e.2.saleID = saleID ∧ e.2.round = round then e.2.part.map (e.1, ·) else none

/-- The job has ended SUCCESS. -/
def succeeded (key : String) : Bool :=
  (w.jobs.lookup key).any (·.status = .success)

variable {w} {w' : OnboardingWorld} {id : String} {r : Nat}

theorem lookup_of_configured {e : String × ConfigPart} (h : e ∈ w.configured id r) :
    ∃ j, w.jobs.lookup e.1 = some j := by
  obtain ⟨⟨key, j⟩, hmem, hsome⟩ := mem_filterMap.mp h
  obtain ⟨-, hsome⟩ := ite_none_right_eq_some.mp hsome
  obtain ⟨part, -, rfl⟩ := map_eq_some_iff.mp hsome
  exact ⟨j, AList.mem_lookup_iff.mpr hmem⟩

variable {j : OnboardingJob} {key key' saleID : String} {o o' : Onboarding}

theorem configured_congr (h : w'.jobs = w.jobs) : w'.configured id r = w.configured id r := by
  rw [configured, h, configured]

theorem configured_createJob (h : w.createJob key j = some (key', w')) :
    w'.configured id r =
      (if j.saleID = id ∧ j.round = r then (j.part.map (key, ·)).toList else []) ++
        w.configured id r := by
  obtain ⟨hnew, h⟩ := ite_none_left_eq_some.mp h
  cases h
  unfold configured
  dsimp only
  rw [AList.insert_of_notMem hnew, filterMap_cons]
  split
  next hnone =>
    split
    next hsale =>
      rw [if_pos hsale] at hnone
      rw [hnone]
      rfl
    · rfl
  next e hsome =>
    obtain ⟨hsale, hsome⟩ := ite_none_right_eq_some.mp hsome
    rw [if_pos hsale, hsome]
    rfl

theorem configured_setJobStatus {status : Status} {fault : String} :
    (w.setJobStatus key status fault).configured id r = w.configured id r := by
  unfold configured setJobStatus
  simp only [Assoc.mapValues, filterMap_map]
  congr 1
  funext e
  simp only [Function.comp]
  split <;> rfl

theorem succeeded_createJob (h : w.createJob key j = some (key', w')) {k : String}
    (hk : w.succeeded k) :
    w'.succeeded k := by
  obtain ⟨hnew, h⟩ := ite_none_left_eq_some.mp h
  cases h
  unfold succeeded at hk ⊢
  obtain ⟨j', hj', hstatus⟩ := (any_eq_true _ _).mp hk
  have hne : k ≠ key := by
    rintro rfl
    rw [AList.lookup_eq_none.mpr hnew] at hj'
    cases hj'
  rwa [Assoc.lookup_insert_if, if_neg hne]

theorem succeeded_of_outcome {keys : List String} (hpending : (w.configOutcome keys).pending = 0)
    (hfailed : (w.configOutcome keys).failed = 0) (hkey : key ∈ keys)
    (hj : w.jobs.lookup key = some j) : w.succeeded key := by
  have hrow : j ∈ (w.jobs.entries.filter (·.1 ∈ keys)).map (·.2) :=
    mem_map.mpr ⟨⟨key, j⟩, mem_filter.mpr
      ⟨AList.mem_lookup_iff.mp hj, by simpa using hkey⟩, rfl⟩
  have hfinished : j.status.finished := by
    have hnone := length_eq_zero_iff.mp (Nat.eq_zero_of_add_eq_zero_right hpending)
    simpa using filter_eq_nil_iff.mp hnone j hrow
  have hnotFailed : ¬(j.status = .failed ∨ j.status = .timeout) := by
    have hnone := length_eq_zero_iff.mp hfailed
    simpa using filter_eq_nil_iff.mp hnone j hrow
  have hstatus : ∀ s : Status, s.finished → ¬(s = .failed ∨ s = .timeout) → s = .success := by
    intro s
    cases s <;> decide
  simp [succeeded, hj, hstatus j.status hfinished hnotFailed]

/-! ### The invariant -/

/-- Nothing is queued before the sale is configured; while it is, the sale records all that
is queued, and nothing is queued twice. -/
structure Quiet (w : OnboardingWorld) (id : String) (o : Onboarding) : Prop where
  before : o.state.inProgress → o.state ≠ .configuring → w.configured id o.round = []
  during : o.state = .configuring → (∀ e ∈ w.configured id o.round, e.1 ∈ o.configJobs) ∧
    ((w.configured id o.round).map Prod.snd).Nodup

theorem Quiet.of_stopped (h : o.state.inProgress = false) : w.Quiet id o where
  before hprogress := by
    rw [h] at hprogress
    cases hprogress
  during hconfiguring := by
    rw [hconfiguring] at h
    cases h

theorem Quiet.of_configured (h : w.Quiet id o)
    (hsame : w'.configured id o.round = w.configured id o.round) : w'.Quiet id o where
  before hprogress hne := hsame.trans (h.before hprogress hne)
  during hconfiguring := by
    rw [hsame]
    exact h.during hconfiguring

/-- Every sale is quiet that no pass is underway on. -/
structure InOrder (w : OnboardingWorld) : Prop where
  quiet : ∀ id o, w.sales.lookup id = some o → id ∉ w.underway → w.Quiet id o
  rounds : ∀ id r, w.configured id r ≠ [] → ∃ o, w.sales.lookup id = some o ∧ r ≤ o.round
  plans : ∀ planID plan, w.plans planID = some plan → plan.templateIDs.Nodup

/-- Jobs that have succeeded stay so. -/
def KeepsSuccess (w w' : OnboardingWorld) : Prop :=
  ∀ key, w.succeeded key = true → w'.succeeded key = true

/-- What becomes of a sale that is not moved by a pass: it stops, or begins anew. -/
structure Renewed (w : OnboardingWorld) (id : String) (o' : Onboarding) : Prop where
  inService : o'.state = .inService → ∃ o, w.sales.lookup id = some o ∧ o.state = .inService
  round : o'.state.inProgress → o'.state ≠ .configuring ∧
    ∀ o, w.sales.lookup id = some o → o.round < o'.round

theorem KeepsSuccess.of_jobs (h : w'.jobs = w.jobs) : KeepsSuccess w w' := by
  intro key hkey
  rwa [succeeded, h]

theorem Renewed.of_stopped (h : o'.state.inProgress = false) (hne : o'.state ≠ .inService) :
    w.Renewed id o' where
  inService hstate := absurd hstate hne
  round hprogress := by
    rw [h] at hprogress
    cases hprogress

/-- Sales are left alone or renewed, and no configuration is queued. -/
structure Resets (w w' : OnboardingWorld) : Prop where
  plans : w'.plans = w.plans
  configured : ∀ id r, w'.configured id r = w.configured id r
  success : KeepsSuccess w w'
  underway : ∀ id, id ∈ w.underway → id ∈ w'.underway
  sales : ∀ id o', w'.sales.lookup id = some o' → w.sales.lookup id = some o' ∨ w.Renewed id o'
  kept : ∀ id o, w.sales.lookup id = some o →
    ∃ o', w'.sales.lookup id = some o' ∧ o.round ≤ o'.round

theorem Resets.refl (w : OnboardingWorld) : Resets w w where
  plans := rfl
  configured _ _ := rfl
  success _ h := h
  underway _ h := h
  sales _ _ h := .inl h
  kept _ o h := ⟨o, h, le_rfl⟩

theorem Resets.of_sales (hplans : w'.plans = w.plans) (hsales : w'.sales = w.sales)
    (hunderway : w'.underway = w.underway)
    (hconfigured : ∀ id r, w'.configured id r = w.configured id r)
    (hsuccess : KeepsSuccess w w') : Resets w w' where
  plans := hplans
  configured := hconfigured
  success := hsuccess
  underway _ h := by rwa [hunderway]
  sales id o' h := by
    rw [hsales] at h
    exact .inl h
  kept id o h := ⟨o, by rwa [hsales], le_rfl⟩

theorem Resets.put (hputs : Puts id o' w w') (hrenewed : w.Renewed id o')
    (hround : ∀ o, w.sales.lookup id = some o → o.round ≤ o'.round) : Resets w w' where
  plans := hputs.plans
  configured id r := configured_congr hputs.jobs
  success := .of_jobs hputs.jobs
  underway _ h := by rwa [hputs.underway]
  sales id' o₁ h := by
    rw [hputs.sales, lookup_putSale] at h
    split at h
    next hid =>
      cases h
      subst hid
      exact .inr hrenewed
    · exact .inl h
  kept id' o h := by
    rw [hputs.sales, lookup_putSale]
    split
    next hid =>
      subst hid
      exact ⟨o', rfl, hround o h⟩
    · exact ⟨o, h, le_rfl⟩

theorem Resets.trans {w₁ w₂ w₃ : OnboardingWorld} (h : Resets w₁ w₂) (h' : Resets w₂ w₃) :
    Resets w₁ w₃ where
  plans := h'.plans.trans h.plans
  configured id r := (h'.configured id r).trans (h.configured id r)
  success key hkey := h'.success key (h.success key hkey)
  underway id hmem := h'.underway id (h.underway id hmem)
  sales id o ho := by
    rcases h'.sales id o ho with hsame | hrenewed
    · exact h.sales id o hsame
    · refine .inr ⟨fun hstate => ?_, fun hprogress => ⟨(hrenewed.round hprogress).1, fun o₁ ho₁ => ?_⟩⟩
      · obtain ⟨o₂, ho₂, hstate₂⟩ := hrenewed.inService hstate
        rcases h.sales id o₂ ho₂ with hsame | hrenewed₂
        · exact ⟨o₂, hsame, hstate₂⟩
        · exact hrenewed₂.inService hstate₂
      · obtain ⟨o₂, ho₂, hle⟩ := h.kept id o₁ ho₁
        exact hle.trans_lt ((hrenewed.round hprogress).2 o₂ ho₂)
  kept id o ho := by
    obtain ⟨o₂, ho₂, hle⟩ := h.kept id o ho
    obtain ⟨o₃, ho₃, hle'⟩ := h'.kept id o₂ ho₂
    exact ⟨o₃, ho₃, hle.trans hle'⟩

theorem InOrder.resets (h : InOrder w) (hresets : Resets w w') : InOrder w' where
  quiet id o' ho' hfree := by
    have hfree' : id ∉ w.underway := fun hmem => hfree (hresets.underway id hmem)
    rcases hresets.sales id o' ho' with hsame | hrenewed
    · exact (h.quiet id o' hsame hfree').of_configured (hresets.configured id o'.round)
    · refine ⟨fun hprogress _ => ?_, fun hconfiguring => ?_⟩
      · -- the jobs there are belong to earlier rounds
        by_contra hne
        rw [hresets.configured] at hne
        obtain ⟨o, ho, hle⟩ := h.rounds id o'.round hne
        exact absurd ((hrenewed.round hprogress).2 o ho) (Nat.not_lt.mpr hle)
      · exact absurd hconfiguring (hrenewed.round (by rw [hconfiguring]; rfl)).1
  rounds id r hne := by
    rw [hresets.configured] at hne
    obtain ⟨o, ho, hle⟩ := h.rounds id r hne
    obtain ⟨o', ho', hle'⟩ := hresets.kept id o ho
    exact ⟨o', ho', hle.trans hle'⟩
  plans planID plan hplan := by
    rw [hresets.plans] at hplan
    exact h.plans planID plan hplan

/-- A job is queued for a part of the plan. -/
structure Queues (saleID : String) (round : Nat) (key : String) (part : ConfigPart)
    (w w' : OnboardingWorld) : Prop where
  sales : w'.sales = w.sales
  underway : w'.underway = w.underway
  plans : w'.plans = w.plans
  success : KeepsSuccess w w'
  configured : ∀ id r, w'.configured id r =
    (if saleID = id ∧ round = r then [(key, part)] else []) ++ w.configured id r

theorem Queues.createJob {part : ConfigPart} (h : w.createJob key j = some (key', w'))
    (hpart : j.part = some part) :
    key' = key ∧ Queues j.saleID j.round key part w w' := by
  have hconfigured : ∀ id r, w'.configured id r =
      (if j.saleID = id ∧ j.round = r then [(key, part)] else []) ++ w.configured id r := by
    intro id r
    rw [configured_createJob h, hpart]
    rfl
  have hsuccess : KeepsSuccess w w' := fun _ hk => succeeded_createJob h hk
  obtain ⟨-, h⟩ := ite_none_left_eq_some.mp h
  cases h
  exact ⟨rfl, rfl, rfl, rfl, hsuccess, hconfigured⟩

theorem InOrder.queues (h : InOrder w) {part : ConfigPart} (hrow : w.sales.lookup saleID = some o)
    (hunderway : saleID ∈ w.underway) (hqueues : Queues saleID o.round key part w w') :
    InOrder w' where
  quiet id o' ho' hfree := by
    rw [hqueues.sales] at ho'
    rw [hqueues.underway] at hfree
    have hne : ¬(saleID = id ∧ o.round = o'.round) := by
      rintro ⟨rfl, -⟩
      exact hfree hunderway
    refine (h.quiet id o' ho' hfree).of_configured ?_
    rw [hqueues.configured, if_neg hne, nil_append]
  rounds id r hne := by
    rw [hqueues.sales]
    by_cases hmine : saleID = id ∧ o.round = r
    · obtain ⟨rfl, rfl⟩ := hmine
      exact ⟨o, hrow, le_rfl⟩
    · rw [hqueues.configured, if_neg hmine, nil_append] at hne
      exact h.rounds id r hne
  plans planID plan hplan := by
    rw [hqueues.plans] at hplan
    exact h.plans planID plan hplan

theorem InOrder.moves (h : InOrder w) (hrow : w.sales.lookup saleID = some o)
    (hunderway : saleID ∈ w.underway) (hround : o'.round = o.round) (hputs : Puts saleID o' w w') :
    InOrder w' where
  quiet id o₁ ho₁ hfree := by
    rw [hputs.underway] at hfree
    rw [hputs.sales, lookup_putSale] at ho₁
    split at ho₁
    next hid =>
      rw [hid] at hfree
      exact absurd hunderway hfree
    · exact (h.quiet id o₁ ho₁ hfree).of_configured (configured_congr hputs.jobs)
  rounds id r hne := by
    rw [configured_congr hputs.jobs] at hne
    obtain ⟨o₁, ho₁, hle⟩ := h.rounds id r hne
    rw [hputs.sales, lookup_putSale]
    split
    next hid =>
      rw [hid, hrow] at ho₁
      cases ho₁
      exact ⟨o', rfl, by rw [hround]; exact hle⟩
    · exact ⟨o₁, ho₁, hle⟩
  plans planID plan hplan := by
    rw [hputs.plans] at hplan
    exact h.plans planID plan hplan

theorem InOrder.returns (h : InOrder w) (hrow : w.sales.lookup saleID = some o)
    (hquiet : w.Quiet saleID o) :
    InOrder { w with underway := w.underway.erase saleID } where
  quiet id o₁ ho₁ hfree := by
    by_cases hid : id = saleID
    · subst hid
      have heq : o₁ = o := Option.some.inj (Eq.trans (Eq.symm ho₁) hrow)
      rw [heq]
      exact hquiet.of_configured rfl
    · refine (h.quiet id o₁ ho₁ fun hmem => hfree ?_).of_configured rfl
      exact (mem_erase_of_ne hid).mpr hmem
  rounds := h.rounds
  plans := h.plans

theorem Resets.changes {again : Prop} (h : Changes again id w w') : Resets w w' := by
  -- a sale that was there goes on to its next round
  have hnext : ∀ {o o'}, Puts id o' w w' → w.sales.lookup id = some o → o.round < o'.round →
      (o'.state = .inService → o.state = .inService) → o'.state ≠ .configuring → Resets w w' := by
    intro o o' hputs ho hround hservice hne
    have hlt : ∀ o₁, w.sales.lookup id = some o₁ → o₁.round < o'.round := by
      intro o₁ ho₁
      cases Option.some.inj (ho₁.symm.trans ho)
      exact hround
    exact .put hputs ⟨fun hstate => ⟨o, ho, hservice hstate⟩, fun _ => ⟨hne, hlt⟩⟩
      fun o₁ ho₁ => (hlt o₁ ho₁).le
  cases h with
  | records hputs hnew hstate =>
    have hnone : ∀ o, w.sales.lookup id ≠ some o := fun o ho => nomatch hnew.symm.trans ho
    refine .put hputs ⟨fun hservice => (nomatch hstate.symm.trans hservice), fun _ => ⟨?_, ?_⟩⟩ ?_
    · simp [hstate]
    · exact fun o ho => absurd ho (hnone o)
    · exact fun o ho => absurd ho (hnone o)
  | stops hputs ho hsame hstate =>
    refine .put hputs (.of_stopped ?_ ?_) fun o₁ ho₁ => ?_
    · rcases hstate with hstate | hstate <;> rw [hstate] <;> rfl
    · rcases hstate with hstate | hstate <;> simp [hstate]
    · cases Option.some.inj (ho₁.symm.trans ho)
      exact hsame.round
  | retries _ hputs ho _ hround _ _ hstate =>
    refine hnext hputs ho hround (fun hservice => ?_) ?_
    · rw [hstate] at hservice
      split at hservice <;> cases hservice
    · rw [hstate]
      split <;> simp
  | replans hputs ho _ hround _ hfrom hstate =>
    refine hnext hputs ho hround (fun _ => hfrom) ?_
    rcases hstate with hstate | hstate <;> simp [hstate]

/-! ### Statements -/

theorem Resets.exec {env : OnboardingEnv} {s : OnboardingStmt} {c : OnboardingChoice}
    (hpass : ∀ deviceID saleID o p, s ≠ .ofPass deviceID saleID o p)
    (hstatus : ∀ key status fault, s = .setJobStatus key status fault →
      KeepsSuccess w (s.exec env c w).2) : Resets w (s.exec env c w).2 := by
  refine OnboardingStmt.exec_keeps (I := fun w' => (∀ key status fault,
    s = .setJobStatus key status fault → KeepsSuccess w w') → Resets w w') hpass
    (fun _ => .refl w) (fun w' hdoes hstatus => ?_) hstatus
  cases hdoes with
  | opens => exact { Resets.refl w with underway := fun _ h => mem_cons_of_mem _ h }
  | changes _ hchanges => exact .changes hchanges
  | ends _ hends => exact .changes hends.1
  | swaps _ hends hchanges => exact (Resets.changes hends.1).trans (.changes hchanges)
  | assigns | claims => exact .of_sales rfl rfl rfl (fun _ _ => rfl) fun _ h => h
  | status =>
    exact .of_sales rfl rfl rfl (fun _ _ => configured_setJobStatus) (hstatus _ _ _ rfl)

theorem Resets.quiet {deviceID : String} {s : PassStmt} {c : OnboardingChoice} (hs : s.quiet) :
    Resets w (s.exec deviceID saleID o c w).2 := by
  have hread : ∀ {α : Type} (a : α), Resets w (c.delivery.deliver a w w).2 := by
    intro α a
    rw [or_self_iff.mp (c.delivery.deliver_state a w w)]
    exact .refl w
  cases s with
  | configOutcome | hasOpenJobByCreator => exact hread _
  | createSIMRead createdBy paths =>
    unfold PassStmt.exec
    rcases c.delivery.attempt_state w (w.createJob c.fresh _) with heq | ⟨a, w', hsome, heq⟩
    · rw [heq]
      exact .refl w
    · rw [heq]
      have hconfigured : ∀ id r, w'.configured id r = w.configured id r := by
        intro id r
        rw [configured_createJob hsome]
        simp
      have hsuccess : KeepsSuccess w w' := fun _ h => succeeded_createJob hsome h
      obtain ⟨-, hsome⟩ := ite_none_left_eq_some.mp hsome
      cases hsome
      exact .of_sales rfl rfl rfl hconfigured hsuccess
  | createConfigJob | apply | returns => cases hs
  | _ => exact .refl w

/-- A configuration job is queued or not; an error leaves that open. -/
theorem createConfigJob_cases (deviceID saleID createdBy : String) (o : Onboarding)
    (part : ConfigPart) (writes : List ParameterWrite) (c : OnboardingChoice)
    (w : OnboardingWorld) :
    let e := (PassStmt.createConfigJob createdBy part writes).exec deviceID saleID o c w
    e = ((none : Option String), w) ∨
      Queues saleID (w.roundOf saleID) c.fresh part w e.2 ∧
        (e.1 = (none : Option String) ∨ e.1 = some c.fresh) := by
  refine c.delivery.attempt_rule (P := fun r w' => (r, w') = (none, w) ∨
    Queues saleID (w.roundOf saleID) c.fresh part w w' ∧ (r = none ∨ r = some c.fresh))
    (.inl rfl) fun key w' hsome => ?_
  obtain ⟨rfl, hqueues⟩ := Queues.createJob hsome rfl
  exact ⟨fun _ => .inr ⟨hqueues, .inr rfl⟩, .inr ⟨hqueues, .inl rfl⟩⟩

end OnboardingWorld

end Acs
