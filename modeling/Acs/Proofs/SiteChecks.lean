/-
The handlers of the site issue only statements that `Site.W` allows.

As in `Acs.Proofs.GatewayChecks`, the proofs follow the handlers branch by branch.  Every
write goes through a copy of a job of a device that the handler may act for; what takes
the place of the hypothesis about the device is the check that the handler makes of its
session, of the natural key of an Inform, or of the job that a command key names.
-/
import Acs.Proofs.Issued
import Acs.Proofs.SiteKnowledge
import Acs.Proofs.SubtreeMerge

namespace Acs

open Prog

namespace Site

variable {st : Site} {may : String → Prop} {c : Cause} {job : Job} {d : String}

/-! ### Single statements -/

theorem queueOk_run {u : Update} (h : st.Allows may u) : st.QueueOk may (Db.run c u) :=
  ⟨h, fun _ _ => trivial⟩

theorem queueOk_insert {spec : JobSpec} {payload : Payload} (hd : may spec.deviceID)
    (hwalk : NewWalk spec payload) : st.QueueOk may (Db.insert spec payload) :=
  ⟨⟨hd, hwalk⟩, fun _ _ => trivial⟩

/-! ### Completing a job -/

variable (env : GatewayEnv) (body : InboundBody)

theorem queueOk_create (hd : may d) {type : JobType} (htype : type ≠ .parameterDiscovery) (n : Nat)
    (payload : Payload) (createdBy : String) (maxAttempts : Nat) :
    st.QueueOk may (env.create n d type payload createdBy maxAttempts) :=
  queueOk_insert hd fun h => absurd h htype

/-- Completing a job writes through its copy, and creates jobs of the device. -/
theorem Mine.completes (hmine : st.Mine may job) (hd : may d) (s : Stmt)
    (h : Completes c d job s) : st.queueW may s := by
  cases h with
  | finishes h =>
    cases h with
    | success | detail | failed | timeout => exact hmine
    | creates hdevice hnew | rediscovers hdevice hnew => exact ⟨hdevice ▸ hd, hnew⟩
  | fallsBack => exact hmine
  | parks htype => exact ⟨hmine, fun h => by rw [h] at htype; cases htype⟩
  | transfers htype => exact ⟨hmine, fun h => by simp [h] at htype⟩
  | readsBack htype => exact ⟨hmine, by simp [htype]⟩

/-! ### Sending a job -/

theorem queueChecks_bindFirmware (hmine : st.Mine may job) (cache : DeviceCache) :
    st.QueueChecks may (bindFirmware cache job) fun r => ∀ j, r = .ok j → st.Mine may j := by
  have hne : job.type = .getParameter ∨ job.type = .setParameter →
      job.type ≠ .parameterDiscovery := by
    rintro (h | h) <;> simp [h]
  refine (all_bindFirmware (fun htype _ => ⟨hmine, hne htype⟩) cache).mono fun r hr j hj => ?_
  rcases hr j hj with rfl | ⟨htype, payload, -, rfl⟩
  · exact hmine
  · exact ⟨hmine.copy.withPayload (hne htype) payload, hmine.may⟩

theorem queueOk_sendJob (hmine : st.Mine may job) : st.QueueOk may (sendJob env job) := by
  unfold sendJob
  refine (queueChecks_bindFirmware hmine env.cache).bind fun r hr => ?_
  split
  · exact queueOk_run hmine
  · have hbound := hr _ rfl
    split
    · exact queueOk_run hbound
    · split
      · exact queueOk_run hbound
      · exact ⟨trivial, fun _ _ => trivial⟩

theorem queueOk_recoverDroppedSessionJobs (hd : may d) (events : List EventStruct) :
    st.QueueOk may (recoverDroppedSessionJobs d events) := by
  unfold recoverDroppedSessionJobs
  refine all_ask trivial fun r hr => ?_
  split
  · trivial
  next dropped =>
    refine all_each fun job hjob => ?_
    obtain ⟨hcopy, hdevice, htype⟩ := hr dropped rfl job hjob
    exact queueOk_run ⟨⟨hcopy, hdevice ▸ hd⟩, htype⟩

/-! ### Resolving a job over USP -/

section Resolve

section

variable {retry : Handler Unit} (hmine : st.Mine may job) (hretry : st.QueueOk may retry)

include hmine hretry

theorem queueOk_resolve {write : Job → Update}
    (hwrite : ∀ copy, st.Mine may copy → st.Allows may (write copy)) :
    st.QueueOk may (resolve c job write retry) :=
  all_resolve trivial hmine (fun _ hr j hj _ => hmine.again (hr j hj).2 (hr j hj).1) hwrite hretry

theorem queueOk_resolveSuccess (detail : ResultDetail) :
    st.QueueOk may (resolveSuccess c job detail retry) :=
  queueOk_resolve hmine hretry fun _ h => h

theorem queueOk_resolveFailure (code text : String) :
    st.QueueOk may (resolveFailure c job code text retry) :=
  queueOk_resolve hmine hretry fun _ h => h

end

theorem queueOk_tryDispatch (hall : ∀ d, may d) {envs : List UspEnv} :
    ∀ {d : String}, st.QueueOk may (tryDispatch envs d) := by
  induction envs with
  | nil => intro d; trivial
  | cons env retries ih =>
    intro d
    unfold tryDispatch
    split
    · trivial
    · refine all_ask trivial fun (r : Option (Bool × Nat)) _ => ?_
      split
      · refine (all_perform (by exact hall d)).bind fun (r : Option (Option Job)) hr => ?_
        split
        next job =>
          have hmine : st.Mine may job := ⟨(hr job rfl).1, hall _⟩
          refine (queueChecks_bindFirmware hmine env.cache).bind fun r hr => ?_
          split
          · exact queueOk_resolveFailure hmine ih _ _
          · have hbound := hr _ rfl
            exact all_sendUSP (fun _ => hbound) (fun _ _ => hbound) hbound.copy trivial trivial
        · trivial
      · trivial

theorem queueOk_handleOperationComplete (hall : ∀ d, may d) (retries : List UspEnv) (d : String)
    (oc : OperationComplete) (attempt : Nat) :
    st.QueueOk may (handleOperationComplete retries d oc attempt) := by
  refine all_ask trivial fun r hr => ?_
  split
  · trivial
  next job =>
    have hmine : st.Mine may job := ⟨hr job rfl, hall _⟩
    split
    · trivial
    · refine all_ask trivial fun _ _ => ?_
      split
      · exact queueOk_resolveFailure hmine (queueOk_tryDispatch hall) _ _
      · exact queueOk_resolveSuccess hmine (queueOk_tryDispatch hall) _

end Resolve

/-! ### Background work -/

theorem queueOk_recoverExpiredLeases (hall : ∀ d, may d) : st.QueueOk may recoverExpiredLeases := by
  refine all_untilFailure ?_
  intro u hu
  simp only [recoveryUpdates, List.mem_cons, List.not_mem_nil, or_false] at hu
  rcases hu with rfl | rfl | rfl | rfl | rfl <;> exact hall

theorem queueOk_connectionRequestWorker (hall : ∀ d, may d) (ownerName : String)
    (outcome : ConnReqOutcome) : st.QueueOk may (connectionRequestWorker ownerName outcome) := by
  refine all_ask ⟨rfl, hall⟩ fun (r : Option (Option Job)) hr => ?_
  split
  next job =>
    have hmine : st.Mine may job := ⟨hr job rfl, hall _⟩
    split
    · exact queueOk_run hmine
    · exact queueOk_run hmine
    · exact queueOk_run hmine
    · trivial
  · trivial

/-! ### Programs of the site -/

theorem checks_onQueue {α : Type} {p : Handler α} {Q : α → Prop} (h : st.QueueChecks may p Q) :
    st.Checks may (onQueue p) Q :=
  all_onQueue.mpr h

theorem ok_pure {α : Type} (a : α) : st.Ok may (pure a : SiteProg α) := trivial

theorem ok_andThen {α β : Type} {p : SiteProg α} {q : SiteProg β} (hp : st.Ok may p)
    (hq : st.Ok may q) : st.Ok may (p >>= fun _ => q) :=
  All.bind hp fun _ _ => hq

theorem ok_perform {s : SiteStmt} (h : st.W may s) : st.Ok may (perform s : SiteProg s.Res) :=
  ⟨h, fun _ _ => trivial⟩

/-- What a walk was given is on record. -/
theorem checks_received {id : String} {a : Aim} (h : st.aim id = some a)
    (names : StringMap Bool) :
    st.Checks may (SiteDb.received a.deviceID id names) fun _ =>
      ∀ name ∈ names, st.Given id name :=
  ⟨⟨a, h, rfl⟩, fun _ hgiven => hgiven⟩

theorem ok_create (env : SiteEnv) (purpose : Purpose) (n : Nat) (hd : may d) (type : JobType)
    (payload : Payload) (createdBy : String) (maxAttempts : Nat)
    (hwalk : type = .parameterDiscovery → ∃ p, payload = .parameterDiscovery p ∧ p.names = ∅) :
    st.Ok may (env.create purpose n d type payload createdBy maxAttempts) := by
  unfold SiteEnv.create
  split
  · trivial
  · exact checks_onQueue (queueOk_insert hd hwalk)

theorem ok_create_only (env : SiteEnv) (purpose : Purpose) (n : Nat) (hd : may d) {type : JobType}
    (htype : type ≠ .parameterDiscovery) (payload : Payload) (createdBy : String)
    (maxAttempts : Nat) :
    st.Ok may (do let _ ← env.create purpose n d type payload createdBy maxAttempts) :=
  ok_andThen (ok_create env purpose n hd type payload createdBy maxAttempts
    fun h => absurd h htype) (ok_pure _)

section Gateway

variable (env : SiteEnv) (body : InboundBody)

theorem ok_cacheParameterValues (n : Nat) (hd : may d) (list : List ParameterValue) :
    st.Ok may (cacheParameterValues env n d list) :=
  ok_andThen (ok_perform (s := .upsert _ d _) hd) (ok_pure _)

/-! ### Discovery in a session -/

theorem ok_finishParameterDiscovery (hmine : st.Mine may job) {p : ParameterDiscoveryPayload}
    {names : StringMap Bool} (hwalk : st.Walk job.deviceID job.id { p with names := names }) :
    st.Ok may (finishParameterDiscovery env c job.deviceID job p names) := by
  have hfinish : ∀ env, st.QueueOk may
      (Acs.finishParameterDiscovery env c job.deviceID job p names) := fun env =>
    (all_finishParameterDiscovery env p names).mono_stmt fun s h =>
      hmine.completes hmine.may s (.finishes h)
  refine (ok_perform (s := .saveDiscovery job.deviceID _)
    ⟨hmine.may, job.id, _, hwalk, rfl, rfl⟩).bind fun r _ => ?_
  cases r with
  | saved =>
    exact ok_andThen (ok_perform (s := .updateDataModelRoot job.deviceID _) hmine.may)
      (checks_onQueue (hfinish _))
  | failed => exact checks_onQueue (hfinish _)
  | firmwareChanged =>
    exact ok_andThen (checks_onQueue (hfinish _))
      (ok_perform (s := .queueDiscoveryIfNeeded _ job.deviceID) hmine.may)

theorem ok_finishSubtreeMerge (hmine : st.Mine may job) (p : ParameterDiscoveryPayload)
    (names : StringMap Bool) :
    st.Ok may (finishSubtreeMerge env c job.deviceID job p names) :=
  (ok_perform (s := .mergeDiscoveredSubtree job.deviceID _ _) hmine.may).bind fun _ _ =>
    checks_onQueue ((all_finishSubtreeMerge _ p names).mono_stmt fun s h =>
      hmine.completes hmine.may s (.finishes h))

section Discovery

variable {p : ParameterDiscoveryPayload} (hmine : st.Mine may job)
  (htype : job.type = .parameterDiscovery) (hpayload : job.payload.asDiscovery = some p)

include hmine htype hpayload

theorem ok_skipDiscoveryObject : st.Ok may (skipDiscoveryObject env c job.deviceID job p) := by
  have hwalk := hmine.copy.walk htype p hpayload
  unfold skipDiscoveryObject
  split
  · exact checks_onQueue (queueOk_run hmine)
  next hskip =>
    exact ok_finishParameterDiscovery env hmine (hwalk.skip hskip)
  next hskip =>
    exact checks_onQueue (queueOk_run ⟨hmine, htype, hwalk.skip hskip⟩)

theorem ok_takeNames (names : StringMap Bool) :
    st.Ok may (takeNames env c job.deviceID job p names) := by
  have hwalk := hmine.copy.walk htype p hpayload
  refine (checks_received hwalk.aim names).bind fun _ hgiven => ?_
  split
  · exact ok_finishSubtreeMerge env hmine p names
  · split
    · split
      · exact checks_onQueue (queueOk_run hmine)
      next hadvance =>
        exact checks_onQueue (queueOk_run ⟨hmine, htype, hwalk.advance hgiven hadvance⟩)
      next hadvance =>
        exact ok_finishParameterDiscovery env hmine (hwalk.advance hgiven hadvance)
    · exact ok_finishParameterDiscovery env hmine (hwalk.whole hgiven)

end Discovery

theorem ok_completeParameterDiscovery (hmine : st.Mine may job)
    (htype : job.type = .parameterDiscovery) :
    st.Ok may (completeParameterDiscovery env c job.deviceID job body) := by
  unfold completeParameterDiscovery
  cases hpayload : job.payload.asDiscovery with
  | none => trivial
  | some p =>
    have hfallback := fun detail =>
      checks_onQueue ((all_discoveryFallback (R := st.queueR) env.gateway p detail).mono_stmt
        (hmine.completes (c := c) hmine.may))
    dsimp only
    split
    · split
      · exact ok_skipDiscoveryObject env hmine htype hpayload
      · exact hfallback _
    · exact hfallback _
    · split
      · exact hfallback _
      · exact ok_takeNames env hmine htype hpayload _

/-! ### Completing a job -/

theorem ok_completeSetParameter (hmine : st.Mine may job) (htype : job.type = .setParameter) :
    st.Ok may (completeSetParameter env c job.deviceID job body) := by
  have hrest := checks_onQueue ((all_completeSetParameter (R := st.queueR) env.gateway body
    htype).mono_stmt (hmine.completes (c := c) hmine.may))
  have hupsert : ∀ values, st.Ok may (perform
      (.upsert (env.ids .rediscovery 0) job.deviceID values)) :=
    fun values => ok_perform hmine.may
  unfold completeSetParameter
  split
  · split
    · split
      · exact ok_andThen (ok_cacheParameterValues env 0 hmine.may _) hrest
      · exact hrest
    · exact hrest
  · split
    · exact hrest
    · refine ok_andThen (checks_onQueue (queueOk_run hmine)) (ok_andThen (hupsert _) ?_)
      exact ok_andThen (checks_onQueue (queueOk_create env.gateway hmine.may (by decide) _ _ _ _))
        (ok_pure _)
  · exact hrest

theorem ok_completeAnswered (hmine : st.Mine may job) :
    st.Ok may (completeAnswered env c job.deviceID job body) := by
  have hrest := checks_onQueue ((all_completeAnswered (R := st.queueR) env.gateway body).mono_stmt
    (hmine.completes (c := c) hmine.may))
  unfold completeAnswered
  split
  · exact ok_completeSetParameter env body hmine ‹_›
  · split
    · refine ok_andThen hrest ?_
      split
      · split
        · trivial
        · exact ok_cacheParameterValues env 0 hmine.may _
      · trivial
    · exact hrest

theorem ok_completeJob (hd : may d) (current : CurrentJob) :
    st.Ok may (completeJob env d current body) := by
  refine all_ask trivial fun r hr => ?_
  split
  · trivial
  next job =>
    split
    · trivial
    next hopen =>
      simp only [Bool.or_eq_true, decide_eq_true_eq, not_or, not_not] at hopen
      obtain ⟨rfl, _⟩ := hopen
      have hmine : st.Mine may job := ⟨(hr job rfl).2, hd⟩
      split
      · exact ok_completeParameterDiscovery env body hmine ‹_›
      · split
        · exact checks_onQueue (queueOk_run hmine)
        · exact ok_completeAnswered env body hmine

/-! ### Onboarding, policies and templates -/

theorem ok_queueOnboardingConfiguration (hd : may d) (creator : String) :
    ∀ writes,
      st.Ok may (queueOnboardingConfiguration env d creator writes) := by
  intro writes
  induction writes with
  | nil => trivial
  | cons write rest ih =>
    obtain ⟨parameters, n⟩ := write
    cases parameters with
    | nil => exact ih
    | cons w ws =>
      refine (ok_create env .onboarding n hd .setParameter _ _ _ nofun).bind
        fun key _ => ?_
      split
      · trivial
      · exact ok_andThen ih (ok_pure _)

theorem ok_reconcileOnboarding (hd : may d) (onInform : Bool) :
    st.Ok may (reconcileOnboarding env d onInform) := by
  have hwrites : st.Ok may (queueOnboardingConfiguration env d (env.onboarding onInform).creator
      (env.onboarding onInform).writes.zipIdx) :=
    ok_queueOnboardingConfiguration env hd _ _
  unfold reconcileOnboarding
  dsimp only
  split
  · split
    · exact ok_andThen (ok_create env .sim 0 hd .getParameter _ _ _ nofun) hwrites
    · exact hwrites
  · exact hwrites

theorem ok_reconcileOnboardingAtSessionEnd (hd : may d) :
    st.Ok may (reconcileOnboardingAtSessionEnd env d) := by
  refine all_ask trivial fun r hr => ?_
  split
  · trivial
  next device =>
    rw [(hr device rfl).1]
    exact ok_reconcileOnboarding env hd false

theorem ok_enforcePolicies (hd : may d) (reported : List ParameterValue) :
    st.Ok may (enforcePolicies env d reported) := by
  refine all_each fun policy _ => ?_
  dsimp only
  split
  · trivial
  · split
    · trivial
    · exact ok_create_only env .policy _ hd (by decide) _ _ _

theorem ok_applyAutoProvisioningTemplates (hd : may d) :
    st.Ok may (applyAutoProvisioningTemplates env d) :=
  all_each fun _ _ => ok_create_only env .template _ hd (by decide) _ _ _

theorem ok_autoDiscoverParameters {device : Device} (hd : may device.id) :
    st.Ok may (autoDiscoverParameters env device) := by
  refine all_ask trivial fun values _ => ?_
  refine all_ask trivial fun (active : Option (Option Job)) _ => ?_
  split
  · exact ok_andThen (ok_create env .bootstrap 0 hd .parameterDiscovery _ _ _
      fun _ => ⟨_, rfl, rfl⟩) (ok_pure _)
  · trivial

theorem ok_refreshGatewayInfoOnBoot (hd : may d) :
    st.Ok may (refreshGatewayInfoOnBoot env d) := by
  refine all_ask trivial fun (names : Option (Option DiscoveredTree)) _ => ?_
  split
  · split
    · trivial
    · exact ok_create_only env .gatewayInfo 0 hd (by decide) _ _ _
  · trivial

theorem ok_maybeQueueWiFiInsights (hd : may d) : st.Ok may (maybeQueueWiFiInsights env d) := by
  unfold maybeQueueWiFiInsights
  split
  · trivial
  · exact ok_create_only env .wifiInsights 0 hd (by decide) _ _ _

/-! ### Sending the next job -/

theorem checks_leaseForSession (hd : may d) :
    st.Checks may (leaseForSession env d) fun r => ∀ j, r = some (some j) → st.Mine may j := by
  have hlease : st.Checks may
      (onQueue (Db.lease d sessionDispatchableTypes false env.gateway.owner none))
      fun r => ∀ j, r = some (some j) → st.Mine may j := by
    refine (all_perform (by exact hd)).mono fun r hr j hj => ?_
    obtain ⟨hcopy, hdevice⟩ := hr j hj
    exact ⟨hcopy, hdevice ▸ hd⟩
  refine hlease.bind fun r hr => ?_
  split
  · refine (ok_reconcileOnboardingAtSessionEnd env hd).bind fun queued _ => ?_
    split
    · exact hlease
    · rintro j ⟨⟩
  · exact hr

theorem ok_sendNext {session : Session} (hd : may session.deviceID)
    (howner : st.owner session.id = some session.deviceID) :
    st.Ok may (sendNext env session) := by
  refine (checks_leaseForSession env hd).bind fun r hr => ?_
  split
  · trivial
  · exact ⟨⟨_, howner, hd⟩, fun _ _ => trivial⟩
  next job =>
    refine all_ask ⟨_, howner, hd⟩ fun r _ => ?_
    split
    · trivial
    · exact checks_onQueue (queueOk_sendJob env.gateway (hr job rfl))

end Gateway

end Site

end Acs
