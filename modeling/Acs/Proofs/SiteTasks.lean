/-
Every task of the site issues only statements that `Site.W` allows.

A CWMP request acts for the devices that its identity may speak for: the device its
credential is bound to, the device whose natural key its certificate carries.  Where the
two are not bound, any device will do.  All other tasks may act for every device.
-/
import Acs.Proofs.SiteChecks

namespace Acs

open Prog

/-! ### Identities -/

/-- The identity of a request may speak for the device. -/
structure InboundIdentity.Speaks (bound : InboundIdentity) (st : Site) (d : String) : Prop where
  credential : bound.credentialDeviceID ≠ "" → d = bound.credentialDeviceID
  certificate : bound.mtlsNaturalKey ≠ "" → st.serial d = some bound.mtlsNaturalKey

namespace Site

section Identity

variable {st : Site} {may : String → Prop} (env : SiteEnv)

theorem checks_allows (d : String) :
    st.Checks may (allows env d) fun allowed => allowed → env.bound.Speaks st d := by
  unfold allows
  split
  · nofun
  next hcredential =>
    have hspeaks : env.bound.credentialDeviceID ≠ "" → d = env.bound.credentialDeviceID := by
      intro hbound
      simp only [Bool.and_eq_true, decide_eq_true_eq, not_and, not_not] at hcredential
      exact (hcredential hbound).symm
    split
    · refine all_ask trivial fun r hr => ?_
      split
      · nofun
      next device =>
        intro hallowed
        obtain ⟨_, hserial⟩ := hr device rfl
        refine ⟨hspeaks, fun _ => ?_⟩
        rw [hserial, of_decide_eq_true hallowed]
    next hcertificate =>
      intro _
      exact ⟨hspeaks, fun h => absurd h (by simpa using hcertificate)⟩

theorem ok_dispatch (sessionID : String) (body : InboundBody) :
    st.Ok (env.bound.Speaks st) (dispatch env sessionID body) := by
  unfold dispatch
  refine all_ask trivial fun r hr => ?_
  split
  · trivial
  next session =>
    obtain ⟨rfl, howner⟩ := hr session rfl
    split
    · trivial
    · refine (checks_allows env session.deviceID).bind fun allowed hallowed => ?_
      split
      · have hd := hallowed ‹_›
        split
        · exact ok_sendNext env hd howner
        · refine ok_andThen (ok_completeJob env body hd _) ?_
          refine all_ask ⟨_, howner, hd⟩ fun r _ => ?_
          split
          · trivial
          · exact ok_sendNext env hd howner
      · trivial

theorem ok_finishTransfer {job : Job} (hmine : st.Mine may job) (tc : TransferComplete) :
    st.Ok may (finishTransfer env job tc) := by
  unfold finishTransfer
  dsimp only
  split
  · trivial
  · split
    · exact checks_onQueue (queueOk_run hmine)
    · refine ok_andThen (checks_onQueue (queueOk_run hmine)) ?_
      split
      · exact ok_andThen (checks_onQueue
          (queueOk_create env.gateway hmine.may (by decide) _ _ _ _)) (ok_pure _)
      · trivial

theorem ok_handleTransferComplete (tc : TransferComplete) :
    st.Ok (env.bound.Speaks st) (handleTransferComplete env tc) := by
  unfold handleTransferComplete
  refine all_ask trivial fun r hr => ?_
  split
  · trivial
  next job =>
    refine (checks_allows env job.deviceID).bind fun allowed hallowed => ?_
    split
    · exact ok_finishTransfer env ⟨hr job rfl, hallowed ‹_›⟩ tc
    · trivial

/-! ### Inform -/

theorem ok_recoverAbandonedDiscovery {d : String} (hd : may d) :
    st.Ok may (recoverAbandonedDiscovery env d) := by
  unfold recoverAbandonedDiscovery
  refine all_ask trivial fun r hr => ?_
  split
  · trivial
  next inFlight =>
    refine all_each fun job hjob => ?_
    obtain ⟨hcopy, rfl, htype⟩ := hr inFlight rfl job hjob
    cases hpayload : job.payload.asDiscovery with
    | none => trivial
    | some p =>
      dsimp only
      split
      · trivial
      · exact ok_skipDiscoveryObject env ⟨hcopy, hd⟩ htype hpayload

theorem ok_sharedCredentialAllows (key : String) :
    st.Ok may (sharedCredentialAllows env key) := by
  unfold sharedCredentialAllows
  split
  · refine all_ask trivial fun (r : Option (Option Device)) _ => ?_
    split <;> trivial
  · trivial

/-- A bound credential is accepted for the natural key of its device only. -/
theorem checks_credentialAllows (key : String) :
    st.Checks may (credentialAllows env key) fun allowed => allowed →
      env.bound.credentialDeviceID ≠ "" →
      st.serial env.bound.credentialDeviceID = some key := by
  unfold credentialAllows
  split
  · refine all_ask trivial fun (r : Option (Option Device)) hr => ?_
    split
    next existing =>
      intro hallowed _
      rw [← of_decide_eq_true hallowed]
      exact hr existing rfl
    · nofun
  next hunbound =>
    intro _ hbound
    exact absurd hbound (by simpa using hunbound)

theorem ok_beforeSession {device : Device} (hd : may device.id) (inform : Inform) :
    st.Ok may (beforeSession env device inform) := by
  unfold beforeSession
  refine ok_andThen (ok_cacheParameterValues env 1 hd _) ?_
  refine ok_andThen (ok_enforcePolicies env hd _) ?_
  refine ok_andThen (ok_reconcileOnboarding env hd true) ?_
  split
  · exact ok_andThen (ok_applyAutoProvisioningTemplates env hd) (ok_autoDiscoverParameters env hd)
  · split
    · exact ok_refreshGatewayInfoOnBoot env hd
    · trivial

theorem ok_afterSession {device : Device} (hd : may device.id) (inform : Inform) :
    st.Ok may (afterSession env device inform) :=
  ok_andThen (ok_recoverAbandonedDiscovery env hd)
    (ok_andThen (checks_onQueue (queueOk_recoverDroppedSessionJobs hd _))
      (ok_andThen (checks_onQueue (queueOk_run hd)) (ok_maybeQueueWiFiInsights env hd)))

theorem ok_acceptInform (inform : Inform)
    (hspeaks : ∀ d, st.serial d = some (inform.naturalKey env.upper) → may d) :
    st.Ok may (acceptInform env inform) := by
  unfold acceptInform
  refine all_ask trivial fun r hr => ?_
  split
  · trivial
  next device =>
    have hd := hspeaks device.id (hr device rfl)
    refine ok_andThen (ok_beforeSession env hd inform) ?_
    refine (all_perform (by exact hd)).bind fun r _ => ?_
    split
    · trivial
    · exact ok_afterSession env hd inform

theorem ok_handleInform (inform : Inform) :
    st.Ok (env.bound.Speaks st) (handleInform env inform) := by
  unfold handleInform
  dsimp only
  split
  · trivial
  · refine (ok_sharedCredentialAllows env _).bind fun shared _ => ?_
    split
    · trivial
    · refine (checks_credentialAllows env _).bind fun allowed hallowed => ?_
      split
      · trivial
      next hcredential =>
        split
        · trivial
        next hcertificate =>
          refine ok_acceptInform env inform fun d hd => ⟨fun hbound => ?_, fun hbound => ?_⟩
          · exact serial_inj hd (hallowed (by simpa using hcredential) hbound)
          · have hkey : env.bound.mtlsNaturalKey = inform.naturalKey env.upper := by
              simpa [hbound] using hcertificate
            rw [hd, hkey]

/-- **A request acts only for devices that its identity may speak for.** -/
theorem ok_handleCWMP (req : CwmpRequest) :
    st.Ok (req.env.bound.Speaks st) (handleCWMP req) := by
  unfold handleCWMP
  split
  · exact ok_handleInform req.env _
  · split
    · trivial
    · split
      · exact ok_handleTransferComplete req.env _
      · exact ok_dispatch req.env _ _
      · trivial

end Identity

/-! ### Answers over USP -/

section Usp

variable {st : Site} {may : String → Prop} {c : Cause} {job : Job} {retry : Handler Unit}
  (env : UspEnv)

section Answers

variable (outcome : ResponseOutcome) (detail : ResultDetail) (hmine : st.Mine may job)
  (hretry : st.QueueOk may retry)

include hmine hretry

theorem ok_saveSupportedDM {p : ParameterDiscoveryPayload} (hwalk : st.Walk job.deviceID job.id p)
    {s : DiscoverySnapshot} (hnames : p.names = s.names)
    (hfirmware : p.firmware = s.expectedFirmware) :
    st.Ok may (saveSupportedDM env c job detail retry s) := by
  unfold saveSupportedDM
  refine (ok_perform (s := .saveDiscovery job.deviceID s)
    ⟨hmine.may, job.id, p, hwalk, hnames, hfirmware⟩).bind fun r _ => ?_
  cases r with
  | saved => exact checks_onQueue (queueOk_resolveSuccess hmine hretry _)
  | failed => exact checks_onQueue (queueOk_resolveFailure hmine hretry _ _)
  | firmwareChanged =>
    exact ok_andThen (checks_onQueue (queueOk_resolveFailure hmine hretry _ _))
      (ok_perform (s := .queueDiscoveryIfNeeded env.fresh job.deviceID) hmine.may)

theorem ok_takeSupportedDM (htype : job.type = .parameterDiscovery) {p : ParameterDiscoveryPayload}
    (hpayload : job.payload.asDiscovery = some p) :
    st.Ok may (takeSupportedDM env c job p outcome detail retry) := by
  have hwalk := hmine.copy.walk htype p hpayload
  have hmerged : st.Walk job.deviceID job.id
      (mergeCapabilities p outcome.discoveredCapabilities) :=
    hwalk.step rfl rfl fun _ => .inl
  have hfail := fun code text =>
    checks_onQueue (queueOk_resolveFailure (c := c) hmine hretry code text)
  unfold takeSupportedDM
  refine (checks_received hwalk.aim outcome.discoveredNames).bind fun _ hgiven => ?_
  split
  · exact ok_saveSupportedDM env detail hmine hretry (hwalk.whole hgiven) rfl rfl
  · split
    · exact hfail _ _
    next hadvance =>
      exact ok_saveSupportedDM env detail hmine hretry (hmerged.advance hgiven hadvance) rfl rfl
    next hadvance =>
      refine (all_perform
        ⟨hmine, htype, hmerged.advance hgiven hadvance⟩).bind fun count _ => ?_
      split
      · exact hfail _ _
      · exact checks_onQueue hretry

theorem ok_completeSupportedDM (htype : job.type = .parameterDiscovery) :
    st.Ok may (completeSupportedDM env c job outcome detail retry) := by
  unfold completeSupportedDM
  cases hpayload : job.payload.asDiscovery with
  | none => exact checks_onQueue (queueOk_resolveFailure hmine hretry _ _)
  | some p =>
    dsimp only
    split
    · exact checks_onQueue (queueOk_resolveFailure hmine hretry _ _)
    · exact ok_takeSupportedDM env outcome detail hmine hretry htype hpayload

theorem ok_completeWrite (htype : job.type ≠ .parameterDiscovery) :
    st.Ok may (completeWrite env c job outcome detail retry) := by
  have hrest := fun env : UspEnv => checks_onQueue (all_completeWrite
    (queueOk_resolveFailure (c := c) hmine hretry) (queueOk_resolveSuccess hmine hretry) env outcome
    detail hretry fun _ => ⟨hmine, htype⟩)
  unfold completeWrite
  split
  · exact (ok_perform (s := .upsert env.fresh job.deviceID _) hmine.may).bind
      fun _ _ => hrest _
  · exact hrest _

theorem ok_completeRead : st.Ok may (completeRead env c job outcome detail retry) := by
  have hrest := fun env : UspEnv => checks_onQueue (all_completeRead
    (queueOk_resolveFailure (c := c) hmine hretry) (queueOk_resolveSuccess hmine hretry) env outcome
    detail)
  unfold completeRead
  split
  · exact (ok_perform (s := .upsert env.fresh job.deviceID _) hmine.may).bind
      fun _ _ => hrest _
  · exact hrest _

theorem ok_completeResponse : st.Ok may (completeResponse env c job outcome detail retry) := by
  unfold completeResponse
  split
  next htype =>
    exact ok_completeWrite env outcome detail hmine hretry (by rw [htype]; decide)
  · exact ok_completeSupportedDM env outcome detail hmine hretry ‹_›
  · exact ok_completeRead env outcome detail hmine hretry
  · exact checks_onQueue (queueOk_resolveSuccess hmine hretry _)

end Answers

theorem ok_resolvePending (hall : ∀ d, may d) (retries : List UspEnv) (msg : UspMsg)
    (hcopy : st.Copy job) : st.Ok may (resolvePending env retries msg job) := by
  have hmine : st.Mine may job := ⟨hcopy, hall _⟩
  have hretry : st.QueueOk may (tryDispatch retries job.deviceID) := queueOk_tryDispatch hall
  have htake : st.QueueOk may (Db.pendingTake msg.msgID) := ⟨trivial, fun _ _ => trivial⟩
  unfold resolvePending
  dsimp only
  split
  · refine checks_onQueue (All.bind htake fun taken _ => ?_)
    split
    · exact queueOk_resolveFailure hmine hretry _ _
    · trivial
  · split
    · trivial
    · refine (checks_onQueue htake).bind fun taken _ => ?_
      split
      · split
        · exact checks_onQueue (queueOk_resolveFailure hmine hretry _ _)
        · exact ok_completeResponse env _ _ hmine hretry
      · trivial

theorem ok_handleResponse (hall : ∀ d, may d) (retries : List UspEnv) (endpoint : String)
    (msg : UspMsg) : st.Ok may (handleResponse env retries endpoint msg) := by
  unfold handleResponse
  refine all_ask trivial fun r hr => ?_
  split
  · trivial
  · split
    · trivial
    · exact ok_resolvePending env hall retries msg (hr _ rfl)

end Usp

/-! ### Discoveries that are asked for -/

section Asked

variable {st : Site} {may : String → Prop} (hall : ∀ d, may d)

include hall

theorem ok_createParameterDiscovery (env : SiteEnv) (d operator : String) (incremental : Bool) :
    st.Ok may (createParameterDiscovery env d operator incremental) := by
  unfold createParameterDiscovery
  refine all_ask trivial fun device _ => ?_
  split
  · trivial
  · refine all_ask trivial fun values _ => ?_
    split
    · trivial
    · refine all_ask trivial fun (active : Option (Option Job)) _ => ?_
      split
      · exact ok_andThen (ok_create env .bootstrap 0 (hall d) .parameterDiscovery _ _ _
          fun _ => ⟨_, rfl, rfl⟩) (ok_pure _)
      · trivial

theorem ok_stepDiscover (env : SiteEnv) (d root : String) :
    st.Ok may (stepDiscover env d root) :=
  ok_andThen (ok_create env .bootstrap 0 (hall d) .parameterDiscovery _ _ _
    fun _ => ⟨_, rfl, rfl⟩) (ok_pure _)

theorem ok_createJob (spec : JobSpec) (payload : Payload) :
    st.Ok may (createJob spec payload) := by
  unfold createJob
  split
  · trivial
  next htype =>
    exact ok_andThen (checks_onQueue (queueOk_insert (hall _) fun h => absurd h htype)) (ok_pure _)

end Asked

end Site

/-! ### Tasks -/

/-- The devices that a task may act for. -/
def SiteTask.May (st : Site) : SiteTask → String → Prop
  | .cwmp req => req.env.bound.Speaks st
  | _ => fun _ => True

open Site in
/-- **Every task acts only for the devices it may act for.** -/
theorem SiteTask.ok (t : SiteTask) (st : Site) : st.Ok (t.May st) t.prog := by
  have hall : ∀ _ : String, True := fun _ => trivial
  cases t with
  | create spec payload => exact ok_createJob hall spec payload
  | discover env d operator incremental =>
    exact ok_createParameterDiscovery hall env d operator incremental
  | discoverSubtree env d root => exact ok_stepDiscover hall env d root
  | queueDiscovery ids d => exact ok_perform (s := .queueDiscoveryIfNeeded ids d) trivial
  | register id key => exact ⟨trivial, fun _ _ => trivial⟩
  | cwmp req => exact ok_handleCWMP req
  | tryDispatch envs d => exact checks_onQueue (queueOk_tryDispatch hall)
  | response env retries endpoint msg => exact Site.ok_handleResponse env hall retries endpoint msg
  | operationComplete retries d oc attempt =>
    exact checks_onQueue (queueOk_handleOperationComplete hall retries d oc attempt)
  | valueChange ids d values => exact ⟨trivial, fun _ _ => trivial⟩
  | forget conn => exact checks_onQueue ⟨trivial, fun _ _ => trivial⟩
  | reaperPass => exact checks_onQueue (queueOk_recoverExpiredLeases hall)
  | connectionRequest ownerName outcome =>
    exact checks_onQueue (queueOk_connectionRequestWorker hall ownerName outcome)

end Acs
