/-
The handlers of the USP dispatcher and the background workers issue only statements
that `Facts.W` allows, and with them every task of the system.
-/
import Acs.Proofs.GatewayChecks

namespace Acs

open Facts Prog

variable {F : Facts} {c : Cause} {job : Job} {retry : Handler Unit}

/-! ### Resolving a job -/

theorem Cause.names_of_spec {j k : Job} (h : j.toJobSpec = k.toJobSpec) (hj : c.names j) :
    c.names k := by
  have hid : j.id = k.id := congrArg JobSpec.id h
  have hkey : j.commandKey = k.commandKey := congrArg JobSpec.commandKey h
  cases c with
  | answer id n => exact hid.symm.trans hj
  | operationComplete | transferComplete => exact hkey.symm.trans hj
  | _ => trivial

theorem Facts.Copy.spec_eq {j k : Job} (hj : F.Copy j) (hk : F.Copy k) (hid : j.id = k.id) :
    j.toJobSpec = k.toJobSpec := by
  have hspec : some j.toJobSpec = some k.toJobSpec := by rw [← hj, ← hk, hid]
  exact Option.some.inj hspec

/-- A second look that finds the job RPC_SENT is as good as the first. -/
theorem Facts.Writes.again {current : Job} (hw : F.Writes c job) (hid : current.id = job.id)
    (hknows : F.Knows c current) (hstatus : current.status = .rpcSent) : F.Writes c current where
  copy := hknows.copy
  named := Cause.names_of_spec (hw.copy.spec_eq hknows.copy hid.symm) hw.named
  answered := fun n hn => ⟨hstatus, fun hf => hknows.current hf hstatus n hn⟩
  unfinished := .inl (by rw [hstatus]; rfl)

theorem ok_resolve (hw : F.Writes c job) {write : Job → Update}
    (hwrite : ∀ copy, F.Writes c copy → F.Allows c (write copy)) (hretry : F.Ok retry) :
    F.Ok (resolve c job write retry) :=
  all_resolve trivial hw (fun _ hr j hj hstatus => hw.again (hr j hj).1 (hr j hj).2 hstatus) hwrite
    hretry

theorem ok_resolveSuccess (hw : F.Writes c job) (hretry : F.Ok retry) (detail : ResultDetail) :
    F.Ok (resolveSuccess c job detail retry) :=
  ok_resolve hw (fun _ h => h) hretry

theorem ok_resolveFailure (hw : F.Writes c job) (hretry : F.Ok retry) (code text : String) :
    F.Ok (resolveFailure c job code text retry) :=
  ok_resolve hw (fun _ h => h) hretry

/-! ### Dispatching -/

/-- A job that must not be sent twice is never put back because it cannot be built. -/
theorem repeatable_of_unsupported (h : buildUSPRequest job = .error .unsupportedOverUSP)
    (htype : job.type ∈ uspDispatchableTypes)
    (hfirmware : job.type = .firmwareDownload → job.payload.members.uspInstance ≠ "") :
    job.type ∉ nonRepeatableTypes := by
  intro hmem
  unfold buildUSPRequest at h
  simp only [nonRepeatableTypes, List.mem_cons, List.not_mem_nil, or_false] at hmem
  rcases hmem with ht | ht | ht | ht | ht | ht
  · rw [ht] at h
    cases hp : job.payload <;> simp [hp] at h
  · rw [ht] at h
    cases hp : job.payload <;> simp [hp] at h
  · rw [ht] at h
    simp at h
  · rw [ht] at h
    simp at h
  · have hinstance := hfirmware ht
    rw [ht] at h
    cases hp : job.payload with
    | firmwareDownload p =>
      rw [hp] at h hinstance
      simp only [Payload.members] at hinstance
      simp only [hinstance, if_false] at h
      cases hop : firmwareDownloadOperation p.uspInstance p.url p.fileSize <;> simp [hop] at h
    | _ => simp [hp] at h
  · rw [ht] at htype
    simp [uspDispatchableTypes] at htype

variable {d : String}

theorem ok_tryDispatch {envs : List UspEnv} :
    ∀ {d : String}, F.usp d → F.Ok (tryDispatch envs d) := by
  induction envs with
  | nil => intro d _; trivial
  | cons env retries ih =>
    intro d hd
    unfold tryDispatch
    split
    · trivial
    · refine all_ask trivial fun (r : Option (Bool × Nat)) hr => ?_
      split
      next conn _ _ seen =>
        have hlease : F.MayLease d uspDispatchableTypes true env.owner (some seen) :=
          ⟨hd, rfl, rfl, seen, rfl, hr seen rfl⟩
        refine (all_perform (by exact hlease)).bind fun (r : Option (Option Job)) hr => ?_
        split
        next job =>
          have hleased := hr job rfl
          have hjob : F.usp job.deviceID := hleased.device ▸ hd
          refine (checks_bindFirmware hleased.writes env.cache).bind ?_
          intro r hr
          split
          · exact ok_resolveFailure hleased.writes (ih hjob) _ _
          next bound =>
            obtain ⟨⟨payload, hbound⟩, hsame⟩ := hr bound rfl
            have hfirmware : bound.type = .firmwareDownload →
                bound.payload.members.uspInstance ≠ "" := by
              intro ht
              have htype : job.type = .firmwareDownload := by rw [← ht, hbound]
              rw [hsame (by rw [htype]; decide) (by rw [htype]; decide)]
              exact hleased.firmware rfl htype
            have hw : F.Writes .dispatch bound := hbound ▸ hleased.writes.withPayload payload
            have htype : bound.type ∈ uspDispatchableTypes := by rw [hbound]; exact hleased.type
            have hd : F.usp bound.deviceID := by rw [hbound]; exact hjob
            refine all_sendUSP (fun hbuild => ⟨hw, ?_, hd⟩) (fun _ _ => hw) ⟨hw.copy, ?_, hd⟩
              ⟨hw.copy, by rintro ⟨⟩⟩ trivial
            · exact repeatable_of_unsupported hbuild htype hfirmware
            · rw [hbound]; exact hleased.status
        · trivial
      · trivial

/-! ### Answers -/

section Answers

variable (env : UspEnv) (outcome : ResponseOutcome) (detail : ResultDetail)

section

variable (hw : F.Writes c job) (hretry : F.Ok retry)

include hw hretry

theorem ok_saveSupportedDM : F.Ok (saveSupportedDM env c job detail retry) := by
  unfold saveSupportedDM
  split
  · exact ok_resolveSuccess hw hretry _
  · exact ok_resolveFailure hw hretry _ _
  · exact (ok_resolveFailure hw hretry _ _).andThen (ok_queueDiscovery _ _ _)

theorem ok_completeSupportedDM (htype : job.type = .parameterDiscovery) :
    F.Ok (completeSupportedDM env c job outcome detail retry) := by
  have hfail := ok_resolveFailure hw hretry
  have hsave := ok_saveSupportedDM env detail hw hretry
  unfold completeSupportedDM
  split
  · exact hfail _ _
  · split
    · exact hfail _ _
    · split
      · exact hsave
      · split
        · exact hfail _ _
        · exact hsave
        · refine all_ask ⟨hw, htype⟩ fun count _ => ?_
          split
          · exact hfail _ _
          · exact hretry

theorem ok_completeResponse : F.Ok (completeResponse env c job outcome detail retry) := by
  unfold completeResponse
  split
  next htype =>
    exact all_completeWrite (ok_resolveFailure hw hretry) (ok_resolveSuccess hw hretry) env outcome
      detail hretry fun _ => ⟨hw, htype⟩
  · exact ok_completeSupportedDM env outcome detail hw hretry ‹_›
  · exact all_completeRead (ok_resolveFailure hw hretry) (ok_resolveSuccess hw hretry) env outcome
      detail
  · exact ok_resolveSuccess hw hretry _

end

end Answers

/-- An answer to a pending request is about the attempt the request was sent for. -/
theorem Facts.Pending.writes {e : PendingDispatch} (h : F.Pending e) :
    F.Writes (.answer e.job.id e.job.attempts) e.job where
  copy := h.copy
  named := rfl
  answered := by
    intro n hn
    cases hn
    exact ⟨h.status, fun _ => rfl⟩
  unfinished := .inl (by rw [h.status]; rfl)

theorem ok_handleResponse (env : UspEnv) (retries : List UspEnv) (endpoint : String)
    (msg : UspMsg) : F.Ok (handleResponse env retries endpoint msg) := by
  unfold handleResponse
  refine all_ask trivial ?_
  intro r hr
  split
  · trivial
  next entry =>
    have hpending := hr entry rfl
    have hw := hpending.writes
    have hretry : F.Ok (tryDispatch retries entry.job.deviceID) := ok_tryDispatch hpending.device
    split
    · trivial
    · unfold resolvePending
      dsimp only
      split
      · refine all_ask trivial ?_
        intro taken _
        split
        · exact ok_resolveFailure hw hretry _ _
        · trivial
      · split
        · trivial
        · refine all_ask trivial ?_
          intro taken _
          split
          · split
            · exact ok_resolveFailure hw hretry _ _
            · exact ok_completeResponse _ _ _ hw hretry
          · trivial

theorem ok_handleOperationComplete (retries : List UspEnv) (hd : F.usp d)
    (oc : OperationComplete) (attempt : Nat) :
    F.Ok (handleOperationComplete retries d oc attempt) := by
  unfold handleOperationComplete
  refine all_ask trivial ?_
  intro r hr
  split
  · trivial
  next job =>
    obtain ⟨hkey, hknows⟩ := hr job rfl
    split
    · trivial
    next hopen =>
      simp only [Bool.or_eq_true, decide_eq_true_eq, not_or, not_not] at hopen
      obtain ⟨⟨_, hdevice⟩, hstatus⟩ := hopen
      have hw : F.Writes (.operationComplete oc.commandKey attempt) job :=
        { copy := hknows.copy
          named := hkey
          answered := fun n hn => ⟨hstatus, fun hf => hknows.current hf hstatus n hn⟩
          unfinished := .inl (by rw [hstatus]; rfl) }
      have hretry : F.Ok (tryDispatch retries job.deviceID) := ok_tryDispatch (hdevice ▸ hd)
      refine all_ask trivial fun _ _ => ?_
      split
      · exact ok_resolveFailure hw hretry _ _
      · exact ok_resolveSuccess hw hretry _

/-! ### Background work -/

theorem ok_recoverExpiredLeases : F.Ok recoverExpiredLeases := by
  refine all_untilFailure ?_
  intro u hu
  simp only [recoveryUpdates, List.mem_cons, List.not_mem_nil, or_false] at hu
  rcases hu with rfl | rfl | rfl | rfl | rfl <;> rfl

theorem ok_connectionRequestWorker (ownerName : String) (outcome : ConnReqOutcome) :
    F.Ok (connectionRequestWorker ownerName outcome) := by
  unfold connectionRequestWorker
  refine all_ask ⟨rfl, rfl⟩ fun (r : Option (Option Job)) hr => ?_
  split
  next job =>
    obtain ⟨hcopy, hstatus⟩ := hr job rfl
    have hw : F.Writes .worker job :=
      { copy := hcopy
        named := trivial
        answered := by intro n hn; cases hn
        unfinished := .inl (by rw [hstatus]; rfl) }
    split
    · exact ok_run hw
    · exact ok_run hw
    · exact ok_run hw
    · trivial
  · trivial

/-! ### Tasks -/

/-- The facts cover the devices a task is about. -/
structure Facts.Admits (F : Facts) (t : Task) : Prop where
  cwmp : ∀ d, t.informs = some d → F.cwmp d ∧ F.informs d
  usp : ∀ d, t.uspDevice = some d → F.usp d

/-- **Every task issues only statements that hold what they should.** -/
theorem ok_task {t : Task} (h : F.Admits t) : F.Ok t.prog := by
  cases t with
  | create spec payload => exact ⟨trivial, fun _ _ => trivial⟩
  | queueDiscovery ids d cache => exact ok_queueDiscovery d ids cache
  | inform env d sid events =>
    obtain ⟨hcwmp, hinforms⟩ := h.cwmp d rfl
    exact ok_handleInform env d hcwmp hinforms sid events
  | post env sid body => exact ok_dispatch env body sid
  | transferComplete env tc => exact ok_handleTransferComplete env tc
  | tryDispatch envs d => exact ok_tryDispatch (h.usp d rfl)
  | response env retries endpoint msg => exact ok_handleResponse env retries endpoint msg
  | operationComplete retries d oc attempt =>
    exact ok_handleOperationComplete retries (h.usp d rfl) oc attempt
  | forget conn => exact ⟨trivial, fun _ _ => trivial⟩
  | reaperPass => exact ok_recoverExpiredLeases
  | connectionRequest ownerName outcome => exact ok_connectionRequestWorker ownerName outcome

end Acs
