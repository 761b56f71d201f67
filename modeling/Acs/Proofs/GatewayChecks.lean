/-
The handlers of the CWMP gateway issue only statements that `Facts.W` allows.

The proofs follow the handlers branch by branch.  What there is to see is which
hypothesis a branch needs: every write goes through a copy for which `Facts.Writes`
holds, and the few writes that put a job back into the queue, or park it, are
reached for one type of job only.
-/
import Acs.Proofs.Knowledge

namespace Acs

open Facts Prog

variable {F : Facts} {c : Cause} {job : Job} (env : GatewayEnv) (d : String) (body : InboundBody)

/-! ### Completing a job -/

theorem Facts.Writes.finishes (hw : F.Writes c job) (s : Stmt) (h : Finishes c d job s) : F.W s := by
  cases h with
  | success | detail | failed | timeout => exact hw
  | creates | rediscovers => trivial

theorem Facts.Writes.completes (hw : F.Writes c job)
    (hsent : isCWMPDiagnosticType job.type → F.GatewayJob job.id) (s : Stmt)
    (h : Completes c d job s) : F.W s := by
  cases h with
  | finishes h => exact hw.finishes d s h
  | fallsBack | transfers => exact hw
  | parks htype => exact ⟨hw, htype, hsent htype⟩
  | readsBack htype => exact ⟨hw, htype⟩

/-! ### Discovery in a session -/

theorem ok_queueDiscovery (ids : String × String) (cache : DeviceCache) :
    F.Ok (queueDiscovery ids d cache) :=
  ⟨trivial, fun _ _ => trivial⟩

theorem ok_skipDiscoveryObject (hw : F.Writes c job) (htype : job.type = .parameterDiscovery)
    (payload : ParameterDiscoveryPayload) : F.Ok (skipDiscoveryObject env c d job payload) :=
  all_skipDiscoveryObject env (hw.finishes d) (fun _ => ⟨hw, htype⟩) payload

theorem ok_completeParameterDiscovery (hw : F.Writes c job)
    (htype : job.type = .parameterDiscovery) :
    F.Ok (completeParameterDiscovery env c d job body) := by
  have hcompletes := hw.completes d (by simp [htype, isCWMPDiagnosticType])
  have hfallback := fun p detail =>
    (all_discoveryFallback (R := F.R) env p detail).mono_stmt hcompletes
  have hfinish := fun p names =>
    (all_finishParameterDiscovery (R := F.R) env p names).mono_stmt (hw.finishes d)
  unfold completeParameterDiscovery
  dsimp only
  repeat' split
  all_goals first
    | trivial
    | exact hfallback _ _
    | exact hfinish _ _
    | exact ok_skipDiscoveryObject env d hw htype _
    | exact (all_finishSubtreeMerge env _ _).mono_stmt (hw.finishes d)
    | exact ok_run hw
    | exact ok_run ⟨hw, htype⟩

theorem ok_completeJob {current : CurrentJob} (hsent : F.GatewayJob current.id) :
    F.Ok (completeJob env d current body) := by
  unfold completeJob
  refine all_ask trivial ?_
  intro r hr
  split
  · trivial
  next job =>
    obtain ⟨hid, hknows⟩ := hr job rfl
    split
    · trivial
    next hopen =>
      simp only [Bool.or_eq_true, decide_eq_true_eq, not_or, not_not] at hopen
      have hw : F.Writes (.answer current.id current.attempt) job :=
        { copy := hknows.copy
          named := hid
          answered := fun n hn => ⟨hopen.2, fun hf => hknows.current hf hopen.2 n hn⟩
          unfinished := .inl (by rw [hopen.2]; rfl) }
      split
      · exact ok_completeParameterDiscovery env d body hw ‹_›
      · split
        · exact ok_run hw
        · exact (all_completeAnswered env body).mono_stmt (hw.completes d fun _ => hid ▸ hsent)

/-! ### Sending the next job -/

theorem Facts.Writes.withPayload (hw : F.Writes c job) (payload : Payload) :
    F.Writes c { job with payload := payload } where
  copy := hw.copy
  named := by cases c <;> exact hw.named
  answered := hw.answered
  unfinished := hw.unfinished

theorem Facts.Leased.writes {types : List JobType} {uspOnly : Bool}
    (h : F.Leased d types uspOnly job) : F.Writes .dispatch job where
  copy := h.copy
  named := trivial
  answered := by intro n hn; cases hn
  unfinished := .inl (by rw [h.status]; rfl)

theorem checks_bindFirmware (hw : F.Writes .dispatch job) (cache : DeviceCache) :
    F.Checks (bindFirmware cache job) fun r => ∀ j, r = .ok j →
      (∃ payload, j = { job with payload := payload }) ∧
        (job.type ≠ .getParameter → job.type ≠ .setParameter → j = job) := by
  refine (all_bindFirmware (fun _ _ => hw) cache).mono fun r hr j hj => ?_
  rcases hr j hj with rfl | ⟨htype, payload, -, rfl⟩
  · exact ⟨⟨j.payload, rfl⟩, fun _ _ => rfl⟩
  · exact ⟨⟨payload, rfl⟩, fun h₁ h₂ => (htype.elim h₁ h₂).elim⟩

section

variable {env : GatewayEnv} {rendered : Job} (h : openSecretHandles env job = .ok rendered)

include h

theorem openSecretHandles_of_ne (htype : job.type ≠ .setParameter) : rendered = job := by
  unfold openSecretHandles at h
  rw [if_pos (by simpa using htype)] at h
  exact (Except.ok.inj h).symm

theorem openSecretHandles_spec : rendered.toJobSpec = job.toJobSpec := by
  by_cases htype : job.type = .setParameter
  · unfold openSecretHandles at h
    rw [if_neg (by simpa using htype)] at h
    split at h
    · rw [← Except.ok.inj h]
    · split at h
      · rw [← Except.ok.inj h]
      · cases hopen : openWrites env _ with
        | error msg => rw [hopen] at h; cases h
        | ok writes => rw [hopen] at h; rw [← Except.ok.inj h]
  · rw [openSecretHandles_of_ne h htype]

end

theorem ok_sendJob {types : List JobType} (h : F.Leased d types false job) :
    F.Ok (sendJob env job) := by
  have hw := h.writes
  unfold sendJob
  refine (checks_bindFirmware hw env.cache).bind ?_
  intro r hr
  split
  · exact ok_run hw
  next bound =>
    obtain ⟨⟨payload, hbound⟩, hsame⟩ := hr bound rfl
    have hw' : F.Writes .dispatch bound := by
      rw [hbound]
      exact hw.withPayload payload
    split
    · exact ok_run hw'
    next rendered hopen =>
      split
      · exact ok_run hw'
      · have hspec := openSecretHandles_spec hopen
        refine Checks.andThen (all_perform ⟨hw'.copy.of_spec hspec, fun _ hdiag => ?_⟩) (ok_pure _)
        -- A diagnostic is handed over as it was leased.
        rw [show rendered.type = bound.type from congrArg JobSpec.type hspec] at hdiag
        have hbound_ne : bound.type ≠ .getParameter ∧ bound.type ≠ .setParameter := by
          constructor <;> (intro hc; rw [hc] at hdiag; cases hdiag)
        have htype : bound.type = job.type := by rw [hbound]
        rw [htype] at hbound_ne
        have hjob := hsame hbound_ne.1 hbound_ne.2
        rw [openSecretHandles_of_ne hopen (by rw [htype]; exact hbound_ne.2), hjob]
        exact h.sent rfl

theorem checks_leaseForSession (hd : F.cwmp d) :
    F.Checks (leaseForSession env d) fun r =>
      ∀ j, r = some (some j) → F.Leased d sessionDispatchableTypes false j := by
  have hlease : F.MayLease d sessionDispatchableTypes false env.owner none := ⟨hd, rfl, rfl⟩
  unfold leaseForSession
  refine (all_perform (by exact hlease)).bind fun (r : Option (Option Job)) hr => ?_
  split
  · split
    · exact all_perform hlease
    · exact checks_pure (by rintro j ⟨⟩)
  · exact checks_pure hr

theorem ok_sendNext {session : Session} (hd : F.cwmp session.deviceID) :
    F.Ok (sendNext env session) := by
  unfold sendNext
  refine (checks_leaseForSession env _ hd).bind ?_
  intro r hr
  split
  · trivial
  · exact ⟨trivial, fun _ _ => trivial⟩
  next job =>
    have hleased := hr job rfl
    refine all_ask ?_ fun r _ => ?_
    · rintro current ⟨⟩
      exact ⟨job, hleased.sent rfl, rfl⟩
    · split
      · trivial
      · exact ok_sendJob env _ hleased

theorem ok_dispatch (sessionID : String) : F.Ok (dispatch env sessionID body) := by
  unfold dispatch
  refine all_ask trivial ?_
  intro r hr
  split
  · trivial
  next session =>
    have hs := hr session rfl
    split
    · trivial
    · split
      · exact ok_sendNext env hs.device
      next current hcurrent =>
        refine (ok_completeJob env _ body (hs.current _ hcurrent)).andThen ?_
        refine (all_perform (by rintro current ⟨⟩)).bind ?_
        intro r _
        split
        · trivial
        · exact ok_sendNext env hs.device

/-! ### TransferComplete and recovery -/

theorem ok_handleTransferComplete (tc : TransferComplete) :
    F.Ok (handleTransferComplete env tc) := by
  unfold handleTransferComplete
  refine all_ask trivial ?_
  intro r hr
  split
  · trivial
  next job =>
    obtain ⟨hkey, hknows⟩ := hr job rfl
    split
    · trivial
    · split
      · trivial
      next hopen =>
        have hw : F.Writes (.transferComplete tc.commandKey) job :=
          { copy := hknows.copy
            named := hkey
            answered := by intro n hn; cases hn
            unfinished := by
              by_cases hlate : lateTransferReconcilable job
              · exact .inr ⟨by rw [hkey], hlate⟩
              · simp only [hlate, Bool.not_false, Bool.true_and, Bool.and_eq_true,
                  decide_eq_true_eq, not_and_or, not_not] at hopen
                refine .inl ?_
                rcases hopen with hopen | hopen <;> rw [hopen] <;> rfl }
        split
        · exact ok_run hw
        · refine Checks.andThen (ok_run hw) ?_
          split
          · exact ⟨trivial, fun _ _ => trivial⟩
          · trivial

theorem Facts.Unanswered.writes (h : F.Unanswered d job) : F.Writes .recovery job where
  copy := h.copy
  named := trivial
  answered := by intro n hn; cases hn
  unfinished := .inl (by rw [h.status]; rfl)

theorem ok_recoverAbandonedDiscovery : F.Ok (recoverAbandonedDiscovery env d) := by
  unfold recoverAbandonedDiscovery
  refine all_ask trivial fun r hr => ?_
  split
  · trivial
  next inFlight =>
    refine all_each ?_
    intro job hjob
    obtain ⟨hun, htype⟩ := hr inFlight rfl job hjob
    split
    · trivial
    · split
      · trivial
      · exact ok_skipDiscoveryObject env d hun.writes htype _

theorem ok_recoverDroppedSessionJobs (hd : F.informs d) (events : List EventStruct) :
    F.Ok (recoverDroppedSessionJobs d events) := by
  unfold recoverDroppedSessionJobs
  refine all_ask trivial fun r hr => ?_
  split
  · trivial
  next dropped =>
    refine all_each ?_
    intro job hjob
    have hun := hr dropped rfl job hjob
    exact ok_run ⟨hun.writes, hun.device ▸ hd, _, _, rfl⟩

theorem ok_recoverOnInform (hd : F.informs d) (events : List EventStruct) :
    F.Ok (recoverOnInform env d events) :=
  (ok_recoverAbandonedDiscovery env d).andThen
    ((ok_recoverDroppedSessionJobs d hd events).andThen (ok_run ⟨hd, rfl⟩))

theorem ok_handleInform (hcwmp : F.cwmp d) (hd : F.informs d) (sessionID : String)
    (events : List EventStruct) : F.Ok (handleInform env d sessionID events) := by
  unfold handleInform
  refine (all_perform (by exact hcwmp)).bind ?_
  intro r _
  split
  · trivial
  · exact ok_recoverOnInform env d hd events

end Acs
