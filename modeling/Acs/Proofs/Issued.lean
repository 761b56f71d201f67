/-
What the handlers issue.

Here handlers are followed branch by branch once, for any account of what answers tell
(`R`) and of what holds of the statements (`W`).  A result about them is left to show that
the statements they may issue satisfy its `W`.
-/
import Acs.Queue.System

namespace Acs

open Prog

variable {R : (s : Stmt) → s.Res → Prop} {W : Stmt → Prop} {c : Cause} {d : String} {job : Job}

theorem all_run {u : Update} (h : W (.update c u)) : (Db.run c u).Issues R W :=
  ⟨h, fun _ _ => trivial⟩

/-! ### Completing a job -/

/-- The payload is that of a job that has not found anything yet. -/
def Unwalked (spec : JobSpec) (payload : Payload) : Prop :=
  spec.type = .parameterDiscovery → ∃ p, payload = .parameterDiscovery p ∧ p.names = ∅

/-- What ends a job, and what is queued in its place or after it. -/
inductive Finishes (c : Cause) (d : String) (job : Job) : Stmt → Prop
  | success : Finishes c d job (.update c (.markSuccess job))
  | detail {detail : ResultDetail} :
      Finishes c d job (.update c (.markSuccessWithDetail job detail))
  | failed {code text : String} : Finishes c d job (.update c (.markFailed job code text))
  | timeout {text : String} : Finishes c d job (.update c (.markTimeout job text))
  | creates {spec : JobSpec} {payload : Payload} (hd : spec.deviceID = d)
      (hnew : Unwalked spec payload) : Finishes c d job (.insert spec payload)
  | rediscovers {spec : JobSpec} {payload : Payload} (hd : spec.deviceID = d)
      (hnew : Unwalked spec payload) : Finishes c d job (.queueDiscoveryIfNeeded spec payload)

/-- What completing a job may issue. -/
inductive Completes (c : Cause) (d : String) (job : Job) : Stmt → Prop
  | finishes {s : Stmt} (h : Finishes c d job s) : Completes c d job s
  | fallsBack {key : String} : Completes c d job (.update c (.recordDiscoveryFallback job key))
  | parks {seconds : Nat} (htype : isCWMPDiagnosticType job.type = true) :
      Completes c d job (.update c (.markAwaitingDiagnostics job seconds))
  | transfers (htype : job.type = .firmwareDownload ∨ job.type = .upload) :
      Completes c d job (.update c (.markAwaitingTransferComplete job))
  | readsBack {p : SetParameterPayload} (htype : job.type = .setParameter) :
      Completes c d job (.update c (.beginReadback job p))

section Complete

variable (env : GatewayEnv) (body : InboundBody)

theorem finishes_create {type : JobType} (htype : type ≠ .parameterDiscovery) (n : Nat)
    (payload : Payload) (createdBy : String) (maxAttempts : Nat) :
    (env.create n d type payload createdBy maxAttempts).Issues R (Finishes c d job) :=
  ⟨.creates rfl fun h => absurd h htype, fun _ _ => trivial⟩

theorem all_finishParameterDiscovery (p : ParameterDiscoveryPayload) (names : StringMap Bool) :
    (finishParameterDiscovery env c d job p names).Issues R (Finishes c d job) := by
  unfold finishParameterDiscovery
  split
  · refine (all_run .detail).bind fun _ _ => ?_
    split
    · exact all_each fun _ _ => (finishes_create env (by decide) _ _ _ _).bind fun _ _ => trivial
    · trivial
  · exact all_run .failed
  · exact (all_run .failed).bind fun _ _ =>
      ⟨.rediscovers rfl fun _ => ⟨_, rfl, rfl⟩, fun _ _ => trivial⟩

theorem all_finishSubtreeMerge (p : ParameterDiscoveryPayload) (names : StringMap Bool) :
    (finishSubtreeMerge env c job p names).Issues R (Finishes c d job) := by
  unfold finishSubtreeMerge
  split
  · exact all_run .failed
  · exact all_run .detail

theorem all_skipDiscoveryObject (hfinishes : ∀ s, Finishes c d job s → W s)
    (hrequeue : ∀ p, W (.update c (.requeueDiscovery job p))) (p : ParameterDiscoveryPayload) :
    (skipDiscoveryObject env c d job p).Issues R W := by
  unfold skipDiscoveryObject
  split
  · exact all_run (hfinishes _ .failed)
  · exact (all_finishParameterDiscovery env _ _).mono_stmt hfinishes
  · exact all_run (hrequeue _)

theorem all_discoveryFallback (p : ParameterDiscoveryPayload) (detail : String) :
    (discoveryFallback env c d job p detail).Issues R (Completes c d job) := by
  refine (all_run (.finishes .failed)).bind fun _ _ => ?_
  split
  · refine (all_perform (.finishes (.creates rfl fun _ => ⟨_, rfl, rfl⟩))).bind fun key _ => ?_
    split
    · trivial
    · exact all_run .fallsBack
  · trivial

theorem all_awaitDiagnostic (htype : isCWMPDiagnosticType job.type) :
    (awaitDiagnostic env c job).Issues R (Completes c d job) := by
  unfold awaitDiagnostic
  split
  · exact all_run (.finishes .timeout)
  · exact all_run (.parks htype)

theorem all_completeDiagnostic (htype : isCWMPDiagnosticType job.type) :
    (completeDiagnostic env c job body).Issues R (Completes c d job) := by
  unfold completeDiagnostic
  dsimp only
  repeat' split
  all_goals first
    | exact all_awaitDiagnostic env htype
    | exact all_run (.finishes .failed)
    | exact all_run (.finishes .success)
    | exact all_run (.finishes .detail)

theorem all_completeSetParameter (htype : job.type = .setParameter) :
    (completeSetParameter env c d job body).Issues R (Completes c d job) := by
  unfold completeSetParameter
  split
  · dsimp only
    repeat' split
    all_goals first | exact all_run (.finishes .failed) | exact all_run (.finishes .success)
  · split
    · exact all_run (.finishes .success)
    · split
      · refine (all_perform (.readsBack htype)).bind fun count _ => ?_
        split
        · exact all_run (.finishes .failed)
        · trivial
      · refine (all_run (.finishes .success)).bind fun _ _ => ?_
        split
        · exact ((finishes_create env (by decide) _ _ _ _).mono_stmt fun _ => .finishes).bind
            fun _ _ => trivial
        · trivial

theorem all_completeAnswered :
    (completeAnswered env c d job body).Issues R (Completes c d job) := by
  unfold completeAnswered
  cases htype : job.type with
  | setParameter => exact all_completeSetParameter env body htype
  | diagnosticsPing | diagnosticsTraceroute | diagnosticsDownload | diagnosticsUpload =>
    exact all_completeDiagnostic env body (by rw [htype]; rfl)
  | connectionRequest | parameterDiscovery => trivial
  | _ =>
    simp only
    repeat' split
    all_goals first
      | exact all_run (.finishes .failed)
      | exact all_run (.finishes .success)
      | exact all_run (.finishes .detail)
      | exact all_run (.transfers (by simp [htype]))

end Complete

/-! ### Sending and resolving a job -/

theorem all_bindFirmware
    (hW : job.type = .getParameter ∨ job.type = .setParameter →
      ∀ payload, W (.update .dispatch (.bindFirmware job payload))) (cache : DeviceCache) :
    (bindFirmware cache job).All R W fun r => ∀ j, r = .ok j → j = job ∨
      (job.type = .getParameter ∨ job.type = .setParameter) ∧ ∃ payload,
        boundPayload cache job.payload = .ok (some payload) ∧ j = { job with payload } := by
  unfold bindFirmware
  split
  · exact fun j hj => .inl (Except.ok.inj hj).symm
  next htype =>
    simp only [Bool.and_eq_true, decide_eq_true_eq, ne_eq, not_and_or, not_not] at htype
    split
    · rintro j ⟨⟩
    · exact fun j hj => .inl (Except.ok.inj hj).symm
    next payload hbound =>
      refine (all_perform (hW htype payload)).bind fun count _ => ?_
      split
      · exact fun j hj => .inr ⟨htype, payload, hbound, (Except.ok.inj hj).symm⟩
      · rintro j ⟨⟩
      · rintro j ⟨⟩

theorem all_sendUSP {env : UspEnv} {conn : Conn}
    (hrequeue : buildUSPRequest job = .error .unsupportedOverUSP → W (.update .dispatch (.requeue job)))
    (hfailed : ∀ code text, W (.update .dispatch (.markFailed job code text)))
    (hput : W (.pendingPut env.msgID ⟨job, conn⟩)) (hsend : W (.handOver job .uspc))
    (htake : W (.pendingTake env.msgID)) : (sendUSP env conn job).Issues R W := by
  unfold sendUSP
  split
  next hbuild =>
    exact all_run (hrequeue hbuild)
  · exact all_run (hfailed _ _)
  · refine ⟨hput, fun _ _ => ⟨hsend, fun sent _ => ?_⟩⟩
    cases sent
    · exact ⟨htake, fun _ _ => trivial⟩
    · trivial

variable {retry : Handler Unit}

/-- What is written goes through the copy at hand, or one that a second look finds RPC_SENT. -/
theorem all_resolve {write : Job → Update} {G : Job → Prop} (hlook : W (.byID c job.id))
    (hjob : G job)
    (hagain : ∀ r, R (.byID c job.id) r → ∀ j, r = some j → j.status = .rpcSent → G j)
    (hwrite : ∀ j, G j → W (.update c (write j))) (hretry : retry.Issues R W) :
    (resolve c job write retry).Issues R W := by
  have hrun : ∀ j, G j → (Db.run c (write j) >>= fun _ => retry).Issues R W :=
    fun j hj => (all_run (hwrite j hj)).bind fun _ _ => hretry
  refine ⟨hlook, fun r hr => ?_⟩
  cases r with
  | none => exact hrun job hjob
  | some j =>
    show All R W _ (Prog.bind (pure (ite _ _ _)) _)
    split
    · exact hretry
    next hstatus =>
      exact hrun j (hagain _ hr j rfl (not_not.mp hstatus))

section Resolve

variable (hfail : ∀ code text, (resolveFailure c job code text retry).Issues R W)
  (hsuccess : ∀ detail, (resolveSuccess c job detail retry).Issues R W)
  (env : UspEnv) (outcome : ResponseOutcome) (detail : ResultDetail)

include hfail hsuccess

theorem all_completeRead :
    (completeRead env c job outcome detail retry).Issues R W := by
  unfold completeRead
  dsimp only
  repeat' split
  all_goals first | exact hfail _ _ | exact hsuccess _

theorem all_completeWrite (hretry : retry.Issues R W)
    (hreadback : ∀ p, W (.update c (.beginReadback job p))) :
    (completeWrite env c job outcome detail retry).Issues R W := by
  unfold completeWrite
  split
  · exact hfail _ _
  · split
    · refine (all_perform (hreadback _)).bind fun count _ => ?_
      split
      · exact hfail _ _
      · exact hretry
    · repeat' split
      all_goals first | exact hfail _ _ | exact hsuccess _

end Resolve

theorem all_untilFailure {us : List Update} (h : ∀ u ∈ us, W (.update c u)) :
    (untilFailure c us).Issues R W := by
  induction us with
  | nil => trivial
  | cons u rest ih =>
    refine (all_perform (h u List.mem_cons_self)).bind fun r _ => ?_
    split
    · trivial
    · exact ih fun v hv => h v (List.mem_cons_of_mem _ hv)

end Acs
