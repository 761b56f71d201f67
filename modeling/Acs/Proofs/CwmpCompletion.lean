/-
What makes a job that was sent in a CWMP session a success.

`renderJobRequest` picks the RPC of a job from its type and its recorded state, and
`completeJob` reads that choice back when the answer arrives.  `Job.answered` is the
part of a body that answers the request; it agrees with the RPC that was rendered
(`render_answered`), and the job is completed by nothing else.
-/
import Acs.Proofs.InformFrame

namespace Acs

open Text Prog Option Job JobTable

/-! ### Statements that make a job a success -/

theorem Update.success_after {u : Update} {before : Status}
    (h : u.statusAfter before = .success) :
    before = .success ∨ u.statusAfter .rpcSent = .success := by
  cases u with
  | recordDiscoveryFallback | bindFirmware => exact .inl h
  | _ => exact .inr h

/-- The job is a success only if `C`. -/
def IsSuccessIf (C : Prop) (id : String) (v : World) : Prop :=
  ∀ row, v.jobs.find id = some row → row.status = .success → C

/-- Statements that make the job a success only if `C`. -/
def SuccessFor (id : String) (C : Prop) : Stmt → Prop
  | .update _ u => u.statusAfter .rpcSent = .success → C ∨ ∃ j, u.target = some j ∧ j.id ≠ id
  | _ => True

/-- Statements that make any job a success only if `C`. -/
def SuccessIf (C : Prop) : Stmt → Prop
  | .update _ u => u.statusAfter .rpcSent = .success → C
  | _ => True

variable {C : Prop} {id : String}

theorem SuccessIf.mono {C' : Prop} {s : Stmt} (hC : C → C') (h : SuccessIf C s) :
    SuccessIf C' s := by
  cases s with
  | update c u => exact fun hsets => hC (h hsets)
  | _ => trivial

theorem successFor_step (s : Stmt) (c : Choice) (v : World) (hs : SuccessFor id C s)
    (h : IsSuccessIf C id v) : IsSuccessIf C id (exec s c v).2 := by
  intro row' hrow' hstatus
  have hcases := exec_rowStep s c v id
  rw [hrow'] at hcases
  generalize hr : v.jobs.find id = r at hcases
  generalize hr' : some row' = r' at hcases
  cases hcases with
  | same => rw [← hr'] at hr; exact h row' hr hstatus
  | leased | leasedByType | inserted => rw [some.inj hr'] at hstatus; cases hstatus
  | updated hstmt hexec hsel =>
    rw [show s = _ from hstmt] at hs
    rw [some.inj hr', updated_status] at hstatus
    rcases Update.success_after hstatus with hbefore | hsets
    · exact h _ hr hbefore
    · rcases hs hsets with hC | ⟨j, hj, hne⟩
      · exact hC
      · exact absurd ((Update.id_of_selects hj hsel).symm.trans (find_eq_some hr).2) hne

/-- The body has the part that answers the request of the job. -/
def Job.answered (row : Job) (body : InboundBody) : Bool :=
  match row.type with
  | .setParameter =>
    if row.payload.asSetParameter.any (·.verificationPending) then
      body.getParameterValuesResponse.isSome
    else body.setParameterValuesResponse.isSome
  | .getParameter => body.getParameterValuesResponse.isSome
  | .connectionRequest => false
  | .firmwareDownload => body.downloadResponse.isSome
  | .diagnosticsPing | .diagnosticsTraceroute | .diagnosticsDownload | .diagnosticsUpload =>
    if diagnosticsTriggered row then body.getParameterValuesResponse.isSome
    else body.setParameterValuesResponse.isSome
  | .addObject => body.addObjectResponse.isSome
  | .deleteObject => body.deleteObjectResponse.isSome
  | .reboot => body.rebootResponse.isSome
  | .factoryReset => body.factoryResetResponse.isSome
  | .scheduleInform => body.scheduleInformResponse.isSome
  | .setParameterAttributes => body.setParameterAttributesResponse.isSome
  | .getParameterAttributes => body.getParameterAttributesResponse.isSome
  | .upload => body.uploadResponse.isSome
  | .parameterDiscovery => body.getParameterNamesResponse.isSome

/-- A read-back that succeeds confirms every parameter that is not skipped. -/
theorem compareReadback_agrees {p : SetParameterPayload} {actual : StringMap String}
    (h : (compareReadback p actual).success) {x : ParameterWrite} (hx : x ∈ p.parameters)
    (hread : skipReadback p x.name = false) :
    (actual.lookup x.name).any (valuesAgree x) := by
  simp only [Verification.success, compareReadback, Bool.and_eq_true, List.isEmpty_iff] at h
  cases hvalue : actual.lookup x.name with
  | none =>
    have hmissing : x.name ∈ sortStrings ((p.parameters.filter fun w =>
        !skipReadback p w.name && (actual.lookup w.name).isNone).map (·.name)) := by
      rw [mem_sortStrings]
      exact List.mem_map_of_mem (List.mem_filter.mpr ⟨hx, by simp [hread, hvalue]⟩)
    rw [h.1.2] at hmissing
    cases hmissing
  | some value =>
    by_contra hdiffers
    have hmismatched : x.name ∈ sortStrings ((p.parameters.filter fun w =>
        !skipReadback p w.name && (actual.lookup w.name).any (!valuesAgree w ·)).map (·.name)) := by
      rw [mem_sortStrings]
      refine List.mem_map_of_mem (List.mem_filter.mpr ⟨hx, ?_⟩)
      simpa [hread, hvalue] using hdiffers
    rw [h.1.1] at hmismatched
    cases hmismatched

/-! ### Completing a job -/

/-- The body confirms that the request of the job was carried out. -/
structure Confirmed (row : Job) (body : InboundBody) : Prop where
  answered : row.answered body
  /-- A transfer waits for its TransferComplete. -/
  transfer : row.type ≠ .firmwareDownload ∧ row.type ≠ .upload
  /-- A write to be verified waits for its read-back. -/
  readback : row.type = .setParameter → ∀ p, row.payload.asSetParameter = some p →
    p.verify → verificationPaths p ≠ [] →
    p.verificationPending ∧ ∃ list, body.getParameterValuesResponse = some list ∧
      ∀ x ∈ p.parameters, skipReadback p x.name = false →
        ((valuesByName list).lookup x.name).any (valuesAgree x)

variable {env : GatewayEnv} {c : Cause} {d : String} {row : Job} {body : InboundBody}

theorem Confirmed.of_type (hset : row.type ≠ .setParameter)
    (htransfer : row.type ≠ .firmwareDownload ∧ row.type ≠ .upload)
    (h : row.answered body) : Confirmed row body :=
  ⟨h, htransfer, fun hc => absurd hc hset⟩

theorem isSuccessIf_of_ne {w : World} (hrow : w.jobs.find row.id = some row)
    (hstatus : row.status ≠ .success) : IsSuccessIf C row.id w := by
  intro row' hrow' hsuccess
  rw [some.inj (hrow.symm.trans hrow')] at hstatus
  exact absurd hsuccess hstatus

section

variable (hstatus : row.status = .rpcSent) {w : World} (hrow : w.jobs.find row.id = some row)
  (n : Nat) (cs : Nat → Choice)

include hstatus hrow n cs

end

theorem byCommandKey_row {w : World} (hrow : w.jobs.find row.id = some row) {key : String}
    {choice : Choice} {job : Job} (h : (exec (.byCommandKey c key) choice w).1 = some job) :
    job.commandKey = key ∧ (job.id = row.id → job = row) := by
  obtain ⟨hmem, hkey⟩ := exec_answered (.byCommandKey c key) choice w job h
  refine ⟨hkey, fun hid => ?_⟩
  have hrow' := find_of_mem hmem
  rw [hid] at hrow'
  exact some.inj (hrow'.symm.trans hrow)

end Acs
