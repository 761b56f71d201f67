/-
What makes a job that was sent over USP a success.

A response is matched to a request by its message id, and classified before the job is
looked at: one that reports an error, or only accepts a command, completes nothing.
What is left has to carry what the job asked for.  A command that was accepted is
completed by its OperationComplete, matched by command key.
-/
import Acs.Proofs.CwmpCompletion

namespace Acs

open Prog List

/-! ### Responses without an error -/

/-- No item of the response reports that it was not carried out, and no command of it
is still running. -/
def UspResponse.NoErrors : UspResponse → Prop
  | .get results => ∀ r ∈ results, r.error.code = 0
  | .set results => ∀ r ∈ results, (∀ e, r.2 ≠ .failure e) ∧
      ∀ paramErrs, r.2 = .success paramErrs → ∀ errs ∈ paramErrs, ∀ e ∈ errs, e.code = 0
  | .getInstances results => ∀ r ∈ results, r.error.code = 0
  | .add results => ∀ r ∈ results, ∀ e, r.2 ≠ .failure e
  | .delete results => ∀ r ∈ results, ∀ e, r.2 ≠ .failure e
  | .operate results => ∀ r ∈ results, (∀ e, r ≠ .cmdFailure e) ∧ ∀ path, r ≠ .reqObjPath path
  | .getSupportedDM results => ∀ r ∈ results, r.error.code = 0
  | .other => True

theorem firstError_eq_none {α : Type} {errorOf : α → Option UspError} {items : List α}
    (h : firstError errorOf items = none) {x : α} (hx : x ∈ items) : errorOf x = none :=
  findSome?_eq_none_iff.mp h x hx

theorem UspError.present_eq_none {e : UspError} (h : e.present = none) : e.code = 0 := by
  unfold UspError.present at h
  split at h
  · cases h
  next hcode =>
    exact not_not.mp hcode

/-- The classification misses no error that an item of its kind reports. -/
theorem UspResponse.noErrors_of_classify {r : UspResponse}
    (herr : (classifyResponse r).uspErr = none)
    (hpending : (classifyResponse r).stillPending = false) : r.NoErrors := by
  cases r with
  | get results | getInstances results | getSupportedDM results =>
    exact fun x hx => UspError.present_eq_none (firstError_eq_none herr hx)
  | set results =>
    intro x hx
    have hitem : x.2.error = none := firstError_eq_none herr hx
    refine ⟨?_, ?_⟩
    · intro e he
      rw [he] at hitem
      cases hitem
    · intro paramErrs hok errs herrs e he
      rw [hok] at hitem
      exact UspError.present_eq_none
        (firstError_eq_none hitem (mem_flatten.mpr ⟨errs, herrs, he⟩))
  | add results | delete results =>
    intro x hx e he
    have hitem : x.2.error = none := firstError_eq_none herr hx
    rw [he] at hitem
    cases hitem
  | operate results =>
    intro x hx
    have hitem : x.error = none := firstError_eq_none herr hx
    refine ⟨?_, ?_⟩
    · intro e he
      rw [he] at hitem
      cases hitem
    · intro path hpath
      have haccepted : results.any (·.accepted) :=
        any_eq_true.mpr ⟨x, hx, by rw [hpath]; rfl⟩
      have herr' : firstError OperateStatus.error results = none := herr
      simp [classifyResponse, classifyOperateResp, herr', haccepted] at hpending
  | other => trivial

/-- The response confirms that the request built for the job was carried out. -/
structure UspConfirmed (job : Job) (r : UspResponse) : Prop where
  noErrors : r.NoErrors
  /-- A write to be verified is completed by the answer to its read-back. -/
  readback : job.type = .setParameter → ∃ p, job.payload = .setParameter p ∧
    (p.verify → verificationPaths p ≠ [] →
      buildUSPRequest job = .ok (.get (verificationPaths p)) ∧
        ∀ x ∈ p.parameters, skipReadback p x.name = false →
          ((classifyResponse r).params.lookup x.name).any (valuesAgree x))
  /-- A read is answered in full. -/
  read : job.type = .getParameter → ∃ p, job.payload = .getParameter p ∧
    if p.instances then
      ∀ path ∈ p.paths, (∃ results, r = .getInstances results) ∧
        ((classifyResponse r).instances.lookup path).isSome
    else missingReadPaths p.paths (classifyResponse r).params = []
  /-- A walk is answered with supported objects. -/
  walk : job.type = .parameterDiscovery →
    (∃ results, r = .getSupportedDM results) ∧ (classifyResponse r).discoveredNames.keys ≠ []

theorem UspConfirmed.of_type {job : Job} {r : UspResponse} (hset : job.type ≠ .setParameter)
    (hget : job.type ≠ .getParameter) (hwalk : job.type ≠ .parameterDiscovery)
    (h : r.NoErrors) : UspConfirmed job r :=
  ⟨h, fun hc => absurd hc hset, fun hc => absurd hc hget, fun hc => absurd hc hwalk⟩

/-! ### Resolving a job -/

/-- A lookup by id returns a copy of that job. -/
def ReadsByID : (s : Stmt) → s.Res → Prop
  | .byID _ i, r => ∀ j, r = some j → j.id = i
  | _, _ => True

theorem readsByID_step (s : Stmt) (c : Choice) (v : World) : ReadsByID s (exec s c v).1 := by
  cases s with
  | byID cause i => exact fun j hj => (exec_answered (.byID cause i) c v j hj).2
  | _ => trivial

/-- Handlers that make the job a success only if `C`. -/
def SucceedsIf (id : String) (C : Prop) (p : Handler Unit) : Prop :=
  p.All ReadsByID (SuccessFor id C) (fun _ => True)

variable {C : Prop} {id : String} {c : Cause} {job : Job} {retry : Handler Unit}

theorem SucceedsIf.after {p : Handler Unit} {w : World} (hp : SucceedsIf id C p)
    (h : IsSuccessIf C id w) (cs : Nat → Choice) : IsSuccessIf C id (p.after exec cs w) :=
  (run_keeps (fun s c v hs hv => ⟨readsByID_step s c v, successFor_step s c v hs hv⟩) hp h).2

theorem succeedsIf_done : SucceedsIf id C (pure ()) := trivial

theorem succeedsIf_resolve {write : Job → Update} (hretry : SucceedsIf id C retry)
    (hwrite : ∀ copy, copy.id = job.id → SuccessFor id C (.update c (write copy))) :
    SucceedsIf id C (resolve c job write retry) :=
  all_resolve (G := (·.id = job.id)) trivial rfl (fun _ hr j hj _ => hr j hj) hwrite hretry

theorem succeedsIf_resolveFailure (hretry : SucceedsIf id C retry) (code text : String) :
    SucceedsIf id C (resolveFailure c job code text retry) :=
  succeedsIf_resolve hretry fun _ _ => nofun

theorem succeedsIf_resolveSuccess (hretry : SucceedsIf id C retry) (hC : job.id = id → C)
    (detail : ResultDetail) : SucceedsIf id C (resolveSuccess c job detail retry) := by
  refine succeedsIf_resolve hretry ?_
  intro copy hcopy _
  by_cases hid : job.id = id
  · exact .inl (hC hid)
  · exact .inr ⟨copy, rfl, by rwa [hcopy]⟩

/-! ### Dispatching -/

theorem succeedsIf_tryDispatch (envs : List UspEnv) :
    ∀ d, SucceedsIf id C (tryDispatch envs d) := by
  induction envs with
  | nil => exact fun d => succeedsIf_done
  | cons env retries ih =>
    intro d
    unfold tryDispatch
    split
    · trivial
    · refine all_ask trivial fun (r : Option (Bool × Nat)) _ => ?_
      split
      · refine all_ask trivial fun (r : Option (Option Job)) _ => ?_
        split
        · refine (all_bindFirmware (fun _ _ => by rintro ⟨⟩) env.cache).bind fun r _ => ?_
          split
          · exact succeedsIf_resolveFailure (ih _) _ _
          · exact all_sendUSP (fun _ => by rintro ⟨⟩) (fun _ _ => by rintro ⟨⟩) trivial trivial trivial
        · trivial
      · trivial

/-! ### Answers -/

section Answers

variable {env : UspEnv} {r : UspResponse} {detail : ResultDetail}

theorem succeedsIf_saveSupportedDM (hretry : SucceedsIf id C retry) (hC : job.id = id → C) :
    SucceedsIf id C (saveSupportedDM env c job detail retry) := by
  unfold saveSupportedDM
  split
  · exact succeedsIf_resolveSuccess hretry hC _
  · exact succeedsIf_resolveFailure hretry _ _
  · exact (succeedsIf_resolveFailure hretry _ _).bind fun _ _ =>
      ⟨trivial, fun _ _ => trivial⟩

variable (hno : r.NoErrors) (hretry : SucceedsIf id C retry)
  (hC : job.id = id → UspConfirmed job r → C)

include hno hretry hC

theorem succeedsIf_completeWrite (htype : job.type = .setParameter) :
    SucceedsIf id C (completeWrite env c job (classifyResponse r) detail retry) := by
  have hfail := @succeedsIf_resolveFailure C id c job retry hretry
  unfold completeWrite
  cases hp : job.payload.asSetParameter with
  | none => exact hfail _ _
  | some p =>
    have hpayload : job.payload = .setParameter p := by
      revert hp
      cases job.payload <;> rintro ⟨⟩
      rfl
    have hconfirmed : (p.verify → verificationPaths p ≠ [] →
        p.verificationPending ∧ ∀ x ∈ p.parameters, skipReadback p x.name = false →
          ((classifyResponse r).params.lookup x.name).any (valuesAgree x)) →
        UspConfirmed job r := by
      intro hread
      refine ⟨hno, fun _ => ⟨p, hpayload, fun hv hpaths => ?_⟩, by simp [htype], by simp [htype]⟩
      obtain ⟨hpending, hagree⟩ := hread hv hpaths
      exact ⟨by simp [buildUSPRequest, htype, hpayload, hpending], hagree⟩
    dsimp only
    split
    · refine all_ask nofun fun count _ => ?_
      split
      · exact hfail _ _
      · exact hretry
    next hwrite =>
      split
      next hpending =>
        split
        · exact hfail _ _
        · split
          · exact hfail _ _
          · split
            · exact hfail _ _
            next hcheck =>
              refine succeedsIf_resolveSuccess hretry (fun hid => hC hid (hconfirmed fun _ _ => ?_)) _
              exact ⟨hpending, fun x hx hread =>
                compareReadback_agrees (by simpa using hcheck) hx hread⟩
      next hpending =>
        refine succeedsIf_resolveSuccess hretry (fun hid => hC hid (hconfirmed fun hv hpaths => ?_)) _
        exact absurd (by simp [hv, hpending, hpaths]) hwrite

theorem succeedsIf_completeSupportedDM (htype : job.type = .parameterDiscovery) :
    SucceedsIf id C (completeSupportedDM env c job (classifyResponse r) detail retry) := by
  have hfail := @succeedsIf_resolveFailure C id c job retry hretry
  unfold completeSupportedDM
  split
  · exact hfail _ _
  · split
    · exact hfail _ _
    next hnames =>
      have hnames' : (classifyResponse r).discoveredNames.keys ≠ [] := by simpa using hnames
      have hsave : SucceedsIf id C (saveSupportedDM env c job detail retry) := by
        refine succeedsIf_saveSupportedDM hretry fun hid => hC hid
          ⟨hno, by simp [htype], by simp [htype], fun _ => ⟨?_, hnames'⟩⟩
        cases r with
        | getSupportedDM results => exact ⟨results, rfl⟩
        | _ => exact absurd rfl hnames'
      split
      · exact hsave
      · split
        · exact hfail _ _
        · exact hsave
        · refine all_ask nofun fun count _ => ?_
          split
          · exact hfail _ _
          · exact hretry

theorem succeedsIf_completeRead (htype : job.type = .getParameter) :
    SucceedsIf id C (completeRead env c job (classifyResponse r) detail retry) := by
  have hfail := @succeedsIf_resolveFailure C id c job retry hretry
  unfold completeRead
  cases hp : job.payload.asGetParameter with
  | none =>
    dsimp only
    split
    · exact hfail _ _
    · exact hfail _ _
  | some p =>
    have hpayload : job.payload = .getParameter p := by
      revert hp
      cases job.payload <;> rintro ⟨⟩
      rfl
    have hconfirmed : (if p.instances then
        ∀ path ∈ p.paths, (∃ results, r = .getInstances results) ∧
          ((classifyResponse r).instances.lookup path).isSome
        else missingReadPaths p.paths (classifyResponse r).params = []) →
        UspConfirmed job r :=
      fun hread => ⟨hno, by simp [htype], fun _ => ⟨p, hpayload, hread⟩, by simp [htype]⟩
    dsimp only
    split
    · exact hfail _ _
    next hfull =>
      split
      · exact hfail _ _
      · split
        next hinstances =>
          split
          · exact hfail _ _
          next hnone =>
            refine succeedsIf_resolveSuccess hretry (fun hid => hC hid (hconfirmed ?_)) _
            rw [if_pos hinstances]
            intro path hpath
            have hfault := findSome?_eq_none_iff.mp hnone path hpath
            unfold instanceFault at hfault
            split at hfault
            · cases hfault
            next hsome =>
              refine ⟨?_, Option.isSome_iff_ne_none.mpr (by simpa using hsome)⟩
              cases r with
              | getInstances results => exact ⟨results, rfl⟩
              | _ => exact absurd rfl hsome
        next hvalues =>
          split
          · exact hfail _ _
          · split
            · exact hfail _ _
            next hanswered =>
              refine succeedsIf_resolveSuccess hretry (fun hid => hC hid (hconfirmed ?_)) _
              rw [if_neg hvalues]
              simp only [Bool.and_eq_true, Bool.not_eq_true', isEmpty_eq_false_iff, not_and,
                not_not] at hfull hanswered
              by_cases hreported : (classifyResponse r).params.keys = []
              · exact hanswered (by simp [hreported])
              · exact hfull hreported

theorem succeedsIf_completeResponse :
    SucceedsIf id C (completeResponse env c job (classifyResponse r) detail retry) := by
  unfold completeResponse
  split
  next htype =>
    exact succeedsIf_completeWrite hno hretry hC htype
  next htype =>
    exact succeedsIf_completeSupportedDM hno hretry hC htype
  next htype =>
    exact succeedsIf_completeRead hno hretry hC htype
  next hset hwalk hget =>
    exact succeedsIf_resolveSuccess hretry (fun hid => hC hid (.of_type hset hget hwalk hno)) _

end Answers

/-! ### USP completion -/

/-- The message answers the pending request of the job, and confirms it. -/
def AnswersPending (w : World) (id from_ : String) (msg : UspMsg) : Prop :=
  ∃ entry r, w.pending.lookup msg.msgID = some entry ∧ entry.job.id = id ∧
    entry.conn.endpoint = from_ ∧ msg.body = .response r ∧ UspConfirmed entry.job r

theorem succeedsIf_resolvePending (env : UspEnv) (retries : List UspEnv) {msg : UspMsg}
    (hC : ∀ r, msg.body = .response r → job.id = id → UspConfirmed job r → C) :
    SucceedsIf id C (resolvePending env retries msg job) := by
  have hretry : SucceedsIf id C (tryDispatch retries job.deviceID) :=
    succeedsIf_tryDispatch retries job.deviceID
  unfold resolvePending
  cases hbody : msg.body with
  | error e =>
    refine all_ask trivial fun taken _ => ?_
    split
    · exact succeedsIf_resolveFailure hretry _ _
    · trivial
  | response r =>
    dsimp only
    split
    · trivial
    next hpending =>
      refine all_ask trivial fun taken _ => ?_
      split
      · split
        · exact succeedsIf_resolveFailure hretry _ _
        next herr =>
          exact succeedsIf_completeResponse
            (UspResponse.noErrors_of_classify herr (by simpa using hpending)) hretry (hC r hbody)
      · trivial

theorem handleResponse_success {w : World} {row : Job} (hrow : w.jobs.find row.id = some row)
    (hstatus : row.status ≠ .success) (env : UspEnv) (retries : List UspEnv) (from_ : String)
    (msg : UspMsg) (cs : Nat → Choice) :
    IsSuccessIf (AnswersPending w row.id from_ msg) row.id
      ((handleResponse env retries from_ msg).after exec cs w) := by
  have hbefore : IsSuccessIf (AnswersPending w row.id from_ msg) row.id (w.tick (cs 0)) :=
    @isSuccessIf_of_ne _ row _ hrow hstatus
  refine (congrArg (IsSuccessIf _ row.id) (after_perform_bind exec cs
    (Stmt.pendingGet msg.msgID) _ w)).mpr (SucceedsIf.after ?_ hbefore _)
  cases hentry : (exec (.pendingGet msg.msgID) (cs 0) w).1 with
  | none => exact succeedsIf_done
  | some entry =>
    show SucceedsIf _ _ (ite _ _ _)
    split
    · exact succeedsIf_done
    next hfrom =>
      exact succeedsIf_resolvePending env retries fun r hbody hid hconfirmed =>
        ⟨entry, r, hentry, hid, not_not.mp hfrom, hbody, hconfirmed⟩

/-- The command of the job is reported complete by its device. -/
def CommandDone (row : Job) (connDeviceID : String) (oc : OperationComplete) : Prop :=
  oc.commandKey = row.commandKey ∧ oc.failure = none ∧ connDeviceID = row.deviceID ∧
    row.status = .rpcSent

theorem handleOperationComplete_success {w : World} {row : Job}
    (hrow : w.jobs.find row.id = some row) (hstatus : row.status ≠ .success)
    (retries : List UspEnv) (d : String) (oc : OperationComplete) (n : Nat)
    (cs : Nat → Choice) :
    IsSuccessIf (CommandDone row d oc) row.id
      ((handleOperationComplete retries d oc n).after exec cs w) := by
  have hbefore : IsSuccessIf (CommandDone row d oc) row.id (w.tick (cs 0)) :=
    @isSuccessIf_of_ne _ row _ hrow hstatus
  refine (congrArg (IsSuccessIf _ row.id) (after_perform_bind exec cs
    (Stmt.byCommandKey (.operationComplete oc.commandKey n) oc.commandKey) _ w)).mpr
    (SucceedsIf.after ?_ hbefore _)
  cases hjob : (exec (.byCommandKey (.operationComplete oc.commandKey n) oc.commandKey)
      (cs 0) w).1 with
  | none => exact succeedsIf_done
  | some job =>
    obtain ⟨hkey, hsame⟩ := byCommandKey_row hrow hjob
    have hretry : SucceedsIf row.id (CommandDone row d oc) (tryDispatch retries job.deviceID) :=
      succeedsIf_tryDispatch retries job.deviceID
    show SucceedsIf _ _ (ite _ _ _)
    split
    · exact succeedsIf_done
    next hguard =>
      simp only [Bool.or_eq_true, decide_eq_true_eq, not_or, not_not] at hguard
      refine all_ask trivial fun _ _ => ?_
      cases hfailure : oc.failure with
      | some e => exact succeedsIf_resolveFailure hretry _ _
      | none =>
        refine succeedsIf_resolveSuccess hretry ?_ _
        intro hid
        rw [hsame hid] at hkey hguard
        exact ⟨hkey.symm, hfailure, hguard.1.2, hguard.2⟩

/-- **A job sent over USP is completed by what answers it.**  A response completes it
only if it has the message id of the pending request, comes from the endpoint the
request was sent to, reports no error, and carries what the job asked for; a write to be
verified only if the read-back agrees with it.  An OperationComplete completes it only
if it reports success for its command key, on a connection of its device. -/
theorem usp_completion {w : World} {row : Job} (hrow : w.jobs.find row.id = some row)
    (hstatus : row.status ≠ .success) (cs : Nat → Choice) :
    (∀ env retries from_ msg, IsSuccessIf (AnswersPending w row.id from_ msg) row.id
      ((handleResponse env retries from_ msg).after exec cs w)) ∧
    ∀ retries d oc n, IsSuccessIf (CommandDone row d oc) row.id
      ((handleOperationComplete retries d oc n).after exec cs w) := by
  refine ⟨?_, ?_⟩
  · intro env retries from_ msg
    exact handleResponse_success hrow hstatus env retries from_ msg cs
  · intro retries d oc n
    exact handleOperationComplete_success hrow hstatus retries d oc n cs

/-- A reboot is not completed by its acceptance. -/
theorem usp_completion_rebootOverUsp :
    ((runEnd rebootOverUsp).shared.jobs.find "j").isSome = true ∧
      ∀ path, IsSuccessIf False "j" ((handleResponse {} [] "agent"
        ⟨"m", "OPERATE_RESP", .response (.operate [.reqObjPath path])⟩).after exec (fun _ => {})
          (runEnd rebootOverUsp).shared) := by
  have hfound : ((runEnd rebootOverUsp).shared.jobs.find "j").any
      (·.status ≠ .success) = true := by
    decide +kernel
  obtain ⟨row, hrow, hopen⟩ := (Option.any_eq_true _ _).mp hfound
  refine ⟨by rw [hrow]; rfl, ?_⟩
  intro path row' hrow' hsuccess
  have hid := (JobTable.find_eq_some hrow).2
  rw [← hid] at hrow hrow'
  obtain ⟨_, r, _, _, _, hbody, hconfirmed⟩ :=
    (usp_completion hrow (of_decide_eq_true hopen) _).1 _ _ _ _ row' hrow' hsuccess
  cases hbody
  exact (hconfirmed.noErrors _ mem_cons_self).2 path rfl

/-- A passphrase is to be written and verified; the agent reports the write done. -/
def passphraseWritten : List Action :=
  [.atomic (.create { id := "j", commandKey := "k", deviceID := "d", type := .setParameter }
      (.setParameter
        { parameters := [{ name := "Device.WiFi.AccessPoint.1.Security.KeyPassphrase",
                           value := "new", type := "xsd:string" }], verify := true }))
      fun _ => {},
    .atomic (.tryDispatch [{ conn := some ⟨1, "agent"⟩, msgID := "m" }] "d") fun _ => {},
    .atomic (.response {} [] "agent" ⟨"m", "SET_RESP", .response
      (.set [("Device.WiFi.AccessPoint.1.Security.", .success [])])⟩) fun _ => {}]

/-- It is not read back: the job is a success after the Set, the only request sent. -/
theorem passphraseWritten_not_read_back :
    ((runEnd passphraseWritten).shared.jobs.find "j").any (fun row =>
        row.status = .success && row.payload.asSetParameter.any (·.verify)) = true ∧
      ((runTrace passphraseWritten).filterMap handedOver).map (fun job =>
        match buildUSPRequest job with
        | .ok (.set _) => true
        | _ => false) = [true] := by
  decide +kernel

end Acs
