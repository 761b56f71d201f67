/-
Writes with sealed secrets.

A write that carries a secret handle has a placeholder for its value.  The CWMP
gateway opens the handles of a job before it renders it, and fails the job when it
cannot.  The USP dispatcher builds its request from the stored payload.  So whether
the request carries the secret is decided by which of the two leases the job
(`secret_writes_opened_iff`).
-/
import Acs.Proofs.UspCompletion

namespace Acs

/-! ### The two ways to send a leased job -/

/-- What `tryDispatch` does with the job it has leased; the attempts that follow are
dispatches of their own. -/
def sendLeased (env : UspEnv) (conn : Conn) (job : Job) : Handler Unit := do
  match ← bindFirmware env.cache job with
  | .error msg => resolveFailure .dispatch job "FIRMWARE_CHANGED" msg (pure ())
  | .ok job => sendUSP env conn job

/-- Who sends a job. -/
inductive Leaser where
  | cwmp (env : GatewayEnv)
  | usp (env : UspEnv) (conn : Conn)

def Leaser.send : Leaser → Job → Handler Unit
  | .cwmp env, job => sendJob env job
  | .usp env conn, job => sendLeased env conn job

section

variable (leaser : Leaser) (store : String → Except String String) (job : Job)
  (p : SetParameterPayload)

/-- What the handles stand for: the gateway's secret store. -/
def Leaser.Uses : Leaser → Prop
  | .cwmp env => env.openSecret = store
  | .usp .. => True

/-! ### What is asked of a request -/

/-- The written parameters with every handle opened. -/
def Opened (stored sent : List ParameterWrite) : Prop :=
  List.Forall₂ (fun w w' => w'.name = w.name ∧ w'.type = w.type ∧
    if w.secretHandle = "" then w'.value = w.value
    else store w.secretHandle = .ok w'.value) stored sent

/-- The request built from `sent` writes the opened values, or is a read-back, which
writes none. -/
def CarriesSecrets (sent : Job) : Prop :=
  ∃ p', sent.payload = .setParameter p' ∧
    (p'.verificationPending = true ∨ Opened store p.parameters p'.parameters)

/-- A statement that hands over a request, if it does, of a copy that satisfies `P`. -/
def HandsOver (P : Job → Prop) : Stmt → Prop
  | .handOver sent _ => P sent
  | _ => True

/-- The request is handed over, or the job fails, or it turns out to be over. -/
def Settles (id : String) : (s : Stmt) → s.Res → Prop
  | .handOver sent _, _ => sent.id = id
  | .update _ (.markFailed copy _ _), _ => copy.id = id
  | .byID _ _, some row => row.status ≠ .rpcSent
  | _, _ => False

/-- However the database answers, the request carries the secrets or is not sent. -/
def Leaser.Faithful : Prop :=
  (leaser.send job).All ReadsByID (HandsOver (CarriesSecrets store p)) (fun _ => True) ∧
    (leaser.send job).Meets ReadsByID (Settles job.id)

/-- The dispatches that get it right. -/
def Leaser.Opens : Prop :=
  match leaser with
  | .cwmp _ => True
  | .usp env _ => p.verificationPending = true ∨
      (∃ msg, boundPayload env.cache job.payload = .error msg) ∨
      ∀ w ∈ p.parameters, w.secretHandle ≠ "" → store w.secretHandle = .ok w.value

end

/-! ### Binding to the firmware -/

/-- The copy is still of the given job, with the same writes. -/
structure SameWrites (job : Job) (p : SetParameterPayload) (j : Job) (p' : SetParameterPayload) :
    Prop where
  id : j.id = job.id
  type : j.type = job.type
  payload : j.payload = .setParameter p'
  parameters : p'.parameters = p.parameters
  pending : p'.verificationPending = p.verificationPending

theorem boundPayload_writes {cache : DeviceCache} {p : SetParameterPayload} {payload : Payload}
    (h : boundPayload cache (.setParameter p) = .ok (some payload)) :
    ∃ p', payload = .setParameter p' ∧ p'.parameters = p.parameters ∧
      p'.verificationPending = p.verificationPending := by
  unfold boundPayload at h
  cases hfirmware : cache.firmware with
  | error msg => simp [hfirmware, bind, Except.bind] at h
  | ok firmware =>
    simp only [hfirmware, bind, Except.bind] at h
    split at h
    · split at h <;> exact absurd h (by simp)
    · cases hcaps : cache.capabilities with
      | error msg => simp [hcaps] at h
      | ok capabilities =>
        simp only [hcaps, Except.ok.injEq, Option.some.injEq] at h
        exact ⟨_, h.symm, rfl, rfl⟩

section Send

variable {job : Job} {p : SetParameterPayload} (htype : job.type = .setParameter)
  (hpayload : job.payload = .setParameter p)

include htype hpayload

theorem all_bindFirmware_writes (cache : DeviceCache) (P : Job → Prop) :
    (bindFirmware cache job).All ReadsByID (HandsOver P)
      (fun r => ∀ j, r = .ok j → ∃ p', SameWrites job p j p') := by
  refine (all_bindFirmware (fun _ _ => trivial) cache).mono fun r hr j hj => ?_
  rcases hr j hj with rfl | ⟨-, payload, hbound, rfl⟩
  · exact ⟨p, rfl, rfl, hpayload, rfl, rfl⟩
  · obtain ⟨p', rfl, hparams, hpending⟩ := boundPayload_writes (hpayload ▸ hbound)
    exact ⟨p', rfl, rfl, rfl, hparams, hpending⟩

end Send

/-! ### The gateway -/

theorem openWrites_opened {env : GatewayEnv} {stored : List ParameterWrite} :
    ∀ {sent : List ParameterWrite}, openWrites env stored = .ok sent →
      Opened env.openSecret stored sent := by
  induction stored with
  | nil =>
    intro sent h
    rw [← Except.ok.inj h]
    exact .nil
  | cons w stored ih =>
    intro sent h
    unfold openWrites at h
    by_cases hhandle : w.secretHandle = ""
    · cases hrest : openWrites env stored with
      | error msg => simp [hhandle, hrest, bind, Except.bind] at h
      | ok rest =>
        simp only [hhandle, hrest, bind, Except.bind, if_true, Except.ok.injEq] at h
        rw [← h]
        exact .cons ⟨rfl, rfl, by simp [hhandle]⟩ (ih hrest)
    · cases hopen : env.openSecret w.secretHandle with
      | error msg => simp [hhandle, hopen, bind, Except.bind, Except.map] at h
      | ok value =>
        cases hrest : openWrites env stored with
        | error msg => simp [hhandle, hopen, hrest, bind, Except.bind, Except.map] at h
        | ok rest =>
          simp only [hhandle, hopen, hrest, bind, Except.bind, Except.map, if_false,
            Except.ok.injEq] at h
          rw [← h]
          exact .cons ⟨rfl, rfl, by simp [hhandle, hopen]⟩ (ih hrest)

theorem SameWrites.openSecretHandles {job j rendered : Job} {p p' : SetParameterPayload}
    (h : SameWrites job p j p') (htype : job.type = .setParameter) {env : GatewayEnv}
    (hopen : openSecretHandles env j = .ok rendered) :
    CarriesSecrets env.openSecret p rendered ∧ rendered.id = j.id := by
  unfold Acs.openSecretHandles at hopen
  rw [if_neg (by simp [h.type, htype]), h.payload] at hopen
  simp only [Payload.asSetParameter] at hopen
  split at hopen
  next hpending =>
    rw [← Except.ok.inj hopen]
    exact ⟨⟨p', h.payload, .inl hpending⟩, rfl⟩
  · cases hwrites : openWrites env p'.parameters with
    | error msg => simp [hwrites, Except.map] at hopen
    | ok writes =>
      simp only [hwrites, Except.map, Except.ok.injEq] at hopen
      rw [← hopen]
      exact ⟨⟨_, rfl, .inr (h.parameters ▸ openWrites_opened hwrites)⟩, rfl⟩

section Send

variable {job : Job} {p : SetParameterPayload} (htype : job.type = .setParameter)
  (hpayload : job.payload = .setParameter p)

include htype hpayload

/-- Over CWMP the secrets are opened, or the job fails. -/
theorem faithful_cwmp (env : GatewayEnv) :
    (Leaser.cwmp env).Faithful env.openSecret job p := by
  constructor
  · change (sendJob env job).All _ _ _
    unfold sendJob
    refine (all_bindFirmware_writes htype hpayload env.cache _).bind ?_
    intro r hr
    split
    · exact ⟨trivial, fun _ _ => trivial⟩
    next j =>
      obtain ⟨p', hsame⟩ := hr j rfl
      split
      · exact ⟨trivial, fun _ _ => trivial⟩
      next rendered hopen =>
        split
        · exact ⟨trivial, fun _ _ => trivial⟩
        · exact ⟨(hsame.openSecretHandles htype hopen).1, fun _ _ => trivial⟩
  · change (sendJob env job).Meets _ _
    unfold sendJob
    refine Prog.Meets.after ((all_bindFirmware_writes htype hpayload env.cache
      (fun _ => True)).mono_stmt fun _ _ => trivial) ?_
    intro r hr
    split
    · exact fun _ _ => .inl rfl
    next j =>
      obtain ⟨p', hsame⟩ := hr j rfl
      split
      · exact fun _ _ => .inl hsame.id
      next rendered hopen =>
        split
        · exact fun _ _ => .inl hsame.id
        · exact fun _ _ => .inl ((hsame.openSecretHandles htype hopen).2.trans hsame.id)

end Send

/-! ### The USP dispatcher -/

theorem all_resolveFailure {job : Job} (code text : String) {P : Job → Prop} :
    (resolveFailure .dispatch job code text (pure ())).Issues ReadsByID (HandsOver P) :=
  all_resolve (G := fun _ => True) trivial trivial (fun _ _ _ _ _ => trivial)
    (fun _ _ => trivial) trivial

theorem meets_resolveFailure {job : Job} (code text : String) :
    (resolveFailure .dispatch job code text (pure ())).Meets ReadsByID (Settles job.id) := by
  intro r hr
  cases r with
  | none => exact .inr fun _ _ => .inl rfl
  | some row =>
    by_cases hstatus : row.status = .rpcSent
    · refine .inr ?_
      simp only [Prog.bind, pure, hstatus, ne_eq, not_true_eq_false, if_false]
      exact fun _ _ => .inl (hr row rfl)
    · exact .inl hstatus

section Send

variable {job : Job} {p : SetParameterPayload} (htype : job.type = .setParameter)
  (hpayload : job.payload = .setParameter p)

omit htype hpayload in
theorem SameWrites.buildUSPRequest {j : Job} {p' : SetParameterPayload}
    (h : SameWrites job p j p') (htype : job.type = .setParameter) :
    ∃ request, buildUSPRequest j = .ok request := by
  simp only [Acs.buildUSPRequest, h.type, htype, h.payload]
  split <;> exact ⟨_, rfl⟩

omit htype hpayload in
theorem all_sendUSP_iff (env : UspEnv) (conn : Conn) {j : Job} {request : UspRequest}
    (h : buildUSPRequest j = .ok request) {P : Job → Prop} :
    (sendUSP env conn j).Issues ReadsByID (HandsOver P) ↔ P j := by
  unfold sendUSP
  rw [h]
  constructor
  · intro hall
    exact (hall.2 () trivial).1
  · intro hP
    refine ⟨trivial, fun _ _ => ⟨hP, fun sent _ => ?_⟩⟩
    cases sent
    · exact ⟨trivial, fun _ _ => trivial⟩
    · trivial

include htype hpayload

section

variable (env : UspEnv) (conn : Conn) {P : Job → Prop}

theorem all_sendLeased (h : (∃ msg, boundPayload env.cache job.payload = .error msg) ∨
      ∀ j p', SameWrites job p j p' → P j) :
    (sendLeased env conn job).Issues ReadsByID (HandsOver P) := by
  unfold sendLeased
  rcases h with ⟨msg, hmsg⟩ | h
  · unfold bindFirmware
    rw [if_neg (by simp [htype]), hmsg]
    exact all_resolveFailure _ _
  · refine (all_bindFirmware_writes htype hpayload env.cache _).bind ?_
    intro r hr
    split
    · exact all_resolveFailure _ _
    next j =>
      obtain ⟨p', hsame⟩ := hr j rfl
      obtain ⟨request, hrequest⟩ := hsame.buildUSPRequest htype
      exact (all_sendUSP_iff env conn hrequest).mpr (h j p' hsame)

theorem meets_sendLeased : (sendLeased env conn job).Meets ReadsByID (Settles job.id) := by
  unfold sendLeased
  refine Prog.Meets.after ((all_bindFirmware_writes htype hpayload env.cache
    (fun _ => True)).mono_stmt fun _ _ => trivial) ?_
  intro r hr
  split
  · exact meets_resolveFailure _ _
  next j =>
    obtain ⟨p', hsame⟩ := hr j rfl
    obtain ⟨request, hrequest⟩ := hsame.buildUSPRequest htype
    unfold sendUSP
    rw [hrequest]
    exact fun _ _ => .inr fun _ _ => .inl hsame.id

/-- A job that can be bound to the firmware is handed over, with its writes as stored. -/
theorem handsOver_sendLeased (hbound : ∀ msg, boundPayload env.cache job.payload ≠ .error msg)
    (h : (sendLeased env conn job).Issues ReadsByID (HandsOver P)) :
    ∃ j p', SameWrites job p j p' ∧ P j := by
  unfold sendLeased bindFirmware at h
  rw [if_neg (by simp [htype])] at h
  cases hb : boundPayload env.cache job.payload with
  | error msg => exact absurd hb (hbound msg)
  | ok payload =>
    cases payload with
    | none =>
      rw [hb] at h
      have hsame : SameWrites job p job p := ⟨rfl, rfl, hpayload, rfl, rfl⟩
      obtain ⟨request, hrequest⟩ := hsame.buildUSPRequest htype
      exact ⟨job, p, hsame, (all_sendUSP_iff env conn hrequest).mp h⟩
    | some payload =>
      rw [hb] at h
      obtain ⟨p', rfl, hparams, hpending⟩ := boundPayload_writes (hpayload ▸ hb)
      have hsame : SameWrites job p { job with payload := .setParameter p' } p' :=
        ⟨rfl, rfl, rfl, hparams, hpending⟩
      obtain ⟨request, hrequest⟩ := hsame.buildUSPRequest htype
      exact ⟨_, p', hsame, (all_sendUSP_iff env conn hrequest).mp (h.2 (some 1) trivial)⟩

end

/-- **Which dispatches send the secret.**  However the database answers, a dispatch sends
the opened values or fails the job exactly if it is the gateway's, or if over USP no
write is sent or the stored values are the secret ones. -/
theorem secret_writes_opened_iff (store : String → Except String String) (leaser : Leaser)
    (hstore : leaser.Uses store) :
    leaser.Faithful store job p ↔ leaser.Opens store job p := by
  cases leaser with
  | cwmp env =>
    have henv : env.openSecret = store := hstore
    exact ⟨fun _ => trivial, fun _ => henv ▸ faithful_cwmp htype hpayload env⟩
  | usp env conn =>
    constructor
    · rintro ⟨hall, -⟩
      by_cases hbound : ∃ msg, boundPayload env.cache job.payload = .error msg
      · exact .inr (.inl hbound)
      · obtain ⟨j, p', hsame, p'', hp'', hcarries⟩ := handsOver_sendLeased htype hpayload env conn
          (fun msg hmsg => hbound ⟨msg, hmsg⟩) hall
        have hp : p'' = p' := by
          have := hp''.symm.trans hsame.payload
          simpa using this
        subst hp
        rcases hcarries with hpending | hopened
        · exact .inl (hsame.pending ▸ hpending)
        · refine .inr (.inr ?_)
          rw [hsame.parameters] at hopened
          intro w hw hhandle
          simpa [hhandle] using (List.forall₂_same.mp hopened w hw).2.2
    · intro hopens
      refine ⟨?_, meets_sendLeased htype hpayload env conn⟩
      refine all_sendLeased htype hpayload env conn ?_
      rcases hopens with hpending | hbound | hvalues
      · refine .inr fun j p' hsame => ⟨p', hsame.payload, .inl (hsame.pending ▸ hpending)⟩
      · exact .inl hbound
      · refine .inr fun j p' hsame => ⟨p', hsame.payload, .inr ?_⟩
        rw [hsame.parameters]
        refine List.forall₂_same.mpr ?_
        intro w hw
        by_cases hhandle : w.secretHandle = ""
        · simp [hhandle]
        · simp [hhandle, hvalues w hw hhandle]

end Send

/-! ### A sealed passphrase -/

/-- A passphrase behind a handle; its value is a placeholder. -/
def sealedPassphrase : SetParameterPayload :=
  { parameters := [{ name := "Device.WiFi.AccessPoint.1.Security.KeyPassphrase", value := "",
                     type := "xsd:string", secretHandle := "sh_a1" }] }

/-- The job that writes it, as a lease returns it. -/
def passphraseJob : Job :=
  { id := "j", commandKey := "k", deviceID := "d", type := .setParameter, status := .rpcSent,
    payload := .setParameter sealedPassphrase, attempts := 1 }

/-- A store that holds the passphrase. -/
def passphraseStore (handle : String) : Except String String :=
  if handle = "sh_a1" then .ok "hunter22" else .error "secret handle already used or expired"

/-- Leased by the gateway, the job sends the passphrase. -/
theorem secret_writes_opened_passphraseJob :
    passphraseJob.type = .setParameter ∧ passphraseJob.payload = .setParameter sealedPassphrase ∧
    (Leaser.cwmp { openSecret := passphraseStore }).Uses passphraseStore ∧
    (Leaser.cwmp { openSecret := passphraseStore }).Faithful passphraseStore passphraseJob
      sealedPassphrase :=
  ⟨rfl, rfl, rfl, (secret_writes_opened_iff rfl rfl passphraseStore
    (.cwmp { openSecret := passphraseStore }) rfl).mpr trivial⟩

/-- The job is queued for a device whose agent is connected. -/
def passphraseOverUsp : List Action :=
  [.atomic (.create { id := "j", commandKey := "k", deviceID := "d", type := .setParameter }
      (.setParameter sealedPassphrase)) fun _ => {},
    .atomic (.tryDispatch [{ conn := some ⟨1, "agent"⟩, msgID := "m" }] "d") fun _ => {}]

/-- **The placeholder is sent.**  The only request of the run is a Set of the empty value,
and the job is under way. -/
theorem passphraseOverUsp_sends_placeholder :
    ((runTrace passphraseOverUsp).filterMap handedOver).map (fun job =>
        match buildUSPRequest job with
        | .ok (.set grouped) =>
          (grouped.lookup "Device.WiFi.AccessPoint.1.Security.").bind (·.lookup "KeyPassphrase")
        | _ => none) = [some ""] ∧
      ((runEnd passphraseOverUsp).shared.jobs.find "j").any (fun row =>
        row.status = .rpcSent && row.payload.asSetParameter.any
          (·.parameters.any (·.secretHandle = "sh_a1"))) = true := by
  decide +kernel

end Acs
