/-
The CWMP gateway between a POST and its reply (`cmd/acs/session.go`): sending the
next job of a session, TransferComplete, and the recovery that every Inform runs.
-/
import Acs.Gateway.Complete

namespace Acs

/-! ### Sending the next job -/

/-- The writes with every sealed secret opened. -/
def openWrites (env : GatewayEnv) : List ParameterWrite → Except String (List ParameterWrite)
  | [] => .ok []
  | w :: rest => do
    let w ←
      if w.secretHandle = "" then .ok w
      else (env.openSecret w.secretHandle).map fun value => { w with value, secretHandle := "" }
    let rest ← openWrites env rest
    .ok (w :: rest)

section

variable (env : GatewayEnv) (deviceID : String) (events : List EventStruct)

/-- The copy of a job that is rendered; a read-back needs no secret. -/
def openSecretHandles (job : Job) : Except String Job :=
  if job.type ≠ .setParameter then .ok job
  else
    match job.payload.asSetParameter with
    | none => .ok job
    | some p =>
      if p.verificationPending then .ok job
      else (openWrites env p.parameters).map fun parameters =>
        { job with payload := .setParameter { p with parameters } }

/-- The request is bound to the device: by its credential and by its certificate. -/
def GatewayEnv.allows : Bool :=
  (env.credentialDeviceID = "" || env.credentialDeviceID = deviceID) &&
    env.certificateAllows deviceID

/-- Render the leased job and write it as the reply. -/
def sendJob (job : Job) : Handler Unit := do
  match ← bindFirmware env.cache job with
  | .error msg => Db.run .dispatch (.markFailed job "FIRMWARE_CHANGED" msg)
  | .ok job =>
    match openSecretHandles env job with
    | .error msg => Db.run .dispatch (.markFailed job "SECRET_HANDLE_UNAVAILABLE" msg)
    | .ok rendered =>
      match renderJobRequest rendered with
      | none => Db.run .dispatch (.markFailed job "" "unrenderable job payload")
      | some _ => do
        let _ ← Db.handOver rendered .acs

/-- Lease the next job of the device; once more when the onboarding plan has queued one. -/
def leaseForSession : Handler (Option (Option Job)) := do
  match ← Db.lease deviceID sessionDispatchableTypes false env.owner none with
  | some none =>
    if env.onboardingQueued then Db.lease deviceID sessionDispatchableTypes false env.owner none
    else pure (some none)
  | result => pure result

/-- Go on with an open session: send the next job or close it. -/
def sendNext (session : Session) : Handler Unit := do
  match ← leaseForSession env session.deviceID with
  | none => pure ()
  | some none => do
    let _ ← Db.closeSession session.id
  | some (some job) =>
    match ← Db.setCurrentJob session.id (some ⟨job.id, job.attempts⟩) with
    | none => pure ()
    | some () => sendJob env job

/-- A POST that is neither an Inform nor a TransferComplete. -/
def dispatch (sessionID : String) (body : InboundBody) : Handler Unit := do
  match ← Db.getSession sessionID with
  | none => pure ()
  | some session =>
    if session.closed || !env.allows session.deviceID then pure ()
    else
      match session.currentJob with
      | none => sendNext env session
      | some current => do
        completeJob env session.deviceID current body
        match ← Db.setCurrentJob session.id none with
        | none => pure ()
        | some () => sendNext env session

/-! ### TransferComplete -/

def handleTransferComplete (tc : TransferComplete) : Handler Unit := do
  let cause := Cause.transferComplete tc.commandKey
  match ← Db.byCommandKey cause tc.commandKey with
  | none => pure ()
  | some job =>
    if !env.allows job.deviceID then pure ()
    else if !lateTransferReconcilable job && job.status ≠ .awaitingTransferComplete &&
        job.status ≠ .rpcSent then pure ()
    else
      match tc.failure with
      | some f => Db.run cause (.markFailed job f.faultCode f.faultString)
      | none => do
        markJobSuccess cause job
        if job.type = .firmwareDownload then
          let _ ← env.create 0 job.deviceID .getParameter
            (.getParameter { paths := ["Device.DeviceInfo.SoftwareVersion"] }) "system:confirm" 3

/-! ### Recovery on an Inform -/

/-- Skip the object of a walk that an earlier session left unanswered. -/
def recoverAbandonedDiscovery : Handler Unit := do
  match ← Db.inFlightDiscoveries deviceID with
  | none => pure ()
  | some inFlight =>
    Prog.each inFlight fun job =>
      match job.payload.asDiscovery with
      | none => pure ()
      | some payload =>
        if !payload.incremental || payload.cursor = "" then pure ()
        else skipDiscoveryObject env .recovery deviceID job payload

/-- Recover the jobs an earlier session left unanswered. -/
def recoverDroppedSessionJobs : Handler Unit := do
  match ← Db.droppedSessionJobs deviceID with
  | none => pure ()
  | some dropped =>
    Prog.each dropped fun job =>
      Db.run .recovery (.applyDroppedSessionAction job
        (classifyDroppedSessionJob job (methodKeys events)
          (hasEventCode events eventDiagnosticsComplete)))

/-- What every Inform does to the jobs of its device. -/
def recoverOnInform : Handler Unit := do
  recoverAbandonedDiscovery env deviceID
  recoverDroppedSessionJobs deviceID events
  Db.run .recovery (.releaseAwaitingDiagnostics deviceID)

/-- An accepted Inform of the device: a new session, then recovery. -/
def handleInform (deviceID sessionID : String) (events : List EventStruct) : Handler Unit := do
  match ← Db.openSession sessionID deviceID with
  | none => pure ()
  | some () => recoverOnInform env deviceID events

end

end Acs
