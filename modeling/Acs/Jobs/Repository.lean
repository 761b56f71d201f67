/-
Operations of the jobs repository that take more than one statement, or that
decide something before they write: binding a job to the firmware it was sent to
(`firmware_evidence.go`), the reaper's pass (`lease.go`), and the worker for
connection requests (`cmd/api/connreq_worker.go`).
-/
import Acs.Jobs.Statements

namespace Acs

/-! ### Binding a read or a write to the firmware -/

/-- What is cached about a device; an error when it cannot be read. -/
structure DeviceCache where
  firmware : Except String String := .ok ""
  /-- Path and access of the discovered capabilities. -/
  capabilities : Except String (List (String × String)) := .ok []

/-- How `SaveDiscovery` ends. -/
inductive SaveResult where
  | saved | failed | firmwareChanged

/-- `datamodel.NormalizePath`: instance numbers become the placeholder. -/
def normalizePath (path : String) : String :=
  let placeholder (part : String) : String :=
    match part.toList with
    | c :: rest =>
      if c ≠ '0' && isDigit c && rest.all isDigit then "\x7bi\x7d" else part
    | [] => part
  Text.join ((Text.split path '.').map placeholder) "."

/-- The parameters of a write that the device says cannot be read. -/
def writeOnlyNames (capabilities : List (String × String)) (parameters : List ParameterWrite) :
    List String :=
  parameters.flatMap fun w =>
    (capabilities.filter fun c =>
      c.2 = "PARAM_WRITE_ONLY" && (c.1 = w.name || c.1 = normalizePath w.name)).map fun _ => w.name

def firmwareChanged : String := "firmware changed since operation began"

/-- The payload to store; none when the job is bound to this firmware already. -/
def boundPayload (cache : DeviceCache) (payload : Payload) : Except String (Option Payload) := do
  let firmware ← cache.firmware
  match payload with
  | .getParameter p =>
    if p.evidenceBound then
      if p.evidenceFirmware ≠ firmware then .error firmwareChanged else .ok none
    else
      .ok (some (.getParameter { p with evidenceBound := true, evidenceFirmware := firmware }))
  | .setParameter p =>
    if p.evidenceBound then
      if p.evidenceFirmware ≠ firmware then .error firmwareChanged else .ok none
    else
      let capabilities ← cache.capabilities
      .ok (some (.setParameter
        { p with
          evidenceBound := true
          evidenceFirmware := firmware
          nonReadable := writeOnlyNames capabilities p.parameters }))
  | _ => .error "invalid payload"

/-- `BindFirmware`: on success the handler goes on with the returned copy. -/
def bindFirmware (cache : DeviceCache) (job : Job) : Handler (Except String Job) :=
  if job.type ≠ .getParameter && job.type ≠ .setParameter then pure (.ok job)
  else
    match boundPayload cache job.payload with
    | .error msg => pure (.error msg)
    | .ok none => pure (.ok job)
    | .ok (some payload) => do
      match ← Db.update .dispatch (.bindFirmware job payload) with
      | some 1 => pure (.ok { job with payload := payload })
      | some _ => pure (.error "operation attempt is no longer current")
      | none => pure (.error "update failed")

/-- `QueueDiscoveryIfNeeded`, with the id and command key it generates. -/
def queueDiscovery (ids : String × String) (deviceID : String) (cache : DeviceCache) :
    Handler Unit := do
  let _ ← Db.queueDiscoveryIfNeeded
    { id := ids.1, commandKey := ids.2, deviceID, type := .parameterDiscovery,
      maxAttempts := discoveryMaxObjects, createdBy := "system:onboarding-discovery" }
    (.parameterDiscovery
      { root := "Device.", fallbackRoot := "InternetGatewayDevice.", incremental := true,
        firmware := cache.firmware.toOption.getD "" })

/-! ### Background work -/

/-- Issue updates in order, up to the first that fails. -/
def untilFailure (cause : Cause) : List Update → Handler Unit
  | [] => pure ()
  | u :: rest => do
    match ← Db.update cause u with
    | none => pure ()
    | some _ => untilFailure cause rest

/-- The updates of a pass of the reaper, in order. -/
def recoveryUpdates : List Update :=
  [.failNonRepeatable, .failExhausted, .requeueExpired, .timeOutTransfers,
    .timeOutAwaitingDiagnostics]

/-- One pass of the reaper. -/
def recoverExpiredLeases : Handler Unit :=
  untilFailure .worker recoveryUpdates

/-- `RecoverExpiredLeases` with the counts it returns; none when a statement fails. -/
def recoveryCounts : Handler (Option (List Nat)) :=
  Prog.gather recoveryUpdates (Db.update .worker)

/-- How a connection request ends; it does not when the worker is stopped. -/
inductive ConnReqOutcome where
  | failed (faultCode faultString : String)
  | succeeded
  | timedOut (detail : String)
  | stopped

/-- One round of the worker. -/
def connectionRequestWorker (ownerName : String) (outcome : ConnReqOutcome) : Handler Unit := do
  match ← Db.leaseNextByType .connectionRequest ⟨.api, ownerName⟩ with
  | some (some job) =>
    match outcome with
    | .failed code text => Db.run .worker (.markFailed job code text)
    | .succeeded => Db.run .worker (.markSuccess job)
    | .timedOut detail => Db.run .worker (.markTimeout job detail)
    | .stopped => pure ()
  | _ => pure ()

end Acs
