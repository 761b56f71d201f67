/-
Completing the job a CWMP session waits for (`cmd/acs/dispatch.go`, `discovery.go`).

Each handler is a program over the statements of the queue.  What it asks of other
parts of the system (the certificate check, the parameter cache, the secret store,
the onboarding plans, the wall clock, fresh ids) is answered by a `GatewayEnv`,
about which nothing is assumed.
-/
import Acs.Gateway.Rpc
import Acs.Jobs.Repository

namespace Acs

open Db

/-! ### The rest of the system -/

structure GatewayEnv where
  ownerName : String := "acs/1"
  /-- The device the request's credential is bound to, if any. -/
  credentialDeviceID : String := ""
  /-- The client certificate, if any, is the given device's. -/
  certificateAllows : String → Bool := fun _ => true
  /-- `time.Now()`. -/
  clock : Time := 0
  /-- Ids and command keys of the jobs the handler creates. -/
  fresh : Nat → String × String := fun n => ("job" ++ toString n, "key" ++ toString n)
  recordOperation : Bool := true
  saveDiscovery : SaveResult := .saved
  /-- The error of `MergeDiscoveredSubtree`, if it fails. -/
  mergeError : Option String := none
  /-- The reads that a finished discovery queues. -/
  followUpReads : List (List String) := []
  onboardingQueued : Bool := false
  cache : DeviceCache := {}
  openSecret : String → Except String String := fun _ => .error "secret store disabled"

section

variable (env : GatewayEnv) (cause : Cause) (deviceID : String) (job : Job)
  (payload : ParameterDiscoveryPayload) (names : StringMap Bool)

/-- `LeaseOwner` of the process. -/
def GatewayEnv.owner : Owner := ⟨.acs, env.ownerName⟩

/-- Queue a job with one of the handler's fresh ids. -/
def GatewayEnv.create (n : Nat) (deviceID : String) (type : JobType)
    (payload : Payload) (createdBy : String) (maxAttempts : Nat) : Handler (Option String) :=
  insert
    { id := (env.fresh n).1, commandKey := (env.fresh n).2, deviceID, type, maxAttempts, createdBy }
    payload

/-! ### Completing a job -/

def markUnexpectedResponse : Handler Unit :=
  run cause (.markFailed job "" "response did not match the RPC that was sent")

def markJobSuccess : Handler Unit :=
  run cause (.markSuccess job)

/-- Park a diagnostic until the next Inform, or end it. -/
def awaitDiagnostic : Handler Unit :=
  if diagnosticsExpired job env.clock || job.attempts ≥ job.maxAttempts then
    run cause (.markTimeout job
      (if job.attempts ≥ job.maxAttempts then
        "diagnostic did not complete within " ++ toString job.maxAttempts ++ " attempts"
      else "diagnostic did not complete by its deadline"))
  else
    run cause (.markAwaitingDiagnostics job (windowSeconds (diagnosticsWindow job)))

def completeDiagnostic (body : InboundBody) : Handler Unit :=
  if !diagnosticsTriggered job then
    match body.setParameterValuesResponse with
    | none => markUnexpectedResponse cause job
    | some _ => awaitDiagnostic env cause job
  else
    match body.getParameterValuesResponse with
    | none => markUnexpectedResponse cause job
    | some list =>
      let pre := diagnosticPayloadPrefix job
      let state := diagnosticsState list pre
      match classifyDiagnosticsState state with
      | .pending => awaitDiagnostic env cause job
      | .complete =>
        if job.type = .diagnosticsDownload || job.type = .diagnosticsUpload then
          run cause (.markSuccessWithDetail job
            (.tr143 (list.map fun v => (v.name, v.value)) pre (job.type = .diagnosticsUpload)))
        else markJobSuccess cause job
      | .failed => run cause (.markFailed job "" state)

/-- The answer to a SET_PARAMETER: of the write, or of the read-back after it. -/
def completeSetParameter (body : InboundBody) : Handler Unit :=
  match body.setParameterValuesResponse with
  | none =>
    match job.payload.asSetParameter, body.getParameterValuesResponse with
    | some payload, some list =>
      if payload.verificationPending then
        let check := compareReadback payload (valuesByName list)
        if !env.recordOperation then
          run cause (.markFailed job "EVIDENCE_FAILED" "failed to persist write verification")
        else if !check.success then
          run cause (.markFailed job "READBACK_MISMATCH"
            "readback did not confirm every readable parameter")
        else markJobSuccess cause job
      else markUnexpectedResponse cause job
    | _, _ => markUnexpectedResponse cause job
  | some _ =>
    match job.payload.asSetParameter with
    | none => markJobSuccess cause job
    | some payload => do
      if payload.verify && !(verificationPaths payload).isEmpty then
        if (← update cause (.beginReadback job payload)) ≠ some 1 then
          run cause (.markFailed job "READBACK_QUEUE_FAILED" "failed to queue verification")
      else
        markJobSuccess cause job
        if !payload.parameters.isEmpty then
          let _ ← env.create 0 deviceID .getParameter
            (.getParameter { paths := payload.parameters.map (·.name) }) "system:confirm" 3

/-- A non-fault answer to any other request of the session. -/
def completeAnswered (body : InboundBody) : Handler Unit :=
  -- A response that only has to be there.
  let expect (present : Bool) : Handler Unit :=
    if present then markJobSuccess cause job else markUnexpectedResponse cause job
  match job.type with
  | .setParameter => completeSetParameter env cause deviceID job body
  | .getParameter =>
    match body.getParameterValuesResponse with
    | none => markUnexpectedResponse cause job
    | some list =>
      match job.payload.asGetParameter with
      | some read =>
        if (missingReadPaths read.paths (valuesByName list)).isEmpty then markJobSuccess cause job
        else run cause
          (.markFailed job "PARTIAL_READ" "device omitted requested readable parameters")
      | none => run cause
          (.markFailed job "PARTIAL_READ" "device omitted requested readable parameters")
  | .firmwareDownload =>
    if body.downloadResponse.isSome then run cause (.markAwaitingTransferComplete job)
    else markUnexpectedResponse cause job
  | .upload =>
    if body.uploadResponse.isSome then run cause (.markAwaitingTransferComplete job)
    else markUnexpectedResponse cause job
  | .diagnosticsPing | .diagnosticsTraceroute | .diagnosticsDownload | .diagnosticsUpload =>
    completeDiagnostic env cause job body
  | .addObject =>
    match body.addObjectResponse with
    | none => markUnexpectedResponse cause job
    | some n => run cause (.markSuccessWithDetail job (.instanceNumber n))
  | .deleteObject => expect body.deleteObjectResponse.isSome
  | .reboot => expect body.rebootResponse.isSome
  | .factoryReset => expect body.factoryResetResponse.isSome
  | .scheduleInform => expect body.scheduleInformResponse.isSome
  | .setParameterAttributes => expect body.setParameterAttributesResponse.isSome
  | .getParameterAttributes =>
    match body.getParameterAttributesResponse with
    | none => markUnexpectedResponse cause job
    | some list => run cause (.markSuccessWithDetail job (.attributes list))
  -- Neither is completed here: the one is never sent in a session, the other is
  -- taken care of before.
  | .connectionRequest | .parameterDiscovery => pure ()

/-! ### Discovery in a session -/

def rootDevice2 : String := "Device."

/-- How many of the names are writable. -/
def writableCount : Nat :=
  names.entries.countP (·.2)

/-- Publish a finished walk. -/
def finishParameterDiscovery : Handler Unit :=
  match env.saveDiscovery with
  | .saved => do
    run cause (.markSuccessWithDetail job
      (.discovery payload.root (StringMap.size names) (writableCount names) payload.skipped))
    if payload.root = rootDevice2 then
      Prog.each (env.followUpReads.zipIdx 1) fun (paths, n) => do
        let _ ← env.create n deviceID .getParameter (.getParameter { paths }) "system:wifi-state" 3
  | .failed =>
    run cause (.markFailed job "" "failed to persist discovery snapshot")
  | .firmwareChanged => do
    run cause (.markFailed job "" "failed to persist discovery snapshot")
    queueDiscovery (env.fresh 0) deviceID env.cache

/-- Replace one subtree of the discovered names. -/
def finishSubtreeMerge : Handler Unit :=
  match env.mergeError with
  | some err => run cause (.markFailed job "" ("failed to merge discovered subtree: " ++ err))
  | none => run cause (.markSuccessWithDetail job
      (.discovery payload.root (StringMap.size names) (writableCount names) []))

/-- Defer or give up on the object the walk is on. -/
def skipDiscoveryObject : Handler Unit :=
  match skipDiscoveryCursor payload with
  | .error msg => run cause (.markFailed job "" msg)
  | .ok (true, _, payload) =>
    finishParameterDiscovery env cause deviceID job payload payload.names
  | .ok (false, _, payload) => run cause (.requeueDiscovery job payload)

/-- The names of a GetParameterNames response. -/
def writableByName (list : List (String × String)) : StringMap Bool :=
  list.foldl (fun m p => m.insert p.1 (p.2 = "1" || p.2 = "true")) ∅

/-- The device has nothing under this root: fail the job and try the other root once. -/
def discoveryFallback (detail : String) : Handler Unit := do
  run cause (.markFailed job "" detail)
  if !(payload.isFallback || payload.fallbackRoot = "" || payload.cursor ≠ "") then
    match ← env.create 0 deviceID .parameterDiscovery
        (.parameterDiscovery
          { root := payload.fallbackRoot, isFallback := true,
            incremental := payload.incremental, firmware := payload.firmware })
        "system:bootstrap-discovery" discoveryMaxObjects with
    | none => pure ()
    | some key => run cause (.recordDiscoveryFallback job key)

def completeParameterDiscovery (body : InboundBody) : Handler Unit :=
  match job.payload.asDiscovery with
  | none => pure ()
  | some payload =>
    match body.fault, body.getParameterNamesResponse with
    | some f, _ =>
      if payload.incremental && payload.cursor ≠ "" then
        skipDiscoveryObject env cause deviceID job payload
      else discoveryFallback env cause deviceID job payload f.cwmpMessage
    | none, none =>
      discoveryFallback env cause deviceID job payload
        ("device returned no parameters under " ++ payload.root)
    | none, some list =>
      if list.isEmpty && payload.cursor = "" then
        discoveryFallback env cause deviceID job payload
          ("device returned no parameters under " ++ payload.root)
      else
        let names := writableByName list
        if payload.merge then finishSubtreeMerge env cause job payload names
        else if payload.incremental then
          match advanceDiscovery payload names with
          | .error msg => run cause (.markFailed job "" msg)
          | .ok (false, payload) => run cause (.requeueDiscovery job payload)
          | .ok (true, payload) =>
            finishParameterDiscovery env cause deviceID job payload payload.names
        else finishParameterDiscovery env cause deviceID job payload names

/-- Record the device's answer against the job the session waits for. -/
def completeJob (current : CurrentJob) (body : InboundBody) : Handler Unit := do
  let cause := Cause.answer current.id current.attempt
  match ← byID cause current.id with
  | none => pure ()
  | some job =>
    if job.deviceID ≠ deviceID || job.status ≠ .rpcSent then pure ()
    else if job.type = .parameterDiscovery then
      completeParameterDiscovery env cause deviceID job body
    else
      match body.fault with
      | some f => run cause (.markFailed job f.cwmpCode f.cwmpMessage)
      | none => completeAnswered env cause deviceID job body

end

end Acs
