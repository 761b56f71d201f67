/-
The USP dispatcher (`cmd/uspc/dispatcher.go`).

Every resolved job triggers another attempt to dispatch for its device, which can
itself resolve a job and trigger the next.  The list of environments a handler is
given is how many of these it gets to make; each attempt takes its own.
-/
import Acs.Uspc.Message
import Acs.Jobs.Repository

namespace Acs

/-- What one attempt to dispatch, or to resolve, asks of other parts of the system. -/
structure UspEnv where
  ownerName : String := "uspc/1"
  /-- The live connection of the device's agent. -/
  conn : Option Conn := none
  /-- `usp.NewMsgID()`. -/
  msgID : String := ""
  cache : DeviceCache := {}
  /-- Id and command key of the job the handler creates. -/
  fresh : String × String := ("", "")
  upsert : Bool := true
  recordOperation : Bool := true
  saveDiscovery : SaveResult := .saved
  saveInstances : String → Bool := fun _ => true

/-- `LeaseOwner` of the process. -/
def UspEnv.owner (env : UspEnv) : Owner := ⟨.uspc, env.ownerName⟩

def uspDispatchableTypes : List JobType :=
  [.getParameter, .setParameter, .addObject, .deleteObject, .reboot, .factoryReset,
   .diagnosticsPing, .diagnosticsTraceroute, .parameterDiscovery, .firmwareDownload,
   .diagnosticsDownload, .diagnosticsUpload]

/-! ### Resolving a job -/

section

variable (cause : Cause) (job : Job) (e : UspError)

/-- Look at the job again before writing: the copy to write with, if it is still
RPC_SENT.  When the look fails the write goes ahead. -/
def stillResolvable : Handler (Option Job) := do
  match ← Db.byID cause job.id with
  | none => pure (some job)
  | some current => pure (if current.status ≠ .rpcSent then none else some current)

def resolve (write : Job → Update) (retry : Handler Unit) : Handler Unit := do
  match ← stillResolvable cause job with
  | none => retry
  | some copy => do
    Db.run cause (write copy)
    retry

def resolveSuccess (detail : ResultDetail) (retry : Handler Unit) : Handler Unit :=
  resolve cause job (.markSuccessWithDetail · detail) retry

def resolveFailure (faultCode faultString : String) (retry : Handler Unit) : Handler Unit :=
  resolve cause job (.markFailed · faultCode faultString) retry

def classifyAndFail (retry : Handler Unit) : Handler Unit :=
  resolveFailure cause job (faultOf e).1 (faultOf e).2 retry

end

/-! ### Dispatching -/

/-- Build the request of a job bound to the firmware and send it. -/
def sendUSP (env : UspEnv) (conn : Conn) (job : Job) : Handler Unit :=
  match buildUSPRequest job with
  | .error .unsupportedOverUSP => Db.run .dispatch (.requeue job)
  | .error (.invalid text) => Db.run .dispatch (.markFailed job "USP_DISPATCH_BUILD_ERROR" text)
  | .ok _ => do
    Db.pendingPut env.msgID ⟨job, conn⟩
    if !(← Db.handOver job .uspc) then
      let _ ← Db.pendingTake env.msgID

/-- Dispatch one job of the device, if there is one and nothing is outstanding. -/
def tryDispatch : List UspEnv → String → Handler Unit
  | [], _ => pure ()
  | env :: retries, deviceID =>
    match env.conn with
    | none => pure ()
    | some conn => do
      match ← Db.hasOutstandingRPC deviceID with
      | some (false, seen) =>
        match ← Db.lease deviceID uspDispatchableTypes true env.owner (some seen) with
        | some (some job) =>
          match ← bindFirmware env.cache job with
          | .error msg =>
            resolveFailure .dispatch job "FIRMWARE_CHANGED" msg (tryDispatch retries job.deviceID)
          | .ok job => sendUSP env conn job
        | _ => pure ()
      | _ => pure ()

/-! ### Answers -/

section Answers

variable (env : UspEnv) (cause : Cause) (job : Job) (outcome : ResponseOutcome)
  (detail : ResultDetail) (retry : Handler Unit)

/-- The answer to a write, or to the read-back after it. -/
def completeWrite : Handler Unit :=
  match job.payload.asSetParameter with
  | none => resolveFailure cause job "" "invalid write payload" retry
  | some p => do
    if p.verify && !p.verificationPending && !(verificationPaths p).isEmpty then
      if (← Db.update cause (.beginReadback job p)) ≠ some 1 then
        resolveFailure cause job "" "failed to queue readback" retry
      else retry
    else if p.verificationPending then
      if !env.upsert then resolveFailure cause job "" "failed to cache readback" retry
      else if !env.recordOperation then
        resolveFailure cause job "" "failed to persist verification" retry
      else if !(compareReadback p outcome.params).success then
        resolveFailure cause job "READBACK_MISMATCH"
          "readback did not confirm every readable parameter" retry
      else resolveSuccess cause job detail retry
    else resolveSuccess cause job detail retry

/-- Publish a finished walk. -/
def saveSupportedDM : Handler Unit :=
  match env.saveDiscovery with
  | .saved => resolveSuccess cause job detail retry
  | .failed => resolveFailure cause job "" "failed to persist discovery snapshot" retry
  | .firmwareChanged => do
    resolveFailure cause job "" "failed to persist discovery snapshot" retry
    queueDiscovery env.fresh job.deviceID env.cache

/-- The capabilities of one answer, kept with the walk. -/
def mergeCapabilities (p : ParameterDiscoveryPayload) (found : List SupportedCapability) :
    ParameterDiscoveryPayload :=
  { p with capabilities := found.foldl (fun m c => m.insert c.path c) p.capabilities }

def completeSupportedDM : Handler Unit :=
  match job.payload.asDiscovery with
  | none => resolveFailure cause job "" "invalid discovery payload" retry
  | some p =>
    if outcome.discoveredNames.keys.isEmpty then
      resolveFailure cause job "" "agent returned no supported data model" retry
    else if !p.incremental then saveSupportedDM env cause job detail retry
    else
      match advanceDiscovery (mergeCapabilities p outcome.discoveredCapabilities)
          outcome.discoveredNames with
      | .error msg => resolveFailure cause job "" msg retry
      | .ok (true, _) => saveSupportedDM env cause job detail retry
      | .ok (false, next) => do
        if (← Db.update cause (.requeueDiscovery job next)) ≠ some 1 then
          resolveFailure cause job "" "failed to save discovery progress" retry
        else retry

/-- What goes wrong with one path of an instance read. -/
def instanceFault (path : String) : Option String :=
  if (outcome.instances.lookup path).isNone then some "missing instance discovery result"
  else if !env.saveInstances path then some "failed to persist instance evidence"
  else none

/-- The answer to a read of values or of instances. -/
def completeRead : Handler Unit :=
  let reported := !outcome.params.keys.isEmpty
  match job.payload.asGetParameter with
  | none =>
    if reported then
      resolveFailure cause job "PARTIAL_READ" "agent omitted requested readable parameters" retry
    else resolveFailure cause job "" "invalid read payload" retry
  | some p =>
    let missing := !(missingReadPaths p.paths outcome.params).isEmpty
    if reported && missing then
      resolveFailure cause job "PARTIAL_READ" "agent omitted requested readable parameters" retry
    else if reported && !env.upsert then
      resolveFailure cause job "" "failed to persist parameter values" retry
    else if p.instances then
      match p.paths.findSome? (instanceFault env outcome) with
      | some text => resolveFailure cause job "" text retry
      | none => resolveSuccess cause job detail retry
    else if reported && !env.recordOperation then
      resolveFailure cause job "" "failed to persist read evidence" retry
    else if !reported && missing then
      resolveFailure cause job "PARTIAL_READ" "agent returned no requested parameter values" retry
    else resolveSuccess cause job detail retry

/-- A terminal response that reports no error. -/
def completeResponse : Handler Unit :=
  match job.type with
  | .setParameter => completeWrite env cause job outcome detail retry
  | .parameterDiscovery => completeSupportedDM env cause job outcome detail retry
  | .getParameter => completeRead env cause job outcome detail retry
  | _ => resolveSuccess cause job detail retry

end Answers

section

variable (env : UspEnv) (retries : List UspEnv) (from_ : String) (msg : UspMsg)

/-- Resolve the job of a pending request, unless someone else takes its entry first. -/
def resolvePending (job : Job) : Handler Unit :=
  let cause := Cause.answer job.id job.attempts
  let retry := tryDispatch retries job.deviceID
  match msg.body with
  | .error e => do
    if ← Db.pendingTake msg.msgID then classifyAndFail cause job e retry
  | .response r =>
    let outcome := classifyResponse r
    if outcome.stillPending then pure ()
    else do
      if ← Db.pendingTake msg.msgID then
        match outcome.uspErr with
        | some e => classifyAndFail cause job e retry
        | none =>
          completeResponse env cause job outcome (.dispatch msg.msgType outcome.params) retry

/-- A message from an endpoint, matched by its id. -/
def handleResponse : Handler Unit := do
  match ← Db.pendingGet msg.msgID with
  | none => pure ()
  | some entry =>
    if entry.conn.endpoint ≠ from_ then pure ()
    else resolvePending env retries msg entry.job

/-- An OperationComplete from a connection of the given device.  The attempt is that
of the Operate it reports on, recorded for the proofs only. -/
def handleOperationComplete (connDeviceID : String) (oc : OperationComplete) (attempt : Nat) :
    Handler Unit := do
  let cause := Cause.operationComplete oc.commandKey attempt
  match ← Db.byCommandKey cause oc.commandKey with
  | none => pure ()
  | some job =>
    if connDeviceID = "" || connDeviceID ≠ job.deviceID || job.status ≠ .rpcSent then pure ()
    else do
      Db.pendingDropKey oc.commandKey
      let retry := tryDispatch retries job.deviceID
      match oc.failure with
      | some e => classifyAndFail cause job e retry
      | none => resolveSuccess cause job (.dispatch "NOTIFY" (paramsOf oc.outputArgs)) retry

end

/-- The connection is gone. -/
def forget (conn : Conn) : Handler Unit :=
  Db.pendingForget conn

end Acs
