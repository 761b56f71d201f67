/-
The site as a system of concurrent handlers.

The USP dispatcher's part of the site (`cmd/uspc/dispatcher.go`, `handler.go`), the two
ways the API queues a discovery (`cmd/api`), and the tasks that make up a run: whatever
`Acs.Queue.System` has, with the handlers that reach the other tables in their place.
-/
import Acs.Site.Gateway
import Acs.Queue.System

namespace Acs

open SiteDb

namespace Site

/-! ### Answers over USP -/

section Answers

variable (env : UspEnv) (cause : Cause) (job : Job) (outcome : ResponseOutcome)
  (detail : ResultDetail) (retry : Handler Unit)

/-- Publish a finished walk. -/
def saveSupportedDM (snapshot : DiscoverySnapshot) : SiteProg Unit := do
  match ← saveDiscovery job.deviceID snapshot with
  | .saved => onQueue (resolveSuccess cause job detail retry)
  | .failed =>
    onQueue (resolveFailure cause job "" "failed to persist discovery snapshot" retry)
  | .firmwareChanged => do
    onQueue (resolveFailure cause job "" "failed to persist discovery snapshot" retry)
    queueDiscoveryIfNeeded env.fresh job.deviceID

/-- The agent has named what it supports. -/
def takeSupportedDM (p : ParameterDiscoveryPayload) (outcome : ResponseOutcome)
    (detail : ResultDetail) (retry : Handler Unit) : SiteProg Unit := do
  SiteDb.received job.deviceID job.id outcome.discoveredNames
  if !p.incremental then
    saveSupportedDM env cause job detail retry
      { names := outcome.discoveredNames, capabilities := outcome.discoveredCapabilities,
        expectedFirmware := p.firmware }
  else
    match advanceDiscovery (mergeCapabilities p outcome.discoveredCapabilities)
        outcome.discoveredNames with
    | .error msg => onQueue (resolveFailure cause job "" msg retry)
    | .ok (true, p) =>
      saveSupportedDM env cause job detail retry
        { names := p.names, capabilities := p.capabilities.entries.map (·.2),
          expectedFirmware := p.firmware }
    | .ok (false, next) => do
      if (← onQueue (Db.update cause (.requeueDiscovery job next))) ≠ some 1 then
        onQueue (resolveFailure cause job "" "failed to save discovery progress" retry)
      else onQueue retry

def completeSupportedDM : SiteProg Unit :=
  match job.payload.asDiscovery with
  | none => onQueue (resolveFailure cause job "" "invalid discovery payload" retry)
  | some p =>
    if outcome.discoveredNames.keys.isEmpty then
      onQueue (resolveFailure cause job "" "agent returned no supported data model" retry)
    else takeSupportedDM env cause job p outcome detail retry

/-- The answer to a write; a read-back is cached before it is looked at. -/
def completeWrite : SiteProg Unit :=
  if job.payload.asSetParameter.any (·.verificationPending) then do
    let cached ← SiteDb.upsert env.fresh job.deviceID outcome.params
    onQueue (Acs.completeWrite { env with upsert := cached } cause job outcome detail retry)
  else onQueue (Acs.completeWrite env cause job outcome detail retry)

/-- The answer to a read; values that are complete are cached first. -/
def completeRead : SiteProg Unit :=
  if job.payload.asGetParameter.any fun p => (missingReadPaths p.paths outcome.params).isEmpty then do
    let cached ← SiteDb.upsert env.fresh job.deviceID outcome.params
    onQueue (Acs.completeRead { env with upsert := cached } cause job outcome detail retry)
  else onQueue (Acs.completeRead env cause job outcome detail retry)

/-- A terminal response that reports no error. -/
def completeResponse : SiteProg Unit :=
  match job.type with
  | .setParameter => completeWrite env cause job outcome detail retry
  | .parameterDiscovery => completeSupportedDM env cause job outcome detail retry
  | .getParameter => completeRead env cause job outcome detail retry
  | _ => onQueue (resolveSuccess cause job detail retry)

end Answers

/-- Resolve the job of a pending request, unless someone else takes its entry first. -/
def resolvePending (env : UspEnv) (retries : List UspEnv) (msg : UspMsg) (job : Job) :
    SiteProg Unit :=
  let cause := Cause.answer job.id job.attempts
  let retry := tryDispatch retries job.deviceID
  match msg.body with
  | .error e => onQueue do
    if ← Db.pendingTake msg.msgID then classifyAndFail cause job e retry
  | .response r =>
    let outcome := classifyResponse r
    if outcome.stillPending then pure ()
    else do
      if ← onQueue (Db.pendingTake msg.msgID) then
        match outcome.uspErr with
        | some e => onQueue (classifyAndFail cause job e retry)
        | none =>
          completeResponse env cause job outcome (.dispatch msg.msgType outcome.params) retry

/-- A message from an endpoint, matched by its id. -/
def handleResponse (env : UspEnv) (retries : List UspEnv) (from_ : String) (msg : UspMsg) :
    SiteProg Unit := do
  match ← onQueue (Db.pendingGet msg.msgID) with
  | none => pure ()
  | some entry =>
    if entry.conn.endpoint ≠ from_ then pure ()
    else resolvePending env retries msg entry.job

/-! ### Discoveries that are asked for -/

/-- `createParameterDiscovery` of the API: an operator asks for a walk. -/
def createParameterDiscovery (env : SiteEnv) (deviceID operator : String) (incremental : Bool) :
    SiteProg Unit := do
  match ← getDevice deviceID with
  | none => pure ()
  | some device =>
    match ← getValues deviceID with
    | none => pure ()
    | some values =>
      match ← activeDiscovery deviceID with
      | some none => do
        let _ ← env.create .bootstrap 0 deviceID .parameterDiscovery
          (.parameterDiscovery
            { root := (walkRoots device.dataModelRoot).1
              fallbackRoot := (walkRoots device.dataModelRoot).2
              incremental, firmware := walkFirmware values })
          operator discoveryMaxObjects
      | _ => pure ()

/-- `stepDiscover` of the XMPP provisioner: the subtree of a new object. -/
def stepDiscover (env : SiteEnv) (deviceID root : String) : SiteProg Unit := do
  let _ ← env.create .bootstrap 0 deviceID .parameterDiscovery
    (.parameterDiscovery { root, merge := true }) "system:xmpp-provision" 3

/-- Any other job. -/
def createJob (spec : JobSpec) (payload : Payload) : SiteProg Unit :=
  if spec.type = .parameterDiscovery then pure ()
  else do
    let _ ← onQueue (Db.insert spec payload)

end Site

/-! ### Tasks and runs -/

inductive SiteTask where
  | create (spec : JobSpec) (payload : Payload)
  | discover (env : SiteEnv) (deviceID operator : String) (incremental : Bool)
  | discoverSubtree (env : SiteEnv) (deviceID root : String)
  /-- An agent connects, or a walk found another firmware. -/
  | queueDiscovery (ids : String × String) (deviceID : String)
  /-- A device is registered ahead of its first contact. -/
  | register (id key : String)
  | cwmp (req : CwmpRequest)
  | tryDispatch (envs : List UspEnv) (deviceID : String)
  | response (env : UspEnv) (retries : List UspEnv) (endpoint : String) (msg : UspMsg)
  | operationComplete (retries : List UspEnv) (connDeviceID : String) (oc : OperationComplete)
      (attempt : Nat)
  /-- A ValueChange that an agent notifies of. -/
  | valueChange (ids : String × String) (deviceID : String) (values : StringMap String)
  | forget (conn : Conn)
  | reaperPass
  | connectionRequest (ownerName : String) (outcome : ConnReqOutcome)

def SiteTask.prog : SiteTask → SiteProg Unit
  | .create spec payload => Site.createJob spec payload
  | .discover env d operator incremental => Site.createParameterDiscovery env d operator incremental
  | .discoverSubtree env d root => Site.stepDiscover env d root
  | .queueDiscovery ids d => queueDiscoveryIfNeeded ids d
  | .register id key => (upsertFromInform id key).bind fun _ => .done ()
  | .cwmp req => handleCWMP req
  | .tryDispatch envs d => onQueue (Acs.tryDispatch envs d)
  | .response env retries endpoint msg => Site.handleResponse env retries endpoint msg
  | .operationComplete retries d oc attempt =>
    onQueue (handleOperationComplete retries d oc attempt)
  | .valueChange ids d values => (upsert ids d values).bind fun _ => .done ()
  | .forget conn => onQueue (Acs.forget conn)
  | .reaperPass => onQueue recoverExpiredLeases
  | .connectionRequest ownerName outcome => onQueue (connectionRequestWorker ownerName outcome)

abbrev SiteAction := Pool.Action SiteTask Choice
abbrev SiteEvent := Pool.Event SiteStmt.Res Site

/-- A site with the given devices, where nothing has happened yet. -/
def Site.init (devices : DeviceTable) : Site where
  queue := World.init
  devices := devices

/-- The statements executed by a run from a site where nothing has happened. -/
def siteTrace (devices : DeviceTable) (as : List SiteAction) : List SiteEvent :=
  (Pool.run SiteStmt.exec SiteTask.prog as ⟨.init devices, []⟩).1

/-- The site that a run ends in. -/
def siteEnd (devices : DeviceTable) (as : List SiteAction) : Site :=
  (Pool.run SiteStmt.exec SiteTask.prog as ⟨.init devices, []⟩).2.shared

end Acs
