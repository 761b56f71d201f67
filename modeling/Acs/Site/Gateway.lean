/-
The CWMP gateway with the tables beside the queue (`cmd/acs`).

`Acs.Gateway` has what the gateway does to the queue, with whatever it asks of other
tables answered from outside.  Here the same handlers run on the whole site: identities
are checked against the devices, reported values go to the cache, and a finished walk is
published.

What is left outside is decided by a `SiteEnv`: policies, templates and onboarding plans,
which of the discovered names are worth a read, clocks and fresh ids.
-/
import Acs.Gateway.Session
import Acs.Jobs.Protected
import Acs.Lib.Escape
import Acs.Site.Tables

namespace Acs

open Text SiteDb

/-! ### What a request brings -/

/-- `inboundIdentity`: what the credential of a request says about the device. -/
structure InboundIdentity where
  credentialDeviceID : String := ""
  /-- The common name of the client certificate. -/
  mtlsNaturalKey : String := ""
  sharedCredential : Bool := false

/-- An Inform, with the parts of its DeviceId that make the natural key. -/
structure Inform where
  oui : String
  productClass : String := ""
  serialNumber : String
  events : List EventStruct := []
  parameterList : List ParameterValue := []

/-- `NormalizeOUI`, for a given `strings.ToUpper`. -/
def normalizeOUI (upper : String → String) (oui : String) : String :=
  String.ofList ((upper oui).toList.filter fun c => c ≠ ':' && c ≠ '-' && c ≠ ' ')

/-- A part of the natural key, with its separator escaped. -/
def escapeKey (s : String) : String :=
  String.ofList (s.toList.flatMap fun c => if c = '\\' || c = '+' then ['\\', c] else [c])

/-- `DeviceID.NaturalKey`. -/
def Inform.naturalKey (upper : String → String) (i : Inform) : String :=
  let oui := escapeKey (normalizeOUI upper i.oui)
  if i.productClass ≠ "" then
    oui ++ "+" ++ escapeKey i.productClass ++ "+" ++ escapeKey i.serialNumber
  else oui ++ "+" ++ escapeKey i.serialNumber

/-- The fields of a natural key. -/
def splitEscaped (s : String) : List String :=
  (Escape.split '\\' '+' s.toList).map String.ofList

/-- `ParseOUISerial`: a natural key, the form with hyphens, or a bare serial number. -/
def parseOUISerial (upper : String → String) (s : String) : String × String :=
  let s := Text.trimSpace s
  let parts := if '+' ∈ s.toList then splitEscaped s else Text.split s '-'
  if parts.length < 2 then ("", s) else (upper (parts.headD ""), parts.getLastD "")

structure Policy where
  (name parameterName desiredValue : String)

structure ConfigTemplate where
  name : String
  parameters : List ParameterWrite

/-- What the open onboarding of a device asks for. -/
structure OnboardingWork where
  creator : String := ""
  simRead : Option (List String) := none
  writes : List (List ParameterWrite) := []

/-- Why a handler creates a job. -/
inductive Purpose where
  | policy | sim | onboarding | template | bootstrap | gatewayInfo | wifiInsights
  | rediscovery

structure SiteEnv where
  gateway : GatewayEnv := {}
  bound : InboundIdentity := {}
  sharedCredentialBootstrapOnly : Bool := false
  /-- `strings.ToUpper`. -/
  upper : String → String := String.map Char.toUpper
  /-- `strconv.Quote`. -/
  quote : String → String := fun s => "\"" ++ s ++ "\""
  /-- What the database driver says of a failed statement. -/
  driverError : String := ""
  /-- Ids and command keys of the jobs the handler creates. -/
  ids : Purpose → Nat → String × String := fun _ n => ("job" ++ toString n, "key" ++ toString n)
  /-- The id of a device that is new. -/
  deviceID : String := "device"
  sessionID : String := "session"
  /-- The policies and templates that match the device. -/
  policies : List Policy := []
  templates : List ConfigTemplate := []
  /-- The onboarding of the device, on an Inform or at the end of a session. -/
  onboarding : Bool → OnboardingWork := fun _ => {}
  /-- `GatewayInfoReadPaths`. -/
  gatewayInfoPaths : StringMap Bool → List String := fun _ => []
  /-- The paths of a Wi-Fi sample, if one is due. -/
  wifiInsights : Option (List String) := none

/-- `jobs.Create`, which refuses protected writes. -/
def SiteEnv.create (env : SiteEnv) (purpose : Purpose) (n : Nat) (deviceID : String)
    (type : JobType) (payload : Payload) (createdBy : String) (maxAttempts : Nat) :
    SiteProg (Option String) :=
  match checkProtectedWrite false type payload with
  | some _ => pure none
  | none => onQueue (Db.insert
      { id := (env.ids purpose n).1, commandKey := (env.ids purpose n).2, deviceID, type,
        maxAttempts, createdBy } payload)

namespace Site

variable (env : SiteEnv)

/-! ### Reported values -/

/-- Write what the device reported to the cache. -/
def cacheParameterValues (n : Nat) (deviceID : String) (list : List ParameterValue) :
    SiteProg Unit := do
  let _ ← SiteDb.upsert (env.ids .rediscovery n) deviceID (valuesByName list)

/-- The values of an accepted write; a sealed one is known to be set, and no more. -/
def writtenValues (parameters : List ParameterWrite) : StringMap String :=
  parameters.foldl
    (fun m w => m.insert w.name (if w.secretHandle ≠ "" then redactedMark else w.value)) ∅

/-! ### Discovery in a session -/

def rootIGD1 : String := "InternetGatewayDevice."

section

variable (cause : Cause) (deviceID : String) (job : Job) (payload : ParameterDiscoveryPayload)
  (names : StringMap Bool)

/-- Publish a finished walk. -/
def finishParameterDiscovery : SiteProg Unit := do
  match ← saveDiscovery deviceID { names, expectedFirmware := payload.firmware } with
  | .saved => do
    updateDataModelRoot deviceID (if payload.root = rootIGD1 then .igd1 else .device2)
    onQueue (Acs.finishParameterDiscovery { env.gateway with saveDiscovery := .saved } cause
      deviceID job payload names)
  | .failed =>
    onQueue (Acs.finishParameterDiscovery { env.gateway with saveDiscovery := .failed } cause
      deviceID job payload names)
  | .firmwareChanged => do
    onQueue (Acs.finishParameterDiscovery { env.gateway with saveDiscovery := .failed } cause
      deviceID job payload names)
    queueDiscoveryIfNeeded (env.ids .rediscovery 0) deviceID

/-- Replace one subtree of the discovered names. -/
def finishSubtreeMerge : SiteProg Unit := do
  let err ← mergeDiscoveredSubtree deviceID payload.root names
  onQueue (Acs.finishSubtreeMerge
    { env.gateway with mergeError := err.map (·.text env.quote env.driverError payload.root) }
    cause job payload names)

/-- Defer or give up on the object the walk is on. -/
def skipDiscoveryObject : SiteProg Unit :=
  match skipDiscoveryCursor payload with
  | .error msg => onQueue (Db.run cause (.markFailed job "" msg))
  | .ok (true, _, payload) => finishParameterDiscovery env cause deviceID job payload payload.names
  | .ok (false, _, payload) => onQueue (Db.run cause (.requeueDiscovery job payload))

/-- The device has named what is below the object it was asked for. -/
def takeNames : SiteProg Unit := do
  SiteDb.received deviceID job.id names
  if payload.merge then finishSubtreeMerge env cause deviceID job payload names
  else if payload.incremental then
    match advanceDiscovery payload names with
    | .error msg => onQueue (Db.run cause (.markFailed job "" msg))
    | .ok (false, payload) => onQueue (Db.run cause (.requeueDiscovery job payload))
    | .ok (true, payload) => finishParameterDiscovery env cause deviceID job payload payload.names
  else finishParameterDiscovery env cause deviceID job payload names

def completeParameterDiscovery (body : InboundBody) : SiteProg Unit :=
  match job.payload.asDiscovery with
  | none => pure ()
  | some payload =>
    match body.fault, body.getParameterNamesResponse with
    | some f, _ =>
      if payload.incremental && payload.cursor ≠ "" then
        skipDiscoveryObject env cause deviceID job payload
      else onQueue (discoveryFallback env.gateway cause deviceID job payload f.cwmpMessage)
    | none, none =>
      onQueue (discoveryFallback env.gateway cause deviceID job payload
        ("device returned no parameters under " ++ payload.root))
    | none, some list =>
      if list.isEmpty && payload.cursor = "" then
        onQueue (discoveryFallback env.gateway cause deviceID job payload
          ("device returned no parameters under " ++ payload.root))
      else takeNames env cause deviceID job payload (writableByName list)

/-! ### Completing a job -/

/-- The answer to a SET_PARAMETER: of the write, or of the read-back after it. -/
def completeSetParameter (body : InboundBody) : SiteProg Unit :=
  let rest := onQueue (Acs.completeSetParameter env.gateway cause deviceID job body)
  match body.setParameterValuesResponse, job.payload.asSetParameter with
  | none, some payload =>
    match body.getParameterValuesResponse with
    | some list =>
      -- The operation is recorded first, and the values only if that went well.
      if payload.verificationPending && env.gateway.recordOperation then do
        cacheParameterValues env 0 deviceID list
        rest
      else rest
    | none => rest
  | some _, some payload =>
    if (payload.verify && !(verificationPaths payload).isEmpty) || payload.parameters.isEmpty then
      rest
    else do
      onQueue (markJobSuccess cause job)
      let _ ← SiteDb.upsert (env.ids .rediscovery 0) deviceID (writtenValues payload.parameters)
      let _ ← onQueue (env.gateway.create 0 deviceID .getParameter
        (.getParameter { paths := payload.parameters.map (·.name) }) "system:confirm" 3)
  | _, none => rest

/-- The creator of the reads that sample Wi-Fi; their values are kept elsewhere. -/
def wifiInsightsCreator : String := "system:wifi-insights"

/-- The values of a complete answer to a read. -/
def readValues (body : InboundBody) : Option (List ParameterValue) :=
  match body.getParameterValuesResponse, job.payload.asGetParameter with
  | some list, some read =>
    if (missingReadPaths read.paths (valuesByName list)).isEmpty then some list else none
  | _, _ => none

/-- A non-fault answer to a request other than a discovery. -/
def completeAnswered (body : InboundBody) : SiteProg Unit :=
  if job.type = .setParameter then completeSetParameter env cause deviceID job body
  else if job.type = .getParameter then do
    onQueue (Acs.completeAnswered env.gateway cause deviceID job body)
    match readValues job body with
    | some list =>
      if job.createdBy = wifiInsightsCreator then pure ()
      else cacheParameterValues env 0 deviceID list
    | none => pure ()
  else onQueue (Acs.completeAnswered env.gateway cause deviceID job body)

/-- Record the device's answer against the job the session waits for. -/
def completeJob (current : CurrentJob) (body : InboundBody) : SiteProg Unit := do
  let cause := Cause.answer current.id current.attempt
  match ← onQueue (Db.byID cause current.id) with
  | none => pure ()
  | some job =>
    if job.deviceID ≠ deviceID || job.status ≠ .rpcSent then pure ()
    else if job.type = .parameterDiscovery then
      completeParameterDiscovery env cause deviceID job body
    else
      match body.fault with
      | some f => onQueue (Db.run cause (.markFailed job f.cwmpCode f.cwmpMessage))
      | none => completeAnswered env cause deviceID job body

/-! ### Onboarding, policies and templates -/

/-- Queue the writes of a plan, up to the first that cannot be queued.  The result says
whether any was. -/
def queueOnboardingConfiguration (deviceID creator : String) :
    List (List ParameterWrite × Nat) → SiteProg Bool
  | [] => pure false
  | ([], _) :: rest => queueOnboardingConfiguration deviceID creator rest
  | (parameters, n) :: rest => do
    match ← env.create .onboarding n deviceID .setParameter
        (.setParameter { parameters, verify := true }) creator 3 with
    | none => pure false
    | some _ => do
      let _ ← queueOnboardingConfiguration deviceID creator rest
      pure true

def reconcileOnboarding (onInform : Bool) : SiteProg Bool := do
  let work := env.onboarding onInform
  match work.simRead with
  | some paths =>
    if onInform then do
      let _ ← env.create .sim 0 deviceID .getParameter (.getParameter { paths })
        (work.creator ++ ":sim") 3
      queueOnboardingConfiguration env deviceID work.creator work.writes.zipIdx
    else queueOnboardingConfiguration env deviceID work.creator work.writes.zipIdx
  | none => queueOnboardingConfiguration env deviceID work.creator work.writes.zipIdx

def reconcileOnboardingAtSessionEnd : SiteProg Bool := do
  match ← getDevice deviceID with
  | none => pure false
  | some device => reconcileOnboarding env device.id false

/-- Correct what was reported against the policies. -/
def enforcePolicies (reported : List ParameterValue) : SiteProg Unit :=
  Prog.each env.policies.zipIdx fun (policy, n) =>
    match (valuesByName reported).lookup policy.parameterName with
    | none => pure ()
    | some actual =>
      if actual = policy.desiredValue then pure ()
      else do
        let _ ← env.create .policy n deviceID .setParameter
          (.setParameter { parameters := [{ name := policy.parameterName,
                                            value := policy.desiredValue, type := "xsd:string" }] })
          ("policy:" ++ policy.name) 3

def applyAutoProvisioningTemplates : SiteProg Unit :=
  Prog.each env.templates.zipIdx fun (template, n) => do
    let _ ← env.create .template n deviceID .setParameter
      (.setParameter { parameters := template.parameters, verify := true })
      ("template:" ++ template.name) 3

/-- The version a new walk is expected to find. -/
def walkFirmware (values : StringMap String) : String :=
  let firmware := (values.lookup softwareVersionDevice).getD ""
  if firmware = "" then (values.lookup softwareVersionIGD).getD "" else firmware

/-- The root to walk, and the other one. -/
def walkRoots : DataModelRoot → String × String
  | .igd1 => (rootIGD1, rootDevice2)
  | _ => (rootDevice2, rootIGD1)

def autoDiscoverParameters (device : Device) : SiteProg Unit := do
  let values ← getValues device.id
  match ← activeDiscovery device.id with
  | some none => do
    let _ ← env.create .bootstrap 0 device.id .parameterDiscovery
      (.parameterDiscovery
        { root := (walkRoots device.dataModelRoot).1
          fallbackRoot := (walkRoots device.dataModelRoot).2
          incremental := true
          firmware := (values.map walkFirmware).getD "" })
      "system:bootstrap-discovery" discoveryMaxObjects
  | _ => pure ()

/-- Read who the gateway of a satellite is, if the tree has it. -/
def refreshGatewayInfoOnBoot : SiteProg Unit := do
  match ← getNames deviceID with
  | some (some tree) =>
    if (env.gatewayInfoPaths tree.names).isEmpty then pure ()
    else do
      let _ ← env.create .gatewayInfo 0 deviceID .getParameter
        (.getParameter { paths := env.gatewayInfoPaths tree.names }) "system:gateway-info" 3
  | _ => pure ()

def maybeQueueWiFiInsights : SiteProg Unit :=
  match env.wifiInsights with
  | none => pure ()
  | some paths => do
    let _ ← env.create .wifiInsights 0 deviceID .getParameter (.getParameter { paths })
      wifiInsightsCreator 3

/-! ### Sending the next job -/

/-- Lease the next job of the device; once more when the onboarding plan has queued one. -/
def leaseForSession : SiteProg (Option (Option Job)) := do
  let lease := onQueue (Db.lease deviceID sessionDispatchableTypes false env.gateway.owner none)
  match ← lease with
  | some none => do
    if ← reconcileOnboardingAtSessionEnd env deviceID then lease else pure (some none)
  | result => pure result

/-- Go on with an open session: send the next job or close it. -/
def sendNext (session : Session) : SiteProg Unit := do
  match ← leaseForSession env session.deviceID with
  | none => pure ()
  | some none => do
    let _ ← onQueue (Db.closeSession session.id)
  | some (some job) =>
    match ← onQueue (Db.setCurrentJob session.id (some ⟨job.id, job.attempts⟩)) with
    | none => pure ()
    | some () => onQueue (sendJob env.gateway job)

/-- The identity of the request may speak for the device. -/
def allows : SiteProg Bool :=
  if env.bound.credentialDeviceID ≠ "" && env.bound.credentialDeviceID ≠ deviceID then pure false
  else if env.bound.mtlsNaturalKey ≠ "" then do
    match ← getDevice deviceID with
    | none => pure false
    | some device => pure (device.ouiSerial = env.bound.mtlsNaturalKey)
  else pure true

/-- A POST that is neither an Inform nor a TransferComplete. -/
def dispatch (sessionID : String) (body : InboundBody) : SiteProg Unit := do
  match ← onQueue (Db.getSession sessionID) with
  | none => pure ()
  | some session =>
    if session.closed then pure ()
    else do
      if ← allows env session.deviceID then
        match session.currentJob with
        | none => sendNext env session
        | some current => do
          completeJob env session.deviceID current body
          match ← onQueue (Db.setCurrentJob session.id none) with
          | none => pure ()
          | some () => sendNext env session

/-! ### TransferComplete -/

/-- Apply the outcome of a transfer to its job. -/
def finishTransfer (tc : TransferComplete) : SiteProg Unit :=
  let cause := Cause.transferComplete tc.commandKey
  if !lateTransferReconcilable job && job.status ≠ .awaitingTransferComplete &&
      job.status ≠ .rpcSent then pure ()
  else
    match tc.failure with
    | some f => onQueue (Db.run cause (.markFailed job f.faultCode f.faultString))
    | none => do
      onQueue (markJobSuccess cause job)
      if job.type = .firmwareDownload then
        let _ ← onQueue (env.gateway.create 0 job.deviceID .getParameter
          (.getParameter { paths := ["Device.DeviceInfo.SoftwareVersion"] }) "system:confirm" 3)

def handleTransferComplete (tc : TransferComplete) : SiteProg Unit := do
  match ← onQueue (Db.byCommandKey (.transferComplete tc.commandKey) tc.commandKey) with
  | none => pure ()
  | some job => do
    if ← allows env job.deviceID then finishTransfer env job tc

/-! ### Inform -/

/-- Skip the object of a walk that an earlier session left unanswered. -/
def recoverAbandonedDiscovery : SiteProg Unit := do
  match ← onQueue (Db.inFlightDiscoveries deviceID) with
  | none => pure ()
  | some inFlight =>
    Prog.each inFlight fun job =>
      match job.payload.asDiscovery with
      | none => pure ()
      | some payload =>
        if !payload.incremental || payload.cursor = "" then pure ()
        else skipDiscoveryObject env .recovery deviceID job payload

end

/-- The shared credential is for devices that are not known yet. -/
def sharedCredentialAllows (key : String) : SiteProg Bool :=
  if env.bound.sharedCredential && env.sharedCredentialBootstrapOnly then do
    match ← getByOUIserial key with
    | some none => pure true
    | _ => pure false
  else pure true

/-- A credential that is bound to a device is for the Informs of that device only. -/
def credentialAllows (key : String) : SiteProg Bool :=
  if env.bound.credentialDeviceID ≠ "" then do
    match ← getByOUIserial key with
    | some (some existing) => pure (existing.id = env.bound.credentialDeviceID)
    | _ => pure false
  else pure true

/-- What an Inform does before its session is opened. -/
def beforeSession (device : Device) (inform : Inform) : SiteProg Unit := do
  cacheParameterValues env 1 device.id inform.parameterList
  enforcePolicies env device.id inform.parameterList
  let _ ← reconcileOnboarding env device.id true
  if hasEventCode inform.events "0" then do
    applyAutoProvisioningTemplates env device.id
    autoDiscoverParameters env device
  else if inform.events.any fun e => toLower (trimSpace e.eventCode) = "1 boot" then
    refreshGatewayInfoOnBoot env device.id

/-- What an Inform does once its session is open. -/
def afterSession (device : Device) (inform : Inform) : SiteProg Unit := do
  recoverAbandonedDiscovery env device.id
  onQueue (recoverDroppedSessionJobs device.id inform.events)
  onQueue (Db.run .recovery (.releaseAwaitingDiagnostics device.id))
  maybeQueueWiFiInsights env device.id

/-- An Inform that may speak for its device. -/
def acceptInform (inform : Inform) : SiteProg Unit := do
  match ← upsertFromInform env.deviceID (inform.naturalKey env.upper) with
  | none => pure ()
  | some device => do
    beforeSession env device inform
    match ← onQueue (Db.openSession env.sessionID device.id) with
    | none => pure ()
    | some () => afterSession env device inform

def handleInform (inform : Inform) : SiteProg Unit := do
  let key := inform.naturalKey env.upper
  if normalizeOUI env.upper inform.oui = "" || inform.serialNumber = "" then pure ()
  else if !(← sharedCredentialAllows env key) then pure ()
  else if !(← credentialAllows env key) then pure ()
  else if env.bound.mtlsNaturalKey ≠ "" && env.bound.mtlsNaturalKey ≠ key then pure ()
  else acceptInform env inform

/-! ### Requests -/

end Site

/-- What the body of a POST is taken for. -/
inductive Inbound where
  | inform (i : Inform)
  | transferComplete (tc : TransferComplete)
  /-- GetRPCMethods, or a request the gateway does not support. -/
  | cpeInitiated
  | other (body : InboundBody)

/-- An authenticated POST, with its session cookie. -/
structure CwmpRequest where
  env : SiteEnv
  cookie : Option String := none
  body : Inbound

/-- `handleCWMP`, once the request is authenticated and parsed. -/
def handleCWMP (req : CwmpRequest) : SiteProg Unit :=
  match req.body with
  | .inform i => Site.handleInform req.env i
  | body =>
    if req.env.bound.sharedCredential && req.env.sharedCredentialBootstrapOnly then pure ()
    else
      match body, req.cookie with
      | .transferComplete tc, _ => Site.handleTransferComplete req.env tc
      | .other body, some sessionID => Site.dispatch req.env sessionID body
      | _, _ => pure ()

end Acs
