/-
The driver of XMPP provisioning (`cmd/api/xmpp_provisioner.go`), the request that starts a
run (`cmd/api/xmpp_handlers.go`) and their tables.

Every API replica ticks: it lists the rows that are not finished and takes one step with
each of them.  A step creates the job the row's state waits for, or reads how that job has
ended and saves the row, guarded by the state it was read in.  A replica that is restarted is a
program that is never scheduled again.

How jobs end and what the parameter cache holds is decided by the environment, which may
also delete credentials.  Logging, the audit and the texts of the responses are left out.

Beside its tables the world keeps which jobs were created, each with the run and the state
it was created for, for which of those a `Save` has put a job into the row, and what was read
of a row since the last job was created for its device.
-/
import Acs.Lib.Assoc
import Acs.Lib.Limit
import Acs.Xmpp.Provisioning

namespace Acs.Xmpp

open Prog ProvisioningStart

def xmppProvBatch : Nat := 50
def xmppProvDiscoverAttempts : Nat := 3
def xmppProvVerifyAttempts : Nat := 8
def xmppProvVerifyRetryDelay : Time := seconds 20

/-- `strings.EqualFold` and the verb `%q`. -/
structure Env where
  equalFold : String → String → Bool
  quote : String → String

/-! ### Statements -/

/-- What a finished job tells. -/
structure JobOutcome where
  status : Status
  faultCode : Option String := none
  faultString : Option String := none
  /-- `instance_number` of the result, if the result can be decoded. -/
  instanceNumber : Option Int := none

inductive Stmt where
  | listActive (limit : Nat)
  /-- `jobs.Create` for the row as the step has it. -/
  | createJob (p : Provisioning) (payload : Payload)
  | jobByID (id : Nat)
  | save (p : Provisioning) (fromState : State)
  | getNames (deviceID : String)
  | getValues (deviceID : String)
  | clock
  | credential (s : CredentialStmt)
  | getRow (deviceID : String)
  | start (p : Provisioning)
  | deleteCredential (id : String)

/-- The answer to a statement; `none` is an error. -/
def Stmt.Res : Stmt → Type
  | .listActive _ => Option (List Provisioning)
  | .createJob .. => Option Nat
  | .jobByID _ => Option JobOutcome
  | .save .. | .start _ => Option Nat
  | .getNames _ => Option Names
  | .getValues _ => Option (StringMap String)
  | .clock => Time
  | .credential s => s.Res
  | .getRow _ => Option (Option Provisioning)
  | .deleteCredential _ => Unit

abbrev ProvProg (α : Type) := Prog Stmt.Res α

/-! ### The tables -/

/-- A state of a run. -/
structure Stage where
  deviceID : String
  run : Nat
  state : State
  deriving DecidableEq

def Provisioning.stage (p : Provisioning) : Stage :=
  ⟨p.deviceID, p.run, p.state⟩

/-- The tables, and what the proofs record. -/
structure World where
  rows : StringMap Provisioning
  credentials : CredentialTable
  /-- How many runs have been started. -/
  runs : Nat
  /-- The jobs, each with the state of a run it was created for. -/
  jobs : List (Stage × Payload)
  /-- The states for which a `Save` has put a job into the row of the run. -/
  recorded : List Stage
  /-- The rows as they were listed, until a job is created for the device. -/
  read : List Provisioning

/-- Nothing has been provisioned yet. -/
def World.initial (credentials : CredentialTable) : World :=
  ⟨∅, credentials, 0, [], [], []⟩

/-- The row after an UPDATE with what the step has. -/
def Provisioning.saved (row p : Provisioning) (now : Time) : Provisioning :=
  { row with
    state := p.state, connectionPath := p.connectionPath, serverPath := p.serverPath,
    jobID := p.jobID, attempts := p.attempts, jabberID := p.jabberID,
    connectionStatus := p.connectionStatus, lastError := p.lastError, updatedAt := now }

/-- The row of a new run. -/
def Provisioning.started (p : Provisioning) (run : Nat) (now : Time) : Provisioning :=
  { p with
    serverPath := "", jobID := none, attempts := 0, jabberID := "", connectionStatus := "",
    lastError := "", updatedAt := now, run }

/-- The row after its credential is deleted: `ON DELETE SET NULL`. -/
def Provisioning.withoutCredential (row : Provisioning) (id : String) : Provisioning :=
  { row with credentialID := if row.credentialID = id then "" else row.credentialID }

namespace World

variable (w : World)

/-- `Save`: the number of rows changed, and the world. -/
def save (p : Provisioning) (fromState : State) (now : Time) : Nat × World :=
  match w.rows.lookup p.deviceID with
  | none => (0, w)
  | some row =>
    if row.state = fromState then
      (1, { w with
        rows := w.rows.insert p.deviceID (row.saved p now)
        recorded :=
          if p.state = fromState ∧ p.jobID.isSome ∧ row.run = p.run then w.recorded ++ [p.stage]
          else w.recorded })
    else (0, w)

def begin (p : Provisioning) (now : Time) : World :=
  { w with rows := w.rows.insert p.deviceID (p.started w.runs now), runs := w.runs + 1 }

/-- `Start`: the number of rows changed, and the world. -/
def start (p : Provisioning) (now : Time) : Nat × World :=
  match w.rows.lookup p.deviceID with
  | none => (1, w.begin p now)
  | some row => if row.state.terminal then (1, w.begin p now) else (0, w)

def listActive (limit : Nat) : List Provisioning :=
  limitBy (·.updatedAt) limit ((w.rows.entries.map (·.2)).filter fun row => !row.state.terminal)

/-- `jobs.Create` for a row. -/
def createJob (p : Provisioning) (payload : Payload) : World :=
  { w with
    jobs := w.jobs ++ [(p.stage, payload)]
    read := w.read.filter (·.deviceID ≠ p.deviceID) }

def deleteCredential (id : String) : World :=
  { w with
    rows := Assoc.mapValues (fun _ row => row.withoutCredential id) w.rows
    credentials := (CredentialTable.ofRows (w.credentials.rows.filter (·.id ≠ id))).getD w.credentials }

end World

/-- What the environment decides about a statement. -/
structure Choice where
  delivery : Delivery := .executed
  now : Time := 0
  job : Option JobOutcome := none
  names : Option Names := some ∅
  values : Option (StringMap String) := some ∅
  credential : CredentialChoice := {}

def Stmt.exec (s : Stmt) (c : Choice) (w : World) : s.Res × World :=
  match s with
  | .listActive limit =>
    c.delivery.deliver (w.listActive limit) w { w with read := w.listActive limit ++ w.read }
  | .createJob p payload => c.delivery.deliver w.jobs.length w (w.createJob p payload)
  | .jobByID _ => (c.job, w)
  | .save p fromState =>
    c.delivery.deliver (w.save p fromState c.now).1 w (w.save p fromState c.now).2
  | .getNames _ => (c.names, w)
  | .getValues _ => (c.values, w)
  | .clock => (c.now, w)
  | .credential s =>
    ((s.exec c.credential w.credentials).1,
      { w with credentials := (s.exec c.credential w.credentials).2 })
  | .getRow deviceID => c.delivery.deliver (w.rows.lookup deviceID) w w
  | .start p => c.delivery.deliver (w.start p c.now).1 w (w.start p c.now).2
  | .deleteCredential id => ((), w.deleteCredential id)

open Xmpp.Stmt

/-! ### The driver -/

def jobPending : Status → Bool
  | .queued | .rpcSent | .inProgress | .awaitingTransferComplete => true
  | _ => false

def statusText : Status → String
  | .queued => "QUEUED"
  | .rpcSent => "RPC_SENT"
  | .inProgress => "IN_PROGRESS"
  | .awaitingTransferComplete => "AWAITING_TRANSFER_COMPLETE"
  | .awaitingDiagnosticsComplete => "AWAITING_DIAGNOSTICS_COMPLETE"
  | .success => "SUCCESS"
  | .failed => "FAILED"
  | .timeout => "TIMEOUT"

section

variable (e : Env) (p : Provisioning) (job : JobOutcome)

def jobFailure : String :=
  let code := job.faultCode.getD ""
  let text := job.faultString.getD ""
  statusText job.status ++ (if code = "" then "" else " " ++ code) ++
    (if text = "" then "" else ": " ++ text)

/-- What creating the job of a state comes to. -/
inductive Created where
  | job (id : Nat)
  | error
  /-- What the job should write cannot be written. -/
  | refused (text : String)

def Created.ofAnswer : Option Nat → Created
  | some id => .job id
  | none => .error

/-- What a step waits for: nothing to do this tick, or the job has ended. -/
inductive Awaited where
  | notDone
  | refused (text : String)
  | finished (job : JobOutcome)

def await (create : ProvProg Created) : ProvProg Awaited :=
  match p.jobID with
  | none => do
    match ← create with
    | .error => return .notDone
    | .refused text => return .refused text
    | .job id =>
      let _ ← perform (save { p with jobID := some id } p.state)
      return .notDone
  | some id => do
    match ← perform (jobByID id) with
    -- a job that vanished cannot finish
    | none => return .finished { status := .failed, faultString := some "job no longer exists" }
    | some job => if jobPending job.status then return .notDone else return .finished job

/-- Move the row to another state. -/
def advance (next : State) : ProvProg Unit := do
  let _ ← perform (save
    { p with
      state := next, jobID := none, attempts := 0
      lastError := if next = .failed then p.lastError else "" } p.state)

def fail (text : String) : ProvProg Unit :=
  advance { p with lastError := text } .failed

def retry (max : Nat) (reason : String) : ProvProg Unit :=
  if max ≤ p.attempts + 1 then
    fail p (reason ++ " (after " ++ toString (p.attempts + 1) ++ " attempts)")
  else do
    let _ ← perform (save
      { p with attempts := p.attempts + 1, jobID := none, lastError := reason } p.state)

def create (payload : Payload) : ProvProg Created := do
  let answer ← perform (Stmt.createJob p payload)
  return .ofAnswer answer

def stepAddObject (object : String) (onCreated : String → Provisioning × State) :
    ProvProg Unit := do
  match ← await p (create p (.addObject { objectPath := object })) with
  | .notDone | .refused _ => return ()
  | .finished job =>
    if job.status ≠ .success then fail p ("AddObject " ++ object ++ " failed: " ++ jobFailure job)
    else if job.instanceNumber.getD 0 ≤ 0 then
      fail p ("AddObject " ++ object ++ " returned no instance number")
    else
      let (p', state) := onCreated (instancePath object (job.instanceNumber.getD 0).toNat)
      advance p' state

def stepDiscover (root : String) (next : Names → Discovered) : ProvProg Unit := do
  match ← await p (create p (.parameterDiscovery { root, merge := true })) with
  | .notDone | .refused _ => return ()
  | .finished job =>
    if job.status ≠ .success then
      retry p xmppProvDiscoverAttempts ("discovery of " ++ root ++ " failed: " ++ jobFailure job)
    else
      match ← perform (getNames p.deviceID) with
      | none => return ()
      | some names =>
        match next names with
        | .notYet =>
          retry p xmppProvDiscoverAttempts
            ("the new instance's parameters were not in the discovery result: " ++ root)
        | .fails text => fail p text
        | .next p' state => advance p' state

def createSet (build : Names → ProvProg (Except String (List ParameterWrite))) :
    ProvProg Created := do
  match ← perform (getNames p.deviceID) with
  | none => return .error
  | some names =>
    match ← build names with
    | .error text => return .refused text
    | .ok writes => create p (.setParameter { parameters := writes })

def stepSet (next : State)
    (build : Names → ProvProg (Except String (List ParameterWrite))) : ProvProg Unit := do
  match ← await p (createSet p build) with
  | .notDone => return ()
  | .refused text => fail p (p.state.text ++ ": " ++ text)
  | .finished job =>
    if job.status ≠ .success then
      fail p ("SetParameterValues (" ++ p.state.text ++ ") failed: " ++ jobFailure job)
    else advance p next

def credentialAnswer (s : CredentialStmt) (r : (credential s).Res) : s.Res := r

/-- A program of the credentials, among the other statements. -/
def ofCredentials {α : Type} (p : CredentialProg α) : ProvProg α :=
  p.lift credential credentialAnswer

def buildConfigure (names : Names) : ProvProg (Except String (List ParameterWrite)) :=
  if p.credentialID = "" then return .error "the XMPP credential was deleted"
  else do
    match ← ofCredentials (Credentials.byID p.credentialID .reply) with
    | .found cred => return configureWrites names p cred.username cred.password
    | .notFound => return .error "load XMPP credential: credential not found"
    | .error => return .error "load XMPP credential"

def createRead : ProvProg Created := do
  match ← perform (getNames p.deviceID) with
  | none => return .error
  | some names => create p (.getParameter { paths := verifyPaths names p })

/-- Why a verification is not the last. -/
def retryReason : String :=
  if job.status ≠ .success then "verification read failed: " ++ jobFailure job
  else if p.jabberID = "" then
    "CPE has not reported a ConnReqJabberID yet (XMPP Connection Status " ++
      e.quote p.connectionStatus ++ ")"
  else if !validFullJID p.jabberID then "CPE reported a ConnReqJabberID that is not a full JID"
  else "CPE's ConnReqJabberID does not belong to the provisioned account"

/-- The row with what the verification read has found. -/
def Provisioning.reported (values : StringMap String) : Provisioning :=
  { p with
    jabberID :=
      Text.trimSpace ((values.lookup (managementServer ++ "ConnReqJabberID")).getD "")
    connectionStatus := (values.lookup (p.connectionPath ++ "Status")).getD "" }

def Provisioning.report : XmppReport :=
  { credentialID := p.credentialID, domain := p.domain, jobSucceeded := job.status = .success,
    jabberID := p.jabberID }

/-- `stepVerify`, from the end of its read on. -/
def verified : ProvProg Unit := do
  match ← perform (getValues p.deviceID) with
  | none => return ()
  | some values =>
    let p := p.reported values
    match ← ofCredentials (Acs.stepVerify e.equalFold (p.report job)) with
    | .retry => retry p xmppProvVerifyAttempts (retryReason e p job)
    | .failed => return ()
    | .done => advance p .done

def stepVerify : ProvProg Unit :=
  if p.jobID.isNone ∧ 0 < p.attempts then do
    let now : Time ← perform clock
    -- give the CPE time to log in before reading again
    if now - p.updatedAt < xmppProvVerifyRetryDelay then return () else read
  else read
where
  read : ProvProg Unit := do
    match ← await p (createRead p) with
    | .notDone | .refused _ => return ()
    | .finished job => verified e p job

def step : ProvProg Unit :=
  match p.state with
  | .addConnection => stepAddObject p connectionTable fun path =>
    ({ p with connectionPath := path }, .discoverConnection)
  | .discoverConnection => stepDiscover p p.connectionPath (discoverConnection p)
  | .addServer => stepAddObject p (p.connectionPath ++ "Server.") fun path =>
    ({ p with serverPath := path }, .discoverServer)
  | .discoverServer => stepDiscover p p.serverPath (discoverServer p)
  | .configure => stepSet p .bind (buildConfigure p)
  | .bind => stepSet p .verify fun names => return bindWrites names p
  | .verify => stepVerify e p
  | .done | .failed => return ()

/-- One tick of `Run`. -/
def tick : ProvProg Unit := do
  match ← perform (listActive xmppProvBatch) with
  | none => return ()
  | some rows => each rows (step e)

/-! ### Starting a run -/

/-- A request to provision a device, with the settings of the XMPP server and what is known
of the device; the account is the one that is generated for it. -/
structure ProvisionRequest where
  deviceID : String
  restart : Bool := false
  (username password : String)
  /-- The data model of the device is TR-181. -/
  tr181 : Bool := true
  /-- The ACS is connected to its XMPP server. -/
  connected : Bool := true
  domain : String
  resource : String := ""
  serverAddress : String
  serverPort : Nat := 5222
  keepAliveInterval : Nat := 0
  acsJID : String := ""
  relaxCertVerification : Bool := false
  bypassHostnameCheck : Bool := false

def containsToken (list token : String) : Bool :=
  (Text.split list ',').any fun t => e.equalFold (Text.trimSpace t) token

/-- The device does not say that it lacks XMPP; a cache that cannot be read says nothing. -/
def supportsXMPP (values : Option (StringMap String)) : Bool :=
  match values with
  | none => true
  | some values =>
    let methods := (values.lookup (managementServer ++ "SupportedConnReqMethods")).getD ""
    methods = "" || containsToken e methods "XMPP"

end

namespace ProvisionRequest

variable (r : ProvisionRequest)

/-- The row of the run that is to start.  A connection made in an earlier run is used again. -/
def row (existing : Option Provisioning) (names : Names) (credentialID : String) : Provisioning :=
  let path := (existing.map (·.connectionPath)).getD ""
  let reused := path ≠ "" ∧ (names.lookup path).isSome
  { deviceID := r.deviceID
    state := if reused then .discoverConnection else .addConnection
    credentialID
    connectionPath := if reused then path else ""
    domain := r.domain, resource := r.resource, serverAddress := r.serverAddress,
    serverPort := r.serverPort, keepAliveInterval := r.keepAliveInterval, acsJID := r.acsJID,
    relaxCertVerification := r.relaxCertVerification, bypassHostnameCheck := r.bypassHostnameCheck }

/-- A run in progress is left alone, and a finished one unless a restart is asked for. -/
def proceeds : Option Provisioning → Bool
  | none => true
  | some existing => existing.state.terminal && r.restart

/-- The credential of the earlier run. -/
def abandoned (existing : Option Provisioning) : Option String :=
  (existing.map (·.credentialID)).filter (· ≠ "")

end ProvisionRequest

/-- The statements of the part of the handler that deals with credentials. -/
def startStmt (row : String → Provisioning) : CredentialStmt → Stmt
  | .startProvisioning _ credentialID => .start (row credentialID)
  | s => .credential s

def startAnswer (row : String → Provisioning) : (s : CredentialStmt) → (startStmt row s).Res → s.Res
  | .startProvisioning .., r =>
    match (r : Option Nat) with
    | none => error
    | some n => if n = 0 then alreadyActive else started
  | .scopedDevice _, r | .byID .., r | .lookupCWMPDigest _, r | .pendingForDevice .., r
  | .queueRotation .., r | .create .., r | .ensurePendingCWMPDigest .., r | .activate _, r
  | .revoke _, r | .ensureAccount .., r => r

def provisionXMPP (e : Env) (r : ProvisionRequest) : ProvProg Unit := do
  match ← perform (credential (.scopedDevice r.deviceID)) with
  | false => return ()
  | true =>
    if r.serverAddress = "" then return ()
    else
      match ← perform (getRow r.deviceID) with
      | none => return ()
      | some existing =>
        if !r.proceeds existing || !r.tr181 then return ()
        else
          match ← perform (getNames r.deviceID) with
          | none => return ()
          | some names =>
            if !names.isSet connectionTable then return ()
            else
              let values ← perform (getValues r.deviceID)
              if !supportsXMPP e values || !r.connected then return ()
              else
                (provisionDeviceXMPP r.deviceID r.username r.password
                  (ProvisionRequest.abandoned existing)).lift
                    (startStmt (r.row existing names)) (startAnswer (r.row existing names))

/-! ### Runs -/

/-- A tick, a request or a deletion. -/
inductive Task where
  /-- A replica ticks. -/
  | tick
  | provision (r : ProvisionRequest)
  /-- Any other use of the credentials. -/
  | credentials (t : CredentialTask)
  | deleteCredential (id : String)

def Task.prog (e : Env) : Task → ProvProg Unit
  | .tick => Xmpp.tick e
  | .provision r => provisionXMPP e r
  | .credentials t => ofCredentials (t.prog e.equalFold)
  | .deleteCredential id => do
    let _ ← perform (Stmt.deleteCredential id)

abbrev Action := Pool.Action Task Choice
abbrev Event := Pool.Event Res World

/-- The statements executed in a run, from a world in which no replica is at work. -/
def events (e : Env) (as : List Action) (w : World) : List Event :=
  (Pool.run Stmt.exec (Task.prog e) as ⟨w, []⟩).1

end Acs.Xmpp
