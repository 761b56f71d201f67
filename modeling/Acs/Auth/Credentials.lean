/-
Versioned credentials of a device (`internal/credentials`, `cmd/acs/main.go`,
`cmd/api/credential_handlers.go`, `cmd/api/xmpp_handlers.go`, `cmd/api/xmpp_provisioner.go`).

A credential is created PENDING.  Activation makes it ACTIVE and puts the one that was
ACTIVE into GRACE; a credential that is PENDING or in GRACE can be revoked.  A transaction
of the repository is one statement; what a caller looks up before it is a statement of its
own.

Passwords are kept as they are, without the encryption at rest.  What the device, the job
queue, the XMPP server and the provisioning table answer is decided by the environment.
-/
import Acs.Jobs.Job
import Acs.Lib.Pool

namespace Acs

open Prog

inductive CredentialType where
  | connectionRequest | cwmpDigest | xmpp
  deriving DecidableEq

inductive CredentialStatus where
  | pending | active | grace | revoked
  deriving DecidableEq

/-- A row of `device_credentials`. -/
structure Credential where
  (id deviceID : String)
  type : CredentialType
  version : Nat
  (username password : String)
  status : CredentialStatus := .pending
  commandKey : String := ""
  createdAt : Time
  activatedAt : Option Time := none
  revokedAt : Option Time := none
  deriving DecidableEq

/-! ### The table -/

/-- The primary key and the unique indexes of the table. -/
structure CredentialKeys (rows : List Credential) : Prop where
  ids : (rows.map (·.id)).Nodup
  versions : (rows.map fun c => (c.deviceID, c.type, c.version)).Nodup
  /-- `device_credentials_one_active_idx` -/
  oneActive : ((rows.filter (·.status = .active)).map fun c => (c.deviceID, c.type)).Nodup
  /-- `device_credentials_one_pending_cwmp_digest_idx` -/
  onePending : ((rows.filter fun c => c.type = .cwmpDigest ∧ c.status = .pending).map
    (·.deviceID)).Nodup

instance (rows : List Credential) : Decidable (CredentialKeys rows) :=
  decidable_of_iff
    ((rows.map (·.id)).Nodup ∧ (rows.map fun c => (c.deviceID, c.type, c.version)).Nodup ∧
      ((rows.filter (·.status = .active)).map fun c => (c.deviceID, c.type)).Nodup ∧
      ((rows.filter fun c => c.type = .cwmpDigest ∧ c.status = .pending).map
        (·.deviceID)).Nodup)
    ⟨fun h => ⟨h.1, h.2.1, h.2.2.1, h.2.2.2⟩,
      fun h => ⟨h.ids, h.versions, h.oneActive, h.onePending⟩⟩

structure CredentialTable where
  rows : List Credential
  keys : CredentialKeys rows

namespace CredentialTable

def empty : CredentialTable := ⟨[], by decide⟩

/-- The rows as a table, unless they break an index. -/
def ofRows (rows : List Credential) : Option CredentialTable :=
  if h : CredentialKeys rows then some ⟨rows, h⟩ else none

variable (t : CredentialTable)

section

variable (id : String) (now : Time)

def byID : Option Credential :=
  t.rows.find? (·.id = id)

/-- The newest version among some rows. -/
def newest : List Credential → Option Credential
  | [] => none
  | c :: rest =>
    match newest rest with
    | none => some c
    | some best => if c.version < best.version then some best else some c

def pendingForDevice (deviceID : String) (type : CredentialType) : Option Credential :=
  newest (t.rows.filter fun c => c.deviceID = deviceID ∧ c.type = type ∧ c.status = .pending)

/-- The credential a device presents by its username, while it may still be used. -/
def lookupCWMPDigest (username : String) : Option Credential :=
  newest (t.rows.filter fun c =>
    c.type = .cwmpDigest ∧ c.username = username ∧ c.status ∈ [.pending, .active, .grace])

/-- `COALESCE(MAX(version), 0) + 1` of a device and type. -/
def nextVersion (deviceID : String) (type : CredentialType) : Nat :=
  ((t.rows.filter fun c => c.deviceID = deviceID ∧ c.type = type).map (·.version)).foldr max 0 + 1

def insert (id deviceID : String) (type : CredentialType)
    (username password commandKey : String) (now : Time) : Option (Credential × CredentialTable) :=
  let cred : Credential :=
    { id, deviceID, type, version := t.nextVersion deviceID type, username, password, commandKey,
      createdAt := now }
  (ofRows (t.rows ++ [cred])).map fun t' => (cred, t')

/-- The rows after `Activate`: the ACTIVE credential of the same device and type goes into
GRACE, then the credential is set ACTIVE, whatever its status was. -/
def activateRows (cred : Credential) (now : Time) : List Credential :=
  (t.rows.map fun c =>
    if c.deviceID = cred.deviceID ∧ c.type = cred.type ∧ c.status = .active then
      { c with status := .grace, revokedAt := none }
    else c).map fun c =>
      if c.id = cred.id then { c with status := .active, activatedAt := some now } else c

/-- `Activate`: whether the credential was found, and the table. -/
def activate : Option (Bool × CredentialTable) :=
  match t.byID id with
  | none => some (false, t)
  | some cred => (ofRows (t.activateRows cred now)).map fun t' => (true, t')

/-- `UPDATE … SET status = 'REVOKED' … WHERE id = $1 AND status IN ('GRACE', 'PENDING')`. -/
def revokeRows : List Credential :=
  t.rows.map fun c =>
    if c.id = id ∧ c.status ∈ [.grace, .pending] then
      { c with status := .revoked, revokedAt := some now }
    else c

/-- `Revoke`: the number of rows changed, and the table. -/
def revoke : Option (Nat × CredentialTable) :=
  (ofRows (t.revokeRows id now)).map fun t' =>
    (t.rows.countP fun c => c.id = id ∧ c.status ∈ [.grace, .pending], t')

end

end CredentialTable

/-! ### Statements -/

/-- What a credential is read for. -/
inductive LookupPurpose where
  /-- To answer a request. -/
  | reply
  /-- To decide on an operator's request to activate it. -/
  | activation
  | revocation
  | verification

/-- What `Start` of an XMPP provisioning comes to. -/
inductive ProvisioningStart where
  | started | alreadyActive | error

inductive CredentialStmt where
  /-- `getScopedDevice`: whether the operator may see the device. -/
  | scopedDevice (deviceID : String)
  | byID (id : String) (purpose : LookupPurpose)
  | lookupCWMPDigest (username : String)
  | pendingForDevice (deviceID : String) (type : CredentialType)
  /-- Resolve the parameters and queue the write of a rotation. -/
  | queueRotation (deviceID : String) (type : CredentialType) (username password : String)
  | create (deviceID : String) (type : CredentialType) (username password commandKey : String)
  | ensurePendingCWMPDigest (deviceID username password : String)
  | activate (id : String)
  | revoke (id : String)
  | ensureAccount (username password : String)
  | startProvisioning (deviceID credentialID : String)

/-- The answer to a statement; `none` is an error of the database. -/
def CredentialStmt.Res : CredentialStmt → Type
  | .scopedDevice _ => Bool
  | .byID .. | .lookupCWMPDigest _ | .pendingForDevice .. => Option (Option Credential)
  | .queueRotation .. => Option String
  | .create .. | .ensurePendingCWMPDigest .. => Option Credential
  | .activate _ => Option Bool
  | .revoke _ => Option Nat
  | .ensureAccount .. => Bool
  | .startProvisioning .. => ProvisioningStart

/-- What the environment decides about a statement. -/
structure CredentialChoice where
  delivery : Delivery := .executed
  now : Time := 0
  /-- `uuid.New()` -/
  freshID : String := ""
  inScope : Bool := true
  commandKey : Option String := some ""
  account : Bool := true
  start : ProvisioningStart := .started

/-- `EnsurePendingCWMPDigest`: the credential that is PENDING, or a new one. -/
def CredentialTable.ensurePending (t : CredentialTable) (deviceID username password : String)
    (c : CredentialChoice) : Option (Credential × CredentialTable) :=
  match t.pendingForDevice deviceID .cwmpDigest with
  | some cred => some (cred, t)
  | none => t.insert c.freshID deviceID .cwmpDigest username password (c.commandKey.getD "") c.now

def CredentialStmt.exec (s : CredentialStmt) (c : CredentialChoice) (t : CredentialTable) :
    s.Res × CredentialTable :=
  match s with
  | .scopedDevice _ => (c.inScope, t)
  | .byID id _ => c.delivery.deliver (t.byID id) t t
  | .lookupCWMPDigest username => c.delivery.deliver (t.lookupCWMPDigest username) t t
  | .pendingForDevice deviceID type => c.delivery.deliver (t.pendingForDevice deviceID type) t t
  | .queueRotation .. => (c.commandKey, t)
  | .create deviceID type username password commandKey =>
    c.delivery.attempt t (t.insert c.freshID deviceID type username password commandKey c.now)
  | .ensurePendingCWMPDigest deviceID username password =>
    c.delivery.attempt t (t.ensurePending deviceID username password c)
  | .activate id => c.delivery.attempt t (t.activate id c.now)
  | .revoke id => c.delivery.attempt t (t.revoke id c.now)
  | .ensureAccount .. => (c.account, t)
  | .startProvisioning .. => (c.start, t)

open CredentialStmt

abbrev CredentialProg (α : Type) := Prog Res α

/-! ### The repository -/

/-- What a function of the repository returns. -/
inductive CredentialResult where
  | error
  | notFound
  | found (cred : Credential)

/-- The answer to a query for one row. -/
def CredentialResult.ofRow : Option (Option Credential) → CredentialResult
  | none => .error
  | some none => .notFound
  | some (some cred) => .found cred

namespace Credentials

def byID (id : String) (purpose : LookupPurpose) : CredentialProg CredentialResult := do
  let row ← perform (CredentialStmt.byID id purpose)
  return .ofRow row

def activate (id : String) : CredentialProg CredentialResult := do
  match ← perform (CredentialStmt.activate id) with
  | none => return .error
  | some false => return .notFound
  | some true => byID id .reply

def revoke (id : String) : CredentialProg CredentialResult := do
  match ← perform (CredentialStmt.revoke id) with
  | none => return .error
  | some n => if n = 0 then return .notFound else byID id .reply

end Credentials

/-! ### The callers -/

/-- The `OnAuthenticated` hook of the gateway. -/
def onAuthenticated (username : String) : CredentialProg Unit := do
  match ← perform (lookupCWMPDigest username) with
  | some (some cred) =>
    if cred.status = .pending then
      let _ ← Credentials.activate cred.id
      return ()
    else return ()
  | _ => return ()

inductive CredentialReply where
  | error (status : Nat) (text : String)
  | credential (status : Nat) (cred : Credential)

def rotateDeviceCredential (deviceID : String) (type : CredentialType)
    (username password : String) : CredentialProg CredentialReply := do
  if !(← perform (scopedDevice deviceID)) then
    return .error 404 "not found"
  else if type = .cwmpDigest then
    match ← perform (pendingForDevice deviceID type) with
    | none => return .error 500 "internal error"
    | some (some pending) =>
      return .error 409 ("a CWMP_DIGEST credential is already PENDING for this device: " ++ pending.id)
    | some none => queue
  else queue
where
  queue : CredentialProg CredentialReply := do
    match ← perform (queueRotation deviceID type username password) with
    | none => return .error 500 "internal error"
    | some commandKey =>
      match ← perform (create deviceID type username password commandKey) with
      | none => return .error 500 "internal error"
      | some cred => return .credential 202 cred

def credentialMayBeManuallyActivated (c : Credential) : Bool :=
  c.type = .connectionRequest

def activateDeviceCredential (deviceID credID : String) : CredentialProg CredentialReply := do
  if !(← perform (scopedDevice deviceID)) then
    return .error 404 "not found"
  else
    match ← Credentials.byID credID .activation with
    | .notFound => return .error 404 "not found"
    | .error => return .error 500 "internal error"
    | .found existing =>
      if existing.deviceID ≠ deviceID then return .error 404 "not found"
      else if !credentialMayBeManuallyActivated existing then
        return .error 409
          "CWMP_DIGEST credentials activate only after a matching authenticated Inform"
      else
        match ← Credentials.activate credID with
        | .notFound => return .error 404 "not found"
        | .error => return .error 500 "internal error"
        | .found cred => return .credential 200 cred

def revokeDeviceCredential (deviceID credID : String) : CredentialProg CredentialReply := do
  if !(← perform (scopedDevice deviceID)) then
    return .error 404 "not found"
  else
    match ← Credentials.byID credID .revocation with
    | .notFound => return .error 404 "not found (or not in a revocable state)"
    | .error => return .error 500 "internal error"
    | .found existing =>
      if existing.deviceID ≠ deviceID then
        return .error 404 "not found (or not in a revocable state)"
      else
        match ← Credentials.revoke credID with
        | .notFound => return .error 404 "not found (or not in a revocable state)"
        | .error => return .error 500 "internal error"
        | .found cred => return .credential 200 cred

/-- The part of `provisionDeviceXMPP` that deals with credentials; `existing` is the
credential of an earlier provisioning of the device. -/
def provisionDeviceXMPP (deviceID username password : String) (existing : Option String) :
    CredentialProg Unit := do
  match ← perform (create deviceID .xmpp username password "") with
  | none => return ()
  | some cred =>
    if !(← perform (ensureAccount username password)) then
      let _ ← Credentials.revoke cred.id
      return ()
    else
      match ← perform (startProvisioning deviceID cred.id) with
      | .alreadyActive | .error =>
        let _ ← Credentials.revoke cred.id
        return ()
      | .started =>
        match existing with
        | none => return ()
        | some oldID =>
          if oldID = cred.id then return ()
          else
            match ← Credentials.byID oldID .revocation with
            | .found old =>
              if old.status = .pending then
                let _ ← Credentials.revoke old.id
                return ()
              else return ()
            | _ => return ()

/-! ### XMPP verification -/

/-- What the verification read of a provisioning has found. -/
structure XmppReport where
  (credentialID domain : String)
  /-- The job of the read has ended SUCCESS. -/
  jobSucceeded : Bool
  jabberID : String

/-- The part of a JID before the resource. -/
def bareJID (jid : String) : String :=
  Text.before jid '/'

/-- `ValidateFullJID`: localpart@domain/resource. -/
def validFullJID (jid : String) : Bool :=
  let bare := jid.toList.takeWhile (· ≠ '/')
  let resource := (jid.toList.dropWhile (· ≠ '/')).drop 1
  let domain := (bare.dropWhile (· ≠ '@')).drop 1
  jid.utf8ByteSize ≤ 3071 && !Text.containsAny jid " \t\r\n\"'<>&" &&
    !resource.isEmpty && !(bare.takeWhile (· ≠ '@')).isEmpty && !domain.isEmpty

inductive VerifyOutcome where
  | retry
  | failed
  | done

section

variable (equalFold : String → String → Bool) (p : XmppReport)

/-- The account a device should have logged in with, as far as it is known. -/
def wantBare : CredentialProg String :=
  if p.credentialID = "" then return ""
  else do
    match ← Credentials.byID p.credentialID .verification with
    | .found cred => return cred.username ++ "@" ++ p.domain
    | _ => return ""

/-- `stepVerify`, once its read is finished. -/
def stepVerify : CredentialProg VerifyOutcome := do
  let wantBare ← wantBare p
  if !p.jobSucceeded then return .retry
  else if p.jabberID = "" then return .retry
  else if !validFullJID p.jabberID then return .retry
  else if wantBare ≠ "" && !equalFold (bareJID p.jabberID) wantBare then return .retry
  else
    match ← Credentials.byID p.credentialID .verification with
    | .found cred =>
      if cred.status = .pending then
        match ← Credentials.activate p.credentialID with
        | .found _ => return .done
        | _ => return .failed
      else return .done
    | _ => return .done

/-! ### Runs -/

inductive CredentialTask where
  | onAuthenticated (username : String)
  | bootstrap (deviceID username password : String)
  | rotate (deviceID : String) (type : CredentialType) (username password : String)
  | activate (deviceID credID : String)
  | revoke (deviceID credID : String)
  | provisionXMPP (deviceID username password : String) (existing : Option String)
  | verifyXMPP (report : XmppReport)

def CredentialTask.prog : CredentialTask → CredentialProg Unit
  | .onAuthenticated username => Acs.onAuthenticated username
  | .bootstrap deviceID username password => do
    let _ ← perform (ensurePendingCWMPDigest deviceID username password)
  | .rotate deviceID type username password => do
    let _ ← rotateDeviceCredential deviceID type username password
  | .activate deviceID credID => do
    let _ ← activateDeviceCredential deviceID credID
  | .revoke deviceID credID => do
    let _ ← revokeDeviceCredential deviceID credID
  | .provisionXMPP deviceID username password existing =>
    provisionDeviceXMPP deviceID username password existing
  | .verifyXMPP report => do
    let _ ← stepVerify equalFold report

abbrev CredentialAction := Pool.Action CredentialTask CredentialChoice
abbrev CredentialEvent := Pool.Event Res CredentialTable

/-- The table and the requests under way after a run. -/
def credentialRun (as : List CredentialAction) (t : CredentialTable) :
    List CredentialEvent × Pool Res CredentialTable :=
  Pool.run CredentialStmt.exec (CredentialTask.prog equalFold) as ⟨t, []⟩

end

end Acs
