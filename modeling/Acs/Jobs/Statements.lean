/-
The atomic statements of the queue.

Everything the three processes do to the jobs table, to the session rows and to
the dispatcher's table of pending requests is one of the statements of `Stmt`; two
handlers interleave between them and nowhere else.

Some things are recorded for the proofs only.  A statement carries the `Cause` it is
issued for, so that one can say afterwards which answer changed a row.  A session and a
query for outstanding requests remember the attempt, or the number of leases, they saw.
The world remembers when the reaper last dead-lettered.
-/
import Acs.Jobs.Lifecycle
import Acs.Jobs.Discovery
import Acs.Lib.Prog
import Mathlib.Algebra.GroupWithZero.Nat
import Mathlib.Data.List.MinMax

namespace Acs

/-- Why a handler touches a job. -/
inductive Cause where
  /-- The device's answer to the request of the given attempt of a job. -/
  | answer (jobID : String) (attempt : Nat)
  /-- The same, as a USP OperationComplete: the job is known by its command key. -/
  | operationComplete (commandKey : String) (attempt : Nat)
  /-- A TransferComplete with the given command key. -/
  | transferComplete (commandKey : String)
  /-- The process's own lease, just taken. -/
  | dispatch
  /-- An Inform that opens a new session. -/
  | recovery
  /-- A background worker. -/
  | worker

/-! ### Updates of the jobs table

The statements that name a job do so through the copy the handler read; the row is
found by its id.  Those of the first group ask for nothing else, those of the
second group for the attempt and status as well. -/

inductive Update where
  | markSuccess (j : Job)
  | markSuccessWithDetail (j : Job) (detail : ResultDetail)
  | markFailed (j : Job) (faultCode faultString : String)
  | markTimeout (j : Job) (detail : String)
  | markAwaitingTransferComplete (j : Job)
  | requeue (j : Job)
  | recordDiscoveryFallback (j : Job) (commandKey : String)
  | beginReadback (j : Job) (payload : SetParameterPayload)
  | requeueDiscovery (j : Job) (payload : ParameterDiscoveryPayload)
  | markAwaitingDiagnostics (j : Job) (window : Nat)
  | applyDroppedSessionAction (j : Job) (action : DroppedSessionAction)
  | bindFirmware (j : Job) (payload : Payload)
  | failNonRepeatable
  | failExhausted
  | requeueExpired
  | timeOutTransfers
  | timeOutAwaitingDiagnostics
  | releaseAwaitingDiagnostics (deviceID : String)

/-- The copy an update names its row by. -/
def Update.target : Update → Option Job
  | .markSuccess j | .markSuccessWithDetail j _ | .markFailed j _ _ | .markTimeout j _
  | .markAwaitingTransferComplete j | .requeue j | .recordDiscoveryFallback j _
  | .beginReadback j _ | .requeueDiscovery j _ | .markAwaitingDiagnostics j _
  | .applyDroppedSessionAction j _ | .bindFirmware j _ => some j
  | _ => none

def sessionLease : Time := seconds (15 * 60)
def workerLease : Time := seconds (5 * 60)
def transferDeadlineHours : Nat := 24

/-- The row is still the attempt the copy was read at. -/
def Job.current (copy row : Job) : Bool :=
  row.id = copy.id && row.attempts = copy.attempts && row.status = .rpcSent

/-- `COALESCE(leased_until, started_at + 900 s)`. -/
def Job.leaseEnd (j : Job) : Option Time :=
  j.leasedUntil.or (j.startedAt.map (· + sessionLease))

/-- A job that was handed out and whose lease has run out. -/
def Job.leaseExpired (j : Job) (now : Time) : Bool :=
  (j.status = .rpcSent || j.status = .inProgress) && j.leaseEnd.any (· < now)

/-- `COALESCE(lease_owner, 'unknown')`. -/
def Job.lastHolder (j : Job) : String :=
  (j.leaseOwner.map Owner.name).getD "unknown"

/-- The WHERE clause of an update. -/
def Update.selects (u : Update) (now : Time) (row : Job) : Bool :=
  match u with
  | .markSuccess j | .markSuccessWithDetail j _ | .markFailed j _ _ | .markTimeout j _
  | .markAwaitingTransferComplete j | .requeue j => row.id = j.id
  | .recordDiscoveryFallback j _ => row.id = j.id && row.type = .parameterDiscovery
  | .beginReadback j _ | .requeueDiscovery j _ | .markAwaitingDiagnostics j _
  | .applyDroppedSessionAction j _ | .bindFirmware j _ => j.current row
  | .failNonRepeatable => row.leaseExpired now && row.type ∈ nonRepeatableTypes
  | .failExhausted => row.leaseExpired now && row.attempts ≥ row.maxAttempts
  | .requeueExpired => row.leaseExpired now && row.attempts < row.maxAttempts
  | .timeOutTransfers =>
    row.status = .awaitingTransferComplete &&
      row.startedAt.getD row.createdAt + seconds (3600 * transferDeadlineHours) < now
  | .timeOutAwaitingDiagnostics =>
    row.status = .awaitingDiagnosticsComplete && row.diagnosticsDeadline.any (· < now)
  | .releaseAwaitingDiagnostics d =>
    row.deviceID = d && row.status = .awaitingDiagnosticsComplete

namespace JobState

section

variable (s : JobState) (status : Status) (now : Time)

def finish : JobState :=
  { s with status := status, completedAt := some now, updatedAt := now }

def noLease : JobState :=
  { s with leaseOwner := none, leasedUntil := none }

def fault (code text : String) : JobState :=
  { s with faultCode := some code, faultString := some text }

def moveTo : JobState :=
  { s with status := status, updatedAt := now }

/-- `COALESCE(diagnostics_deadline, now() + window)`. -/
def keepDeadline (window : Nat) (now : Time) : JobState :=
  { s with diagnosticsDeadline := s.diagnosticsDeadline.or (some (now + seconds window)) }

end

end JobState

open JobState in
/-- One transition of dropped-session recovery. -/
def DroppedSessionAction.sets (a : DroppedSessionAction) (copy : Job) (now : Time)
    (row : Job) : JobState :=
  match a with
  | .requeue => (row.moveTo .queued now).noLease
  | .succeeded => (row.finish .success now).noLease
  | .diagnosticsTriggered =>
    ((row.moveTo .queued now).noLease).keepDeadline (windowSeconds (diagnosticsWindow copy)) now
  | .awaitTransfer => (row.moveTo .awaitingTransferComplete now).noLease
  | .failed => ((row.finish .failed now).noLease).fault faultSessionDropped
      ("the CPE ended the CWMP session before answering this " ++ copy.type.text ++
        " RPC; it may or may not have executed — review before retrying")

open JobState in
/-- The SET clause of an update. -/
def Update.sets (u : Update) (now : Time) (row : Job) : JobState :=
  match u with
  | .markSuccess _ => row.finish .success now
  | .markSuccessWithDetail _ detail =>
    { row.finish .success now with resultDetail := some detail }
  | .markFailed _ code text => (row.finish .failed now).fault code text
  | .markTimeout _ detail => { row.finish .timeout now with faultString := some detail }
  | .markAwaitingTransferComplete _ => row.moveTo .awaitingTransferComplete now
  | .requeue _ => (row.moveTo .queued now).noLease
  | .recordDiscoveryFallback _ key =>
    { row.toJobState with resultDetail := some (.fallbackCommandKey key), updatedAt := now }
  | .beginReadback _ payload =>
    { (row.moveTo .queued now).noLease with
      payload := .setParameter { payload with verificationPending := true } }
  | .requeueDiscovery _ payload =>
    { (row.moveTo .queued now).noLease with payload := .parameterDiscovery payload }
  | .markAwaitingDiagnostics _ window =>
    ((row.moveTo .awaitingDiagnosticsComplete now).noLease).keepDeadline window now
  | .applyDroppedSessionAction copy action => action.sets copy now row
  | .bindFirmware _ payload => { row.toJobState with payload := payload }
  | .failNonRepeatable => ((row.finish .failed now).noLease).fault "LEASE_EXPIRED_UNSAFE_RETRY"
      ("job lease expired after " ++ toString row.attempts ++ " attempt(s); type " ++
        row.type.text ++ " is not safe to blindly re-dispatch (it may already have executed on " ++
        "the device) -- requires manual review; last holder " ++ row.lastHolder)
  | .failExhausted => ((row.finish .failed now).noLease).fault "LEASE_EXPIRED"
      ("job lease expired after " ++ toString row.attempts ++ " attempt(s); last holder " ++
        row.lastHolder)
  | .requeueExpired => (row.moveTo .queued now).noLease
  | .timeOutTransfers => (row.finish .failed now).fault "TRANSFER_TIMEOUT"
      ("no TransferComplete received within " ++ toString transferDeadlineHours ++ " hours")
  | .timeOutAwaitingDiagnostics => (row.finish .timeout now).fault "DIAGNOSTICS_TIMEOUT"
      ("diagnostic result not available by its deadline (no Inform with 8 DIAGNOSTICS " ++
        "COMPLETE and no poll reading a final DiagnosticsState)")
  | .releaseAwaitingDiagnostics _ => row.moveTo .queued now

/-! ### Leases -/

/-- What the lease statements read of a payload. -/
def Payload.members : Payload → RawMembers
  | .firmwareDownload p => { uspInstance := p.uspInstance }
  | .diagnosticsDownload p => { uspCommand := p.uspCommand }
  | .diagnosticsUpload p => { uspCommand := p.uspCommand }
  | .getParameter p => { instances := p.instances }
  | .malformed m => m
  | _ => {}

section

variable (w : World) (deviceID : String)

/-- The rows a lease for one protocol may take. -/
def Job.leasable (types : List JobType) (uspOnly : Bool) (row : Job) : Bool :=
  let tr143 := row.type = .diagnosticsDownload || row.type = .diagnosticsUpload
  row.deviceID = deviceID && row.status = .queued && row.type ∈ types &&
    if uspOnly then
      (row.type ≠ .firmwareDownload || row.payload.members.uspInstance ≠ "") &&
        (!tr143 || row.payload.members.uspCommand ≠ "")
    else
      !row.payload.members.instances && (!tr143 || row.payload.members.uspCommand = "")

/-- `ORDER BY created_at ASC LIMIT 1 FOR UPDATE SKIP LOCKED`. -/
def JobTable.oldest (t : JobTable) (locked : List String) (sel : Job → Bool) : Option Job :=
  (t.rows.filter fun j => sel j && j.id ∉ locked).argmin (·.createdAt)

/-- The update of a lease. -/
def Job.leased (row : Job) (status : Status) (owner : Owner) (duration now : Time) : JobState :=
  { row.toJobState with
    status := status
    startedAt := some now
    updatedAt := now
    attempts := row.attempts + 1
    leaseOwner := some owner
    leasedUntil := some (now + duration) }

/-- The copy a lease returns: the row as it was read, with the new status and attempt. -/
def Job.leaseCopy (row : Job) (status : Status) : Job :=
  { row with status := status, attempts := row.attempts + 1 }

/-! ### Sessions, pending requests and the shared state -/

/-- The job a session waits for.  The attempt is recorded for the proofs only. -/
structure CurrentJob where
  id : String
  attempt : Nat

structure Session where
  (id deviceID : String)
  currentJob : Option CurrentJob := none
  closed : Bool := false

/-- A live connection of an agent. -/
structure Conn where
  serial : Nat
  endpoint : String
  deriving DecidableEq

/-- `pendingDispatch`: the job an outstanding USP request was built from. -/
structure PendingDispatch where
  job : Job
  conn : Conn

/-- Everything the processes share: the database with its clock, and the
dispatcher's table of pending requests, keyed by message id. -/
structure World where
  now : Time := 0
  jobs : JobTable
  sessions : List Session := []
  pending : AList (fun _ : String => PendingDispatch) := ∅
  /-- The clock of the last `failNonRepeatable`, for the proofs only. -/
  reapedAt : Time := 0

/-- How many times a job of the device was leased. -/
def World.leases : Nat :=
  (w.jobs.rows.map fun j => if j.deviceID = deviceID then j.attempts else 0).sum

/-- A job of the device is RPC_SENT. -/
def World.outstanding : Bool :=
  w.jobs.rows.any fun j => j.deviceID = deviceID && j.status = .rpcSent

/-- What the environment decides about one statement: how far the clock has moved,
whether the statement fails, and which rows other transactions hold. -/
structure Choice where
  elapsed : Nat := 0
  fails : Bool := false
  locked : List String := []

def Update.reapedAt (u : Update) (w : World) : Time :=
  match u with
  | .failNonRepeatable => w.now
  | _ => w.reapedAt

/-! ### Statements -/

/-- What is done to the queue in one step. -/
inductive Stmt where
  | byID (cause : Cause) (id : String)
  | byCommandKey (cause : Cause) (key : String)
  | lease (deviceID : String) (types : List JobType) (uspOnly : Bool) (owner : Owner)
      (seen : Option Nat)
  | leaseNextByType (type : JobType) (owner : Owner)
  | hasOutstandingRPC (deviceID : String)
  | inFlightDiscoveries (deviceID : String)
  | droppedSessionJobs (deviceID : String)
  | update (cause : Cause) (u : Update)
  | insert (spec : JobSpec) (payload : Payload)
  | queueDiscoveryIfNeeded (spec : JobSpec) (payload : Payload)
  | openSession (id deviceID : String)
  | getSession (id : String)
  | setCurrentJob (id : String) (job : Option CurrentJob)
  | closeSession (id : String)
  | pendingGet (msgID : String)
  | pendingPut (msgID : String) (entry : PendingDispatch)
  | pendingTake (msgID : String)
  | pendingDropKey (commandKey : String)
  | pendingForget (conn : Conn)
  | handOver (job : Job) (process : Process)

/-- The answer to a statement.  A statement of the database answers `none` when it
fails; a lookup answers `none` also when there is no such row, since no caller
tells the two apart. -/
def Stmt.Res : Stmt → Type
  | .byID .. | .byCommandKey .. => Option Job
  | .lease .. | .leaseNextByType .. => Option (Option Job)
  | .hasOutstandingRPC .. => Option (Bool × Nat)
  | .inFlightDiscoveries .. | .droppedSessionJobs .. => Option (List Job)
  | .update .. => Option Nat
  | .insert .. => Option String
  | .queueDiscoveryIfNeeded .. | .openSession .. | .setCurrentJob .. | .closeSession .. =>
    Option Unit
  | .getSession .. => Option Session
  | .pendingGet .. => Option PendingDispatch
  | .pendingPut .. | .pendingDropKey .. | .pendingForget .. => Unit
  | .pendingTake .. | .handOver .. => Bool

/-- The row an insert makes. -/
def newJob (spec : JobSpec) (payload : Payload) (now : Time) : Job :=
  { spec with createdAt := now, status := .queued, payload := payload, updatedAt := now }

/-- A discovery of the device is queued or under way. -/
def World.discoveryActive : Bool :=
  w.jobs.rows.any fun j => j.deviceID = deviceID && j.type = .parameterDiscovery &&
    (j.status = .queued || j.status = .rpcSent)

def Session.update (sessions : List Session) (id : String) (f : Session → Session) : List Session :=
  sessions.map fun s => if s.id = id then f s else s

/-- `ORDER BY created_at`. -/
def byCreation (l : List Job) : List Job :=
  l.insertionSort (·.createdAt ≤ ·.createdAt)

/-- Lease one row, if there is one. -/
def World.takeLease (row : Option Job) (status : Status) (owner : Owner)
    (duration : Time) : Option (Option Job) × World :=
  match row with
  | none => (some none, w)
  | some row =>
    (some (some (row.leaseCopy status)),
      { w with jobs := w.jobs.update (·.id = row.id) (·.leased status owner duration w.now) })

/-- One statement, at the clock the world shows. -/
def Stmt.effect (c : Choice) : (s : Stmt) → s.Res × World
  | .byID _ id => (if c.fails then none else w.jobs.find id, w)
  | .byCommandKey _ key =>
    (if c.fails then none else w.jobs.rows.find? (·.commandKey = key), w)
  | .lease d types uspOnly owner _ =>
    if c.fails then (none, w)
    else w.takeLease (w.jobs.oldest c.locked (Job.leasable d types uspOnly)) .rpcSent owner
      sessionLease
  | .leaseNextByType type owner =>
    if c.fails then (none, w)
    else w.takeLease (w.jobs.oldest c.locked fun j => j.status = .queued && j.type = type)
      .inProgress owner workerLease
  | .hasOutstandingRPC d =>
    (if c.fails then none
      else some (w.outstanding d, w.leases d), w)
  | .inFlightDiscoveries d =>
    (if c.fails then none
      else some (byCreation (w.jobs.rows.filter fun j =>
        j.deviceID = d && j.type = .parameterDiscovery && j.status = .rpcSent)), w)
  | .droppedSessionJobs d =>
    (if c.fails then none
      else some (byCreation (w.jobs.rows.filter fun j =>
        j.deviceID = d && j.status = .rpcSent && j.type ∈ sessionDispatchableTypes &&
          j.type ≠ .parameterDiscovery)), w)
  | .update _ u =>
    if c.fails then (none, w)
    else (some (w.jobs.count (u.selects w.now)),
      { w with
        jobs := w.jobs.update (u.selects w.now) (u.sets w.now)
        reapedAt := u.reapedAt w })
  | .insert spec payload =>
    match if c.fails then none else w.jobs.insert (newJob spec payload w.now) with
    | none => (none, w)
    | some jobs => (some spec.commandKey, { w with jobs := jobs })
  | .queueDiscoveryIfNeeded spec payload =>
    if c.fails || w.discoveryActive spec.deviceID then (none, w)
    else
      match w.jobs.insert (newJob spec payload w.now) with
      | none => (none, w)
      | some jobs => (some (), { w with jobs := jobs })
  | .openSession id d =>
    if c.fails || w.sessions.any (·.id = id) then (none, w)
    else (some (), { w with sessions := w.sessions ++ [{ id := id, deviceID := d }] })
  | .getSession id => (if c.fails then none else w.sessions.find? (·.id = id), w)
  | .setCurrentJob id job =>
    if c.fails then (none, w)
    else (some (), { w with
      sessions := Session.update w.sessions id fun s => { s with currentJob := job } })
  | .closeSession id =>
    if c.fails then (none, w)
    else (some (), { w with
      sessions := Session.update w.sessions id fun s => { s with closed := true } })
  | .pendingGet m => (w.pending.lookup m, w)
  | .pendingPut m entry => ((), { w with pending := w.pending.insert m entry })
  | .pendingTake m =>
    ((w.pending.lookup m).isSome, { w with pending := w.pending.erase m })
  | .pendingDropKey key =>
    ((), { w with pending :=
      ⟨w.pending.entries.filter fun e => e.2.job.commandKey ≠ key,
        w.pending.nodupKeys.sublist List.filter_sublist⟩ })
  | .pendingForget conn =>
    ((), { w with pending :=
      ⟨w.pending.entries.filter fun e => e.2.conn ≠ conn,
        w.pending.nodupKeys.sublist List.filter_sublist⟩ })
  | .handOver _ _ => (!c.fails, w)

/-- The clock moves on. -/
def World.tick (c : Choice) : World :=
  { w with now := w.now + c.elapsed }

end

/-- Execute one statement: the clock moves on, and the statement reads it. -/
def exec (s : Stmt) (c : Choice) (w : World) : s.Res × World :=
  s.effect (w.tick c) c

/-- Programs over the statements of the queue. -/
abbrev Handler (α : Type) := Prog Stmt.Res α

/-! ### Statements as programs -/

namespace Db

section

variable (cause : Cause) (id : String)

def byID : Handler (Option Job) :=
  .perform (Stmt.byID cause id)

def byCommandKey (key : String) : Handler (Option Job) :=
  .perform (Stmt.byCommandKey cause key)

def lease (deviceID : String) (types : List JobType) (uspOnly : Bool) (owner : Owner)
    (seen : Option Nat) : Handler (Option (Option Job)) :=
  .perform (Stmt.lease deviceID types uspOnly owner seen)

def leaseNextByType (type : JobType) (owner : Owner) : Handler (Option (Option Job)) :=
  .perform (Stmt.leaseNextByType type owner)

def hasOutstandingRPC (deviceID : String) : Handler (Option (Bool × Nat)) :=
  .perform (Stmt.hasOutstandingRPC deviceID)

def inFlightDiscoveries (deviceID : String) : Handler (Option (List Job)) :=
  .perform (Stmt.inFlightDiscoveries deviceID)

def droppedSessionJobs (deviceID : String) : Handler (Option (List Job)) :=
  .perform (Stmt.droppedSessionJobs deviceID)

/-- An update whose count of rows is asked for. -/
def update (u : Update) : Handler (Option Nat) :=
  .perform (Stmt.update cause u)

def insert (spec : JobSpec) (payload : Payload) : Handler (Option String) :=
  .perform (Stmt.insert spec payload)

def queueDiscoveryIfNeeded (spec : JobSpec) (payload : Payload) : Handler (Option Unit) :=
  .perform (Stmt.queueDiscoveryIfNeeded spec payload)

def openSession (id deviceID : String) : Handler (Option Unit) :=
  .perform (Stmt.openSession id deviceID)

def getSession : Handler (Option Session) :=
  .perform (Stmt.getSession id)

def setCurrentJob (job : Option CurrentJob) : Handler (Option Unit) :=
  .perform (Stmt.setCurrentJob id job)

def closeSession : Handler (Option Unit) :=
  .perform (Stmt.closeSession id)

def pendingGet (msgID : String) : Handler (Option PendingDispatch) :=
  .perform (Stmt.pendingGet msgID)

def pendingPut (msgID : String) (entry : PendingDispatch) : Handler Unit :=
  .perform (Stmt.pendingPut msgID entry)

def pendingTake (msgID : String) : Handler Bool :=
  .perform (Stmt.pendingTake msgID)

def pendingDropKey (commandKey : String) : Handler Unit :=
  .perform (Stmt.pendingDropKey commandKey)

def pendingForget (conn : Conn) : Handler Unit :=
  .perform (Stmt.pendingForget conn)

/-- Give the request of a job to the transport. -/
def handOver (job : Job) (process : Process) : Handler Bool :=
  .perform (Stmt.handOver job process)

/-- An update whose outcome is only logged. -/
def run (u : Update) : Handler Unit :=
  (update cause u).bind fun _ => .done ()

end

end Db

end Acs
