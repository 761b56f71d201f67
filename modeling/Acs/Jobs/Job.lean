/-
The jobs table (`internal/jobs/job.go` and its migrations).

A row has columns that no statement ever updates (its id, command key, device,
type, attempt limit and creation) and columns that the statements write.  They
are the two halves `JobSpec` and `JobState` of a `Job`, and an UPDATE is a
function to the second half only: that a job keeps its type and its device is
part of the shape of an update, not something to prove about each statement.

`JobTable` carries the two uniqueness constraints of the table.
-/
import Acs.Jobs.Payloads
import Acs.Lib.Keyed
import Acs.Lib.Text

namespace Acs

open List

inductive JobType where
  | setParameter | getParameter | connectionRequest | firmwareDownload
  | diagnosticsPing | diagnosticsTraceroute | diagnosticsDownload | diagnosticsUpload
  | addObject | deleteObject | reboot | factoryReset | scheduleInform
  | setParameterAttributes | getParameterAttributes | upload | parameterDiscovery
  deriving DecidableEq

/-- The text of a type in the table. -/
def JobType.text : JobType → String
  | .setParameter => "SET_PARAMETER"
  | .getParameter => "GET_PARAMETER"
  | .connectionRequest => "CONNECTION_REQUEST"
  | .firmwareDownload => "FIRMWARE_DOWNLOAD"
  | .diagnosticsPing => "DIAGNOSTICS_PING"
  | .diagnosticsTraceroute => "DIAGNOSTICS_TRACEROUTE"
  | .diagnosticsDownload => "DIAGNOSTICS_DOWNLOAD"
  | .diagnosticsUpload => "DIAGNOSTICS_UPLOAD"
  | .addObject => "ADD_OBJECT"
  | .deleteObject => "DELETE_OBJECT"
  | .reboot => "REBOOT"
  | .factoryReset => "FACTORY_RESET"
  | .scheduleInform => "SCHEDULE_INFORM"
  | .setParameterAttributes => "SET_PARAMETER_ATTRIBUTES"
  | .getParameterAttributes => "GET_PARAMETER_ATTRIBUTES"
  | .upload => "UPLOAD"
  | .parameterDiscovery => "PARAMETER_DISCOVERY"

inductive Status where
  | queued | rpcSent | inProgress | awaitingTransferComplete | awaitingDiagnosticsComplete
  | success | failed | timeout
  deriving DecidableEq

/-- SUCCESS, FAILED or TIMEOUT. -/
def Status.finished : Status → Bool
  | .success | .failed | .timeout => true
  | _ => false

/-- The job types the gateway sends inside a CWMP session. -/
def sessionDispatchableTypes : List JobType :=
  [.setParameter, .getParameter, .firmwareDownload, .diagnosticsPing, .diagnosticsTraceroute,
   .diagnosticsDownload, .diagnosticsUpload, .addObject, .deleteObject, .reboot, .factoryReset,
   .scheduleInform, .setParameterAttributes, .getParameterAttributes, .upload,
   .parameterDiscovery]

/-- The types whose request must not be sent twice. -/
def nonRepeatableTypes : List JobType :=
  [.addObject, .deleteObject, .reboot, .factoryReset, .firmwareDownload, .upload]

/-- The database clock, in microseconds. -/
abbrev Time := Nat

def seconds (n : Nat) : Time := n * 1000000

/-- The program a process runs. -/
inductive Process where
  | acs | uspc | api
  deriving DecidableEq

/-- `LeaseOwner`: the process that holds a lease, host and pid as one text. -/
structure Owner where
  process : Process
  name : String
  deriving DecidableEq

/-- `jobs.Verification`. -/
structure Verification where
  (matched mismatched missing skipped : List String)

/-- What finishing statements store in `result_detail`.  The throughput figures of
a TR-143 test are computed from the polled values, which stand for them. -/
inductive ResultDetail where
  | instanceNumber (n : Int)
  | attributes (list : List (String × Int × List String))
  | tr143 (values : List (String × String)) (pathPrefix : String) (upload : Bool)
  | discovery (root : String) (parameterCount writableCount : Nat) (skipped : List String)
  | fallbackCommandKey (key : String)
  | dispatch (msgType : String) (params : StringMap String)
  deriving DecidableEq

/-- The columns a job keeps for its whole life. -/
structure JobSpec where
  (id commandKey deviceID : String)
  type : JobType
  maxAttempts : Nat := 3
  createdBy : String := ""
  createdAt : Time := 0
  deriving DecidableEq

/-- The columns the statements write. -/
structure JobState where
  status : Status
  payload : Payload
  attempts : Nat := 0
  updatedAt : Time := 0
  startedAt : Option Time := none
  completedAt : Option Time := none
  faultCode : Option String := none
  faultString : Option String := none
  resultDetail : Option ResultDetail := none
  diagnosticsDeadline : Option Time := none
  leaseOwner : Option Owner := none
  leasedUntil : Option Time := none
  deriving DecidableEq

/-- A row of the jobs table. -/
structure Job extends JobSpec, JobState
  deriving DecidableEq

/-- The row with its second half replaced. -/
def Job.withState (j : Job) (s : JobState) : Job :=
  { j with toJobState := s }

/-! ### Secrets of finished jobs

Migration 0086: on the transition into a final status a trigger blanks the secrets
of the payload. -/

def redactedMark : String := "***REDACTED***"

/-- `(password|passphrase|secret|psk|presharedkey|privatekey)` on the lower-case name. -/
def secretName (name : String) : Bool :=
  ["password", "passphrase", "secret", "psk", "presharedkey", "privatekey"].any
    (Text.contains (Text.toLower name) ·)

def redactText (value : String) : String :=
  if value = "" then value else redactedMark

/-- An object with a `name`: its `value` goes when the name is secret, and its
`secret_handle` always, since that key is itself a secret name. -/
def redactWrite (w : ParameterWrite) : ParameterWrite :=
  { w with
    value := if secretName w.name then redactText w.value else w.value
    secretHandle := redactText w.secretHandle }

def redactPlan (p : DiagnosticsPlan) : DiagnosticsPlan :=
  { p with trigger := p.trigger.map redactWrite }

/-- `redact_payload_secrets`. -/
def redactPayloadSecrets : Payload → Payload
  | .setParameter p => .setParameter { p with parameters := p.parameters.map redactWrite }
  | .firmwareDownload p => .firmwareDownload { p with password := redactText p.password }
  | .upload p => .upload { p with password := redactText p.password }
  | .addObject p => .addObject { p with parameters := p.parameters.map redactWrite }
  | .diagnosticsPing p =>
    .diagnosticsPing { p with toDiagnosticsPlan := redactPlan p.toDiagnosticsPlan }
  | .diagnosticsTraceroute p =>
    .diagnosticsTraceroute { p with toDiagnosticsPlan := redactPlan p.toDiagnosticsPlan }
  | .diagnosticsDownload p =>
    .diagnosticsDownload { p with toDiagnosticsPlan := redactPlan p.toDiagnosticsPlan }
  | .diagnosticsUpload p =>
    .diagnosticsUpload { p with toDiagnosticsPlan := redactPlan p.toDiagnosticsPlan }
  | p => p

/-- The trigger `jobs_redact_finished_secrets` on an update from `old` to `new`. -/
def redactFinished (old new : JobState) : JobState :=
  if new.status.finished ∧ old.status ≠ new.status then
    { new with payload := redactPayloadSecrets new.payload }
  else new

variable (old new : JobState)

@[simp] theorem redactFinished_status : (redactFinished old new).status = new.status := by
  unfold redactFinished; split <;> rfl

@[simp] theorem redactFinished_attempts : (redactFinished old new).attempts = new.attempts := by
  unfold redactFinished; split <;> rfl

@[simp] theorem redactFinished_faultCode : (redactFinished old new).faultCode = new.faultCode := by
  unfold redactFinished; split <;> rfl

@[simp] theorem redactFinished_diagnosticsDeadline :
    (redactFinished old new).diagnosticsDeadline = new.diagnosticsDeadline := by
  unfold redactFinished; split <;> rfl

@[simp] theorem redactFinished_leaseOwner :
    (redactFinished old new).leaseOwner = new.leaseOwner := by
  unfold redactFinished; split <;> rfl

theorem redactFinished_of_not_finished {old new : JobState} (h : new.status.finished = false) :
    redactFinished old new = new := by
  simp [redactFinished, h]

/-! ### The table -/

structure JobTable where
  rows : List Job
  ids : (rows.map (·.id)).Nodup
  commandKeys : (rows.map (·.commandKey)).Nodup

namespace JobTable

/-- The row with the given id. -/
def find (t : JobTable) (id : String) : Option Job :=
  t.rows.find? (·.id = id)

/-- Apply an update, with its trigger, to one row. -/
def apply (sel : Job → Bool) (set : Job → JobState) (j : Job) : Job :=
  if sel j then j.withState (redactFinished j.toJobState (set j)) else j

variable (sel : Job → Bool) (set : Job → JobState) (j : Job)

@[simp] theorem apply_toJobSpec : (apply sel set j).toJobSpec = j.toJobSpec := by
  unfold apply; split <;> rfl

theorem apply_id : (apply sel set j).id = j.id :=
  congrArg JobSpec.id (apply_toJobSpec sel set j)

theorem apply_commandKey : (apply sel set j).commandKey = j.commandKey :=
  congrArg JobSpec.commandKey (apply_toJobSpec sel set j)

section

variable (t : JobTable) (sel : Job → Bool) (set : Job → JobState) (id : String)

/-- `UPDATE jobs SET ... WHERE ...`. -/
def update : JobTable where
  rows := t.rows.map (apply sel set)
  ids := by
    rw [Keyed.map_key_map (apply_id sel set)]
    exact t.ids
  commandKeys := by
    rw [Keyed.map_key_map (apply_commandKey sel set)]
    exact t.commandKeys

/-- How many rows an update changes. -/
def count : Nat :=
  t.rows.countP sel

/-- `INSERT INTO jobs`: refused when the id or the command key is taken. -/
def insert (j : Job) : Option JobTable :=
  if h : (∀ r ∈ t.rows, r.id ≠ j.id) ∧ (∀ r ∈ t.rows, r.commandKey ≠ j.commandKey) then
    some {
      rows := t.rows ++ [j]
      ids := by
        rw [map_append, map_singleton]
        refine nodup_append.mpr ⟨t.ids, nodup_singleton _, ?_⟩
        intro a ha b hb hab
        obtain ⟨r, hr, rfl⟩ := mem_map.mp ha
        rw [mem_singleton.mp hb] at hab
        exact h.1 r hr hab
      commandKeys := by
        rw [map_append, map_singleton]
        refine nodup_append.mpr ⟨t.commandKeys, nodup_singleton _, ?_⟩
        intro a ha b hb hab
        obtain ⟨r, hr, rfl⟩ := mem_map.mp ha
        rw [mem_singleton.mp hb] at hab
        exact h.2 r hr hab }
  else none

theorem find_eq_some {t : JobTable} {id : String} {j : Job} (h : t.find id = some j) :
    j ∈ t.rows ∧ j.id = id := by
  refine ⟨mem_of_find?_eq_some h, ?_⟩
  simpa using find?_some h

theorem find_of_mem {t : JobTable} {j : Job} (h : j ∈ t.rows) : t.find j.id = some j :=
  Keyed.find_of_mem t.ids h

theorem find_update : (t.update sel set).find id = (t.find id).map (apply sel set) :=
  Keyed.find_map (apply_id sel set) id

end

theorem find_none_of_insert {t t' : JobTable} {j : Job} (h : t.insert j = some t') {id : String}
    (hid : id = j.id) : t.find id = none := by
  unfold insert at h
  split at h
  next hfresh =>
    rw [find, find?_eq_none]
    intro r hr
    simpa [hid] using hfresh.1 r hr
  · cases h

theorem mem_insert {t t' : JobTable} {j row : Job} (h : t.insert j = some t')
    (hrow : row ∈ t'.rows) : row ∈ t.rows ∨ row = j := by
  unfold insert at h
  split at h
  · cases h
    simpa using hrow
  · cases h

theorem find_insert {t t' : JobTable} {j : Job} (h : t.insert j = some t') (id : String) :
    t'.find id = if id = j.id then some j else t.find id := by
  unfold insert at h
  split at h
  next hfresh =>
    cases h
    unfold find
    simp only [find?_append]
    by_cases hid : id = j.id
    · subst hid
      have hnone : t.rows.find? (·.id = j.id) = none := by
        rw [find?_eq_none]
        intro r hr
        simpa using hfresh.1 r hr
      simp [hnone]
    · have hne : ¬ j.id = id := fun hc => hid hc.symm
      simp [hid, hne]
  · cases h

end JobTable

end Acs
