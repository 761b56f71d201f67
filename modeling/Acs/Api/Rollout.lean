/-
Firmware rollouts (`cmd/api/rollout_handlers.go`, `internal/rollout`).

A rollout has a table of devices; a device is ELIGIBLE until a row names the job that
was queued for it.  A start or advance request reads the rollout, the eligible devices
and the size of the table, queues a download for each device of the wave and marks it,
and sets the status at the end.

The state holds one rollout.  What its jobs have come to, and what the devices and the
image look like, is decided by the environment.  `sent` is recorded for the proofs only.
-/
import Acs.Api.Requests
import Acs.Lib.Threads

namespace Acs

open Prog

inductive RolloutStatus where
  | draft | active | blocked | completed | aborted
  deriving DecidableEq

/-- A row of `firmware_rollout`; the percentage satisfies the CHECK of its column. -/
structure Rollout where
  firmwareImageID : String
  rollbackFirmwareImageID : Option String := none
  canaryPercentage : Nat
  canary_range : 1 ≤ canaryPercentage ∧ canaryPercentage ≤ 100
  maximumFailureRate : Rat
  maintenanceWindowStartUTC : Option String := none
  maintenanceWindowEndUTC : Option String := none
  status : RolloutStatus := .draft
  customerID : Option String := none
  rollbackDispatchedAt : Option Time := none

/-- A row of `firmware_rollout_device`. -/
structure RolloutDevice where
  deviceID : String
  jobID : Option String := none
  dispatchedAt : Option Time := none

/-- The devices of the rollout, with the primary key of their table. -/
structure RolloutDevices where
  rows : List RolloutDevice
  keys : (rows.map (·.deviceID)).Nodup

namespace RolloutDevices

/-- The devices without a job. -/
def eligible (t : RolloutDevices) : List String :=
  (t.rows.filter (·.jobID.isNone)).map (·.deviceID)

def dispatched (t : RolloutDevices) : List String :=
  (t.rows.filter (·.jobID.isSome)).map (·.deviceID)

/-- `UPDATE … SET job_id = $3, dispatched_at = now() WHERE device_id = $2`. -/
def mark (t : RolloutDevices) (deviceID jobID : String) (now : Time) : RolloutDevices where
  rows := t.rows.map fun row =>
    if row.deviceID = deviceID then { row with jobID := some jobID, dispatchedAt := some now }
    else row
  keys := by
    rw [Keyed.map_key_map (fun row => by split <;> rfl)]
    exact t.keys

end RolloutDevices

/-- A rollout, its devices and its jobs. -/
structure RolloutWorld where
  queue : World
  rollout : Rollout
  devices : RolloutDevices
  /-- The devices for which a job with the image of the rollout was queued, one entry a job. -/
  sent : List String

/-- A rollout as it is found: each device with a job was sent the image by that job. -/
def RolloutWorld.found (queue : World) (rollout : Rollout) (devices : RolloutDevices) :
    RolloutWorld :=
  ⟨queue, rollout, devices, devices.dispatched⟩

/-! ### Statements -/

structure FirmwareImage where
  filename : String
  fileSizeBytes : Int

/-- What a job of a rollout is for. -/
inductive RolloutPurpose where
  | wave | rollback

inductive RolloutStmt where
  | byID
  | read (q : ApiQuery)
  | image (id : String)
  | createJob (purpose : RolloutPurpose) (spec : JobSpec) (payload : Payload)
  | setStatus (status : RolloutStatus)
  | setRollbackDispatched
  | eligibleDeviceIDs
  | totalDevices
  | successfulDeviceIDs
  | failureRate
  | markDispatched (deviceID jobID : String)

/-- The answer to a statement; `none` is an error. -/
def RolloutStmt.Res : RolloutStmt → Type
  | .byID => Option Rollout
  | .read q => q.Res
  | .image _ => Option FirmwareImage
  | .createJob .. => Option String
  | .setStatus _ | .setRollbackDispatched | .markDispatched .. => Option Unit
  | .eligibleDeviceIDs | .successfulDeviceIDs => Option (List String)
  | .totalDevices => Option Nat
  /- The jobs that succeeded and those that failed. -/
  | .failureRate => Option (Nat × Nat)

/-- What the environment decides about a statement. -/
structure RolloutChoice where
  queue : Choice := {}
  answer : (q : ApiQuery) → q.Res
  image : String → Option FirmwareImage
  /-- The order in which the eligible devices are listed. -/
  order : List String := []
  /-- What the jobs have come to. -/
  jobStatus : String → Status := fun _ => .queued

/-- The payload sends this image. -/
def Payload.sendsImage (image : String) : Payload → Bool
  | .firmwareDownload p => p.firmwareImageID = image
  | _ => false

/-- How many dispatched devices have a job whose status is one of the given ones. -/
def RolloutDevices.withStatus (t : RolloutDevices) (jobStatus : String → Status)
    (statuses : List Status) : List String :=
  (t.rows.filter fun row => row.jobID.any (jobStatus · ∈ statuses)).map (·.deviceID)

def RolloutStmt.exec : (s : RolloutStmt) → RolloutChoice → RolloutWorld → s.Res × RolloutWorld
  | .byID, c, w => (if c.queue.fails then none else some w.rollout, w)
  | .read q, c, w => (c.answer q, w)
  | .image id, c, w => (c.image id, w)
  | .createJob _ spec payload, c, w =>
    let r := Acs.exec (.insert spec payload) c.queue w.queue
    ((show Option String from r.1), { w with
      queue := r.2
      sent :=
        if (show Option String from r.1).isSome && payload.sendsImage w.rollout.firmwareImageID then
          w.sent ++ [spec.deviceID]
        else w.sent })
  | .setStatus status, c, w =>
    if c.queue.fails then (none, w)
    else (some (), { w with rollout := { w.rollout with status := status } })
  | .setRollbackDispatched, c, w =>
    if c.queue.fails then (none, w)
    else (some (), { w with
      rollout := { w.rollout with rollbackDispatchedAt := some (w.queue.tick c.queue).now } })
  | .eligibleDeviceIDs, c, w =>
    (if c.queue.fails then none
      else some (if c.order.isPerm w.devices.eligible then c.order else w.devices.eligible), w)
  | .totalDevices, c, w => (if c.queue.fails then none else some w.devices.rows.length, w)
  | .successfulDeviceIDs, c, w =>
    (if c.queue.fails then none else some (w.devices.withStatus c.jobStatus [.success]), w)
  | .failureRate, c, w =>
    (if c.queue.fails then none
      else some ((w.devices.withStatus c.jobStatus [.success]).length,
        (w.devices.withStatus c.jobStatus [.failed, .timeout]).length), w)
  | .markDispatched d j, c, w =>
    if c.queue.fails then (none, w)
    else (some (), { w with devices := w.devices.mark d j (w.queue.tick c.queue).now })

open RolloutStmt

abbrev RolloutProg (α : Type) := Prog Res α

/-! ### The texts of a time of day -/

/-- A number below 100 with two digits. -/
def twoDigits (n : Nat) : List Char :=
  [Char.ofNat (48 + n / 10), Char.ofNat (48 + n % 10)]

/-- The text of a `TIME` value, given in seconds, as the driver reads it: it may add the
microseconds. -/
def timeText (t : Nat) (micros : Bool) : String :=
  String.ofList (twoDigits (t / 3600) ++ ':' :: twoDigits (t / 60 % 60) ++ ':' ::
    twoDigits (t % 60)) ++ if micros then ".000000" else ""

/-- The number two digits stand for. -/
def parseTwo (a b : Char) : Option Nat :=
  if a.isDigit && b.isDigit then some ((a.toNat - 48) * 10 + (b.toNat - 48)) else none

/-- `time.Parse("15:04:05", …)` of a text with two digits each, in minutes.  A fraction of the
seconds may follow. -/
def parseClock (s : String) : Option Nat :=
  match s.toList with
  | a :: b :: ':' :: c :: d :: ':' :: e :: f :: fraction =>
    match parseTwo a b, parseTwo c d, parseTwo e f with
    | some hour, some minute, some second =>
      if hour < 24 ∧ minute < 60 ∧ second < 60 ∧ isFraction fraction then
        some (hour * 60 + minute)
      else none
    | _, _, _ => none
  | _ => none
where
  isFraction : List Char → Bool
    | [] => true
    | c :: digits => (c = '.' || c = ',') && digits ≠ [] && digits.all Char.isDigit

/-! ### The handlers -/

/-- What a request brings: the clock, the operator, the ids of its jobs. -/
structure RolloutEnv where
  /-- Minutes since midnight, UTC. -/
  nowMin : Nat
  signedFirmwareURL : String → String
  operator : String
  (ids rollbackIDs : Nat → JobIDs)

inductive RolloutReply where
  | error (status : Nat) (text : String)
  | dispatched (dispatched batchSize : Nat) (status : RolloutStatus) (finalWave : Bool)

section

variable (env : RolloutEnv) (ro : Rollout) (isCanaryStart : Bool) (eligible : List String)
  (total : Nat)

def inMaintenanceWindow : Bool :=
  match ro.maintenanceWindowStartUTC, ro.maintenanceWindowEndUTC with
  | some start, some stop =>
    match parseClock start, parseClock stop with
    | some s, some e =>
      if s ≤ e then s ≤ env.nowMin && env.nowMin < e else s ≤ env.nowMin || env.nowMin < e
    | _, _ => true
  | _, _ => true

def firmwareProfileAllowsDownload (d : ApiDevice) : Bool :=
  d.profileID = none || d.profileQualified

def waveSize (total percentage : Nat) : Nat :=
  if total * percentage / 100 < 1 then 1 else total * percentage / 100

/-- `queueFirmwareDownload`: the id of the job. -/
def queueFirmwareDownload (purpose : RolloutPurpose) (ids : JobIDs) (deviceID imageID : String) :
    RolloutProg (Option String) := do
  match ← perform (read (.device deviceID)) with
  | some (some device) =>
    if firmwareProfileAllowsDownload device then
      match ← perform (image imageID) with
      | none => return none
      | some img =>
        let payload : FirmwareDownloadPayload :=
          { firmwareImageID := imageID, fileType := "1 Firmware Upgrade Image",
            url := env.signedFirmwareURL imageID, fileSize := img.fileSizeBytes,
            targetFilename := img.filename }
        let key : Option String ← perform (RolloutStmt.createJob purpose
          { id := ids.1, commandKey := ids.2, deviceID, type := .firmwareDownload,
            createdBy := env.operator } (.firmwareDownload payload))
        return key.map fun _ => ids.1
    else return none
  | _ => return none

/-- One round of the loop of `dispatchRolloutBatch`: whether the device counts as dispatched. -/
def dispatchDevice (ids : JobIDs) (deviceID : String) : RolloutProg Bool := do
  match ← queueFirmwareDownload env .wave ids deviceID ro.firmwareImageID with
  | none => return false
  | some jobID =>
    let marked : Option Unit ← perform (markDispatched deviceID jobID)
    return marked.isSome

/-- The part of `dispatchRolloutBatch` after the eligible devices were read. -/
def dispatchWave : RolloutProg RolloutReply := do
  let batch := eligible.take (waveSize total ro.canaryPercentage)
  let isFinalWave := batch.length = eligible.length
  let marks ← collect batch.zipIdx fun d => dispatchDevice env ro (env.ids d.2) d.1
  if isCanaryStart then
    let _ ← perform (setStatus .active)
    return .dispatched (marks.count true) batch.length .active isFinalWave
  else if isFinalWave then
    let _ ← perform (setStatus .completed)
    return .dispatched (marks.count true) batch.length .completed isFinalWave
  else return .dispatched (marks.count true) batch.length .active isFinalWave

def dispatchRollback : RolloutProg Unit :=
  match ro.rollbackFirmwareImageID, ro.rollbackDispatchedAt with
  | some imageID, none => do
    match ← perform successfulDeviceIDs with
    | none => return ()
    | some targets =>
      let _ ← collect targets.zipIdx fun d =>
        queueFirmwareDownload env .rollback (env.rollbackIDs d.2) d.1 imageID
      let _ ← perform setRollbackDispatched
      return ()
  | _, _ => .done ()

/-- Whether the devices dispatched so far forbid another wave: the reply, if so. -/
def failureGate : RolloutProg (Option RolloutReply) := do
  match ← perform failureRate with
  | none => return some (.error 500 "internal error")
  | some (succeeded, failed) =>
    if 0 < succeeded + failed ∧
        ro.maximumFailureRate < (failed : Rat) / ((succeeded + failed : Nat) : Rat) then
      let _ ← perform (setStatus .blocked)
      dispatchRollback env ro
      return some (.error 409 "failure rate exceeds maximum_failure_rate; rollout blocked")
    else return none

/-- The part of `dispatchRolloutBatch` after the checks. -/
def dispatchEligible : RolloutProg RolloutReply := do
  match ← perform eligibleDeviceIDs with
  | none => return .error 500 "internal error"
  | some [] =>
    if isCanaryStart then return .error 400 "no eligible devices to dispatch"
    else
      let _ ← perform (setStatus .completed)
      return .dispatched 0 0 .completed false
  | some eligible =>
    match ← perform totalDevices with
    | none => return .error 500 "internal error"
    | some total => dispatchWave env ro isCanaryStart eligible total

/-- The rollout, if the operator may see it.  There is one, so a read of it finds it or fails. -/
def scopedRollout : RolloutProg (Except RolloutReply Rollout) := do
  match ← perform byID with
  | none => return .error (.error 500 "internal error")
  | some ro =>
    match ← perform (read .deviceScope) with
    | none => return .error (.error 500 "internal error")
    | some scope =>
      return if inScope scope ro.customerID then .ok ro else .error (.error 404 "not found")

def dispatchRolloutBatch : RolloutProg RolloutReply := do
  match ← scopedRollout with
  | .error reply => return reply
  | .ok ro =>
    if isCanaryStart && ro.status ≠ .draft then
      return .error 409 "rollout is not in DRAFT status"
    else if !isCanaryStart && ro.status ≠ .active then
      return .error 409 "rollout is not ACTIVE"
    else if !inMaintenanceWindow env ro then
      return .error 409 "current time is outside the configured maintenance window"
    else if isCanaryStart then dispatchEligible env ro true
    else
      match ← failureGate env ro with
      | some reply => return reply
      | none => dispatchEligible env ro false

end

/-! ### Runs -/

inductive RolloutTask where
  | start (env : RolloutEnv)
  | advance (env : RolloutEnv)

def RolloutTask.prog : RolloutTask → RolloutProg Unit
  | .start env => do
    let _ ← dispatchRolloutBatch env true
  | .advance env => do
    let _ ← dispatchRolloutBatch env false

abbrev RolloutAction := Pool.Action RolloutTask RolloutChoice
abbrev RolloutEvent := Pool.Event Res RolloutWorld

/-- The statements of a run of requests. -/
def rolloutTrace (as : List RolloutAction) (w : RolloutWorld) : List RolloutEvent :=
  (Pool.run RolloutStmt.exec RolloutTask.prog as ⟨w, []⟩).1

/-- The same, request by request. -/
def rolloutRequests (as : List RolloutAction) (w : RolloutWorld) : List (List RolloutEvent) :=
  Pool.eventsByTask RolloutStmt.exec RolloutTask.prog as ⟨w, []⟩

end Acs
