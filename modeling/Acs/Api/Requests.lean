/-
The operator requests that queue jobs, and the schedule worker (`cmd/api`).

A handler here is a program over `ApiStmt`: a statement on the queue, a statement on
the table of schedules, or a read of something no handler here changes (devices,
groups, discovered names), which the environment answers as it likes.
-/
import Acs.Api.Plans
import Acs.Jobs.Protected
import Acs.Lib.Pool

namespace Acs

open JobType Prog

/-! ### Schedules -/

/-- The JSON document of a schedule, by what `json.Unmarshal` makes of it as the payload
of each type: nothing, if it fails. -/
structure RawPayload where
  setParameter : Option SetParameterPayload := none
  getParameter : Option GetParameterPayload := none
  diagnosticsPing : Option DiagnosticsPingPayload := none
  /-- The timeout of a `ConnectionRequestPayload`. -/
  connectionRequest : Option Int := none

/-- A row of `scheduled_jobs`. -/
structure ScheduledJob where
  (id name jobType targetType targetID : String)
  payload : RawPayload
  intervalSeconds : Int
  enabled : Bool := true
  nextRunAt : Time := 0
  lastRunAt : Option Time := none
  customerID : Option String := none
  createdBy : String := ""

def targetDevice : String := "DEVICE"
def targetGroup : String := "GROUP"
def minIntervalSeconds : Int := 60

/-- `SchedulableJobTypeList`: the types the worker can run, sorted. -/
def schedulableJobTypes : List JobType :=
  [.connectionRequest, .diagnosticsPing, .getParameter, .setParameter]

/-- A payload as it is stored with a job of the type of the schedule. -/
def ScheduledJob.decoded (sj : ScheduledJob) : Option (JobType × Payload) :=
  if sj.jobType = setParameter.text then
    sj.payload.setParameter.map fun p => (.setParameter, .setParameter p)
  else if sj.jobType = getParameter.text then
    sj.payload.getParameter.map fun p => (.getParameter, .getParameter p)
  else if sj.jobType = diagnosticsPing.text then
    sj.payload.diagnosticsPing.map fun p => (.diagnosticsPing, .diagnosticsPing p)
  else if sj.jobType = connectionRequest.text then
    sj.payload.connectionRequest.map fun t => (.connectionRequest, .connectionRequest t)
  else none

/-! ### Statements -/

/-- What the handlers read of a device. -/
structure ApiDevice where
  dataModelRoot : String := ""
  customerID : Option String := none
  profileID : Option String := none
  profileQualified : Bool := false

/-- A read of a table that no handler here writes. -/
inductive ApiQuery where
  | device (id : String)
  /-- The customers the operator may see, or all of them. -/
  | deviceScope
  | memberDeviceIDs (groupID : String)
  /-- The customer of a group. -/
  | group (id : String)
  | names (deviceID : String)
  | cache (deviceID : String)
  /-- `RequireInstances` of one parameter: the error. -/
  | instances (deviceID name : String)
  | cellularPaths (deviceID : String)

/-- The answer to a read; `none` is an error. -/
def ApiQuery.Res : ApiQuery → Type
  | .device _ => Option (Option ApiDevice)
  | .deviceScope => Option (Option (List String))
  | .memberDeviceIDs _ => Option (List String)
  | .group _ => Option (Option String)
  | .names _ => Option (Option (StringMap Bool))
  | .cache _ => Option (StringMap String)
  | .instances _ _ => Option String
  | .cellularPaths _ => List String

/-- Why a job is not created. -/
inductive CreateError where
  | protectedParameter (e : ProtectedParameterError)
  | idempotencyConflict
  | database

inductive ApiStmt where
  | queue (s : Stmt)
  /-- INSERT with an idempotency key, `ON CONFLICT DO NOTHING`. -/
  | insertIdempotent (spec : JobSpec) (payload : Payload) (key : String)
  | read (q : ApiQuery)
  | createSchedule (sj : ScheduledJob)
  | leaseDue

def ApiStmt.Res : ApiStmt → Type
  | .queue s => s.Res
  | .insertIdempotent .. => Except CreateError String
  | .read q => q.Res
  | .createSchedule _ => Option ScheduledJob
  | .leaseDue => Option (Option ScheduledJob)

structure ApiWorld where
  queue : World
  schedules : List ScheduledJob := []

/-- What the environment decides about a statement. -/
structure ApiChoice where
  queue : Choice := {}
  /-- The job that has the idempotency key, and whether it was the same request. -/
  existing : Option (String × Bool) := none
  answer : (q : ApiQuery) → q.Res

def ScheduledJob.due (now : Time) (locked : List String) (sj : ScheduledJob) : Bool :=
  sj.enabled && sj.nextRunAt ≤ now && sj.id ∉ locked

/-- `next_run_at = now() + interval`. -/
def ScheduledJob.advance (now : Time) (sj : ScheduledJob) : ScheduledJob :=
  { sj with nextRunAt := now + seconds sj.intervalSeconds.toNat, lastRunAt := some now }

def ApiStmt.exec : (s : ApiStmt) → ApiChoice → ApiWorld → s.Res × ApiWorld
  | .queue s, c, w => ((Acs.exec s c.queue w.queue).1, { w with queue := (Acs.exec s c.queue w.queue).2 })
  | .insertIdempotent spec payload _, c, w =>
    match c.existing with
    | some (key, same) => (if same then .ok key else .error .idempotencyConflict, w)
    | none =>
      let r := Acs.exec (.insert spec payload) c.queue w.queue
      (match (show Option String from r.1) with
        | some key => .ok key
        | none => .error .database, { w with queue := r.2 })
  | .read q, c, w => (c.answer q, w)
  | .createSchedule sj, c, w =>
    let queue := w.queue.tick c.queue
    if c.queue.fails then (none, { w with queue := queue })
    else
      let row := { sj with nextRunAt := queue.now }
      (some row, { w with queue := queue, schedules := w.schedules ++ [row] })
  | .leaseDue, c, w =>
    let queue := w.queue.tick c.queue
    if c.queue.fails then (none, { w with queue := queue })
    else
      match (w.schedules.filter (·.due queue.now c.queue.locked)).argmin (·.nextRunAt) with
      | none => (some none, { w with queue := queue })
      | some sj =>
        (some (some sj), { w with
          queue := queue
          schedules := w.schedules.map fun row =>
            if row.id = sj.id then row.advance queue.now else row })

open ApiStmt

abbrev ApiProg (α : Type) := Prog Res α

def ask (q : ApiQuery) : ApiProg q.Res :=
  .perform (read q)

/-- A device, where an error and a missing row make no difference. -/
def askDevice (id : String) : ApiProg (Option ApiDevice) :=
  (ask (.device id)).bind fun r => .done (Option.join r)

def askMembers (groupID : String) : ApiProg (Option (List String)) :=
  ask (.memberDeviceIDs groupID)

/-! ### Creating jobs -/

/-- The id and the command key a job is created with. -/
abbrev JobIDs := String × String

/-- `Create` and `CreateWithMaxAttempts`. -/
def createJob (ids : JobIDs) (deviceID : String) (type : JobType) (payload : Payload)
    (createdBy : String) (maxAttempts : Nat) : ApiProg (Except CreateError String) :=
  match checkProtectedWrite false type payload with
  | some err => .done (.error (.protectedParameter err))
  | none =>
    (perform (queue (.insert
      { id := ids.1, commandKey := ids.2, deviceID, type, maxAttempts, createdBy } payload))).bind
      fun (r : Option String) => .done (r.elim (.error .database) .ok)

def createWithIdempotency (ids : JobIDs) (deviceID : String) (type : JobType) (payload : Payload)
    (createdBy key : String) : ApiProg (Except CreateError String) :=
  if Text.trimSpace key = "" then createJob ids deviceID type payload createdBy 3
  else
    match checkProtectedWrite false type payload with
    | some err => .done (.error (.protectedParameter err))
    | none =>
      .perform (insertIdempotent
        { id := ids.1, commandKey := ids.2, deviceID, type, createdBy } payload key)

def ProtectedParameterError.text (tables : ApiTables) (e : ProtectedParameterError) : String :=
  "parameter " ++ tables.quote e.name ++ " is protected and cannot be written: " ++ e.reason

/-- `err.Error()`; what the driver adds is left out. -/
def CreateError.text (tables : ApiTables) : CreateError → String
  | .protectedParameter e => e.text tables
  | .idempotencyConflict => "idempotency key was already used with a different request"
  | .database => "database error"

/-! ### Requests -/

structure BulkActionResult where
  deviceID : String
  commandKey : String := ""
  error : String := ""
  detail : String := ""
  refreshCommandKey : String := ""

inductive Response where
  | error (status : Nat) (text : String)
  | accepted (commandKey : String)
  | bulk (results : List BulkActionResult)
  | created (sj : ScheduledJob)

/-- The subject of a request the BSS adapter makes with the service token. -/
def serviceSubject : String := "service:bssadapter"

/-- `operatorFromRequest`; `claims` is the subject of the token, if the request has one. -/
def operatorFromRequest (claims : Option String) : String :=
  claims.getD "operator"

def deviceInScope (customerID : Option String) (customerIDs : List String) : Bool :=
  customerID.any (· ∈ customerIDs)

/-- Whether the operator may see something of a customer; `none` is an unscoped operator. -/
def inScope (scope : Option (List String)) (customerID : Option String) : Bool :=
  scope.all (deviceInScope customerID)

section Handlers

variable (tables : ApiTables) (resolver : WiFiResolver)

/-- `getScopedDevice`: the error, if the device may not be seen. -/
def getScopedDevice (id : String) : ApiProg (Option Response) := do
  match ← ask (.device id) with
  | none => return some (.error 500 "internal error")
  | some none => return some (.error 404 "not found")
  | some (some d) =>
    match ← ask .deviceScope with
    | none => return some (.error 500 "internal error")
    | some scope =>
      if inScope scope d.customerID then return none
      else return some (.error 404 "not found")

section

variable (sj : ScheduledJob) (type : JobType) (payload : Payload) (ids : JobIDs) (deviceID : String)

def validateWritableParameters (payload : SetParameterPayload) : ApiProg (Option String) := do
  match ← ask (.names deviceID) with
  | none => return some "read discovered parameter capabilities"
  | some none => return none
  | some (some names) =>
    match validateDiscoveredWritableParameters tables names payload with
    | some err => return some err
    | none =>
      let abstractNames := (payload.parameters.map (·.name)).filter fun n =>
        (names.lookup n).isNone
      let errs ← collect abstractNames fun n => ask (.instances deviceID n)
      return errs.findSome? id

def writeNames (p : SetParameterPayload) : List String :=
  p.parameters.map (·.name)

def putParameters (claims : Option String) (id : String) (body : Option (List ParameterInput))
    (idempotencyKey : String) (ids : JobIDs) : ApiProg Response := do
  match ← getScopedDevice id with
  | some err => return err
  | none =>
    match body with
    | none => return .error 400 "invalid JSON body"
    | some inputs =>
      if hasSecretHandle inputs && claims.any (· ≠ serviceSubject) then
        return .error 400 "secret_handle is accepted only from the BSS adapter"
      else
        match buildSetParameterPayload tables inputs with
        | .error err => return .error 400 err
        | .ok payload =>
          match checkProtected (writeNames payload) with
          | some err => return .error 403 (err.text tables)
          | none =>
            match ← validateWritableParameters tables id payload with
            | some err => return .error 409 err
            | none =>
              match ← createWithIdempotency ids id .setParameter (.setParameter payload)
                (operatorFromRequest claims) idempotencyKey with
              | .ok key => return .accepted key
              | .error .idempotencyConflict =>
                return .error 409 (CreateError.idempotencyConflict.text tables)
              | .error _ => return .error 500 "internal error"

inductive BulkAction where
  | setParameter | setWiFi | connectionRequest | refreshCellular
  | other (text : String)

structure BulkActionRequest where
  deviceIDs : List String := []
  groupID : String := ""
  action : BulkAction
  parameters : List ParameterInput := []
  timeoutSeconds : Int := 0
  wifi : WifiSettings := {}

def maxBulkDevices : Nat := 500

/-- What the loop of `bulkAction` does for each device. -/
inductive BulkPlan where
  | setParameter (payload : SetParameterPayload)
  | setWiFi (settings : WifiSettings)
  | connectionRequest (timeoutSeconds : Int)
  | refreshCellular

/-- The checks `bulkAction` makes once. -/
def bulkPlan (req : BulkActionRequest) : Except Response BulkPlan :=
  match req.action with
  | .setParameter =>
    if hasSecretHandle req.parameters then
      .error (.error 400 "secret_handle is not accepted on bulk actions")
    else
      match buildSetParameterPayload tables req.parameters with
      | .error err => .error (.error 400 err)
      | .ok payload =>
        match checkProtected (writeNames payload) with
        | some err => .error (.error 403 (err.text tables))
        | none => .ok (.setParameter payload)
  | .setWiFi =>
    match req.wifi.validate with
    | some err => .error (.error 400 err)
    | none => .ok (.setWiFi req.wifi)
  | .connectionRequest => .ok (.connectionRequest req.timeoutSeconds)
  | .refreshCellular => .ok .refreshCellular
  | .other text => .error (.error 400 ("unsupported bulk action " ++ tables.quote text))

/-- The result of a device for which a job was to be created. -/
def bulkCreate (type : JobType) (payload : Payload) (operator detail : String) :
    ApiProg BulkActionResult := do
  match ← createJob ids deviceID type payload operator 3 with
  | .error err => return { deviceID, error := err.text tables }
  | .ok key => return { deviceID, commandKey := key, detail }

def errWiFiRolesUnknown : String := "Wi-Fi roles not known yet"

def bulkSetWiFi (s : WifiSettings) (operator : String) : ApiProg BulkActionResult := do
  match ← askDevice deviceID with
  | none => return { deviceID, error := "device not found" }
  | some device =>
    match ← ask (.names deviceID) with
    | none => return { deviceID, error := "internal error" }
    | some names =>
      match ← ask (.cache deviceID) with
      | none => return { deviceID, error := "internal error" }
      | some cache =>
        match planWiFiWrites tables resolver device.dataModelRoot names cache s with
        | .refused err => return { deviceID, error := err }
        | .unknown paths =>
          match ← createJob ids deviceID .getParameter (.getParameter { paths }) operator 3 with
          | .error err =>
            return { deviceID, error :=
              errWiFiRolesUnknown ++ "; queuing the read failed: " ++ err.text tables }
          | .ok key =>
            return { deviceID, refreshCommandKey := key, error := errWiFiRolesUnknown ++
              ": queued a read of them, retry after the device's next session" }
        | .write payload detail =>
          bulkCreate tables ids deviceID .setParameter (.setParameter payload) operator detail

/-- A scoped operator reaches only the devices of their customers. -/
def bulkVisible (scope : Option (List String)) (deviceID : String) : ApiProg Bool :=
  match scope with
  | none => .done true
  | some customers =>
    (askDevice deviceID).bind fun d => .done (d.any fun d => deviceInScope d.customerID customers)

/-- One round of the loop of `bulkAction`. -/
def bulkOne (plan : BulkPlan) (scope : Option (List String)) (operator : String) (ids : JobIDs)
    (deviceID : String) : ApiProg BulkActionResult := do
  if !(← bulkVisible scope deviceID) then return { deviceID, error := "not found" }
  else
    match plan with
    | .setParameter payload =>
      match ← validateWritableParameters tables deviceID payload with
      | some err => return { deviceID, error := err }
      | none => bulkCreate tables ids deviceID .setParameter (.setParameter payload) operator ""
    | .setWiFi s => bulkSetWiFi tables resolver ids deviceID s operator
    | .connectionRequest t =>
      bulkCreate tables ids deviceID .connectionRequest (.connectionRequest t) operator ""
    | .refreshCellular =>
      match ← askDevice deviceID with
      | none => return { deviceID, error := "device not found" }
      | some _ =>
        let paths : List String ← ask (.cellularPaths deviceID)
        if paths = [] then
          return { deviceID, error := "no discovered cellular parameters for this device" }
        else bulkCreate tables ids deviceID .getParameter (.getParameter { paths }) operator ""

/-- The devices of a bulk request: those it names, or the members of its group. -/
def bulkDevices (req : BulkActionRequest) : ApiProg (Option (List String)) :=
  if req.deviceIDs = [] && req.groupID ≠ "" then askMembers req.groupID
  else .done (some req.deviceIDs)

def bulkAction (claims : Option String) (body : Option BulkActionRequest) (ids : Nat → JobIDs) :
    ApiProg Response := do
  match body with
  | none => return .error 400 "invalid JSON body"
  | some req =>
    match ← bulkDevices req with
    | none => return .error 500 "internal error"
    | some [] => return .error 400 "device_ids (or a non-empty group_id) must be provided"
    | some deviceIDs =>
      if deviceIDs.length > maxBulkDevices then
        return .error 400 ("device_ids exceeds the " ++ toString maxBulkDevices ++
          "-device limit per request")
      else
        match bulkPlan tables req with
        | .error err => return err
        | .ok plan =>
          match ← ask .deviceScope with
          | none => return .error 500 "internal error"
          | some scope =>
            let results ← collect deviceIDs.zipIdx fun d =>
              bulkOne tables resolver plan scope (operatorFromRequest claims) (ids d.2) d.1
            return .bulk results

structure CreateScheduledJobRequest where
  (name jobType targetType targetID : String)
  payload : RawPayload
  intervalSeconds : Int
  customerID : Option String := none

/-- The checks of `createScheduledJob` that need no read. -/
def scheduleRefusal (req : CreateScheduledJobRequest) : Option Response :=
  if req.name = "" || req.jobType = "" || req.targetType = "" || req.targetID = "" then
    some (.error 400 "name, job_type, target_type, and target_id are required")
  else if req.jobType ∉ schedulableJobTypes.map text then
    some (.error 400 ("job_type " ++ tables.quote req.jobType ++ " cannot be scheduled; supported: "
      ++ Text.join (schedulableJobTypes.map text) ", "))
  else if req.jobType = setParameter.text then
    match req.payload.setParameter with
    | none => some (.error 400
        "payload must be a SET_PARAMETER payload: \x7b\"parameters\": [...]\x7d")
    | some p => (checkProtected (writeNames p)).map fun err => .error 403 (err.text tables)
  else none

/-- Whether the target exists, may be seen and belongs to the customer of the schedule. -/
def scheduleTarget (req : CreateScheduledJobRequest) (scope : Option (List String)) :
    ApiProg (Option Response) := do
  let owned (customerID : Option String) : Bool :=
    inScope scope customerID && customerID = req.customerID
  if req.targetType = targetDevice then
    match ← askDevice req.targetID with
    | some d =>
      if owned d.customerID then return none
      else return some (.error 400 "target device not found or outside customer_id")
    | none => return some (.error 400 "target device not found or outside customer_id")
  else if req.targetType = targetGroup then
    match ← ask (.group req.targetID) with
    | some customerID =>
      if owned customerID then return none
      else return some (.error 400 "target group not found or outside customer_id")
    | none => return some (.error 400 "target group not found or outside customer_id")
  else return some (.error 400 "target_type must be \"DEVICE\" or \"GROUP\"")

def CreateScheduledJobRequest.row (req : CreateScheduledJobRequest) (id createdBy : String) :
    ScheduledJob :=
  { id, name := req.name, jobType := req.jobType, targetType := req.targetType,
    targetID := req.targetID, payload := req.payload, intervalSeconds := req.intervalSeconds,
    customerID := req.customerID, createdBy }

def createScheduledJob (claims : Option String) (body : Option CreateScheduledJobRequest)
    (id : String) : ApiProg Response := do
  match body with
  | none => return .error 400 "invalid JSON body"
  | some req =>
    match scheduleRefusal tables req with
    | some err => return err
    | none =>
      match ← ask .deviceScope with
      | none => return .error 500 "internal error"
      | some scope =>
        if !inScope scope req.customerID then
          return .error 400 "customer_id is required and must be within your assigned scope"
        else
          match ← scheduleTarget req scope with
          | some err => return err
          | none =>
            if req.intervalSeconds < minIntervalSeconds then
              return .error 400 "interval_seconds must be at least 60"
            else
              match ← perform (createSchedule
                (req.row id (operatorFromRequest claims))) with
              | none => return .error 500 "internal error"
              | some sj => return .created sj

/-! ### The schedule worker -/

/-- The devices a schedule stands for when it fires. -/
def candidateIDs : ApiProg (Option (List String)) :=
  if sj.targetType = targetDevice then .done (some [sj.targetID])
  else if sj.targetType = targetGroup then askMembers sj.targetID
  else .done none

/-- Those that still belong to the customer of the schedule. -/
def customerDevices (candidates : List String) : ApiProg (List String) :=
  match sj.customerID with
  | none => .done candidates
  | some customer => do
    let kept ← collect candidates fun id => do
      let d ← askDevice id
      Prog.done (if d.any (·.customerID = some customer) then some id else none)
    return kept.filterMap id

/-- The job of one device: a ping is planned for the device, with more attempts. -/
def scheduledJobOf (payload : Payload) : ApiProg (Option (Payload × Nat)) := do
  match payload with
  | .diagnosticsPing p =>
    match ← askDevice deviceID with
    | none => return none
    | some device =>
      match ← ask (.names deviceID) with
      | none => return none
      | some names =>
        match scheduledPingPayload p device.dataModelRoot names with
        | .error _ => return none
        | .ok p => return some (.diagnosticsPing p, diagnosticsMaxAttempts)
  | payload => return some (payload, 3)

def fireOne : ApiProg Unit := do
  match ← scheduledJobOf deviceID payload with
  | none => return ()
  | some (payload, maxAttempts) =>
    let _ ← createJob ids deviceID type payload ("scheduler:" ++ sj.name) maxAttempts
    return ()

def fireSchedule (ids : Nat → JobIDs) : ApiProg Unit := do
  match ← candidateIDs sj with
  | none => return ()
  | some candidates =>
    let deviceIDs ← customerDevices sj candidates
    match sj.decoded with
    | none => return ()
    | some (type, payload) =>
      Prog.each deviceIDs.zipIdx fun d => fireOne sj type payload (ids d.2) d.1

end

/-- One tick of `scheduleWorker.Run`. -/
def scheduleTick (ids : Nat → JobIDs) : ApiProg Unit := do
  match ← perform leaseDue with
  | some (some sj) => fireSchedule sj ids
  | _ => return ()

/-! ### Runs -/

inductive ApiTask where
  | putParameters (claims : Option String) (id : String) (body : Option (List ParameterInput))
      (idempotencyKey : String) (ids : JobIDs)
  | bulkAction (claims : Option String) (body : Option BulkActionRequest) (ids : Nat → JobIDs)
  | createScheduledJob (claims : Option String) (body : Option CreateScheduledJobRequest)
      (id : String)
  | scheduleTick (ids : Nat → JobIDs)

def ApiTask.prog : ApiTask → ApiProg Unit
  | .putParameters claims id body key ids => do
    let _ ← Acs.putParameters tables claims id body key ids
  | .bulkAction claims body ids => do
    let _ ← Acs.bulkAction tables resolver claims body ids
  | .createScheduledJob claims body id => do
    let _ ← Acs.createScheduledJob tables claims body id
  | .scheduleTick ids => Acs.scheduleTick ids

abbrev ApiAction := Pool.Action ApiTask ApiChoice
abbrev ApiEvent := Pool.Event Res ApiWorld

/-- The statements of a run of requests and ticks, from a queue and no schedules. -/
def apiTrace (as : List ApiAction) (w : World) : List ApiEvent :=
  (Pool.run ApiStmt.exec (ApiTask.prog tables resolver) as ⟨⟨w, []⟩, []⟩).1

end Handlers

end Acs
