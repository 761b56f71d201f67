/-
Sales and what happens to them (`internal/onboarding/store.go`, `internal/lifecycle`,
`internal/tenancy`), each a transaction of its own.

Left out of the rows are the columns that nothing here reads: timestamps, the IMEI, the
commercial model, who asked.  Ending a service also archives subscriber profiles and
clears other columns of the device; that is not modelled.
-/
import Acs.Bss.Mapping
import Acs.Onboarding.State

namespace Acs

open Text

/-- The columns of `devices` that onboarding reads and writes. -/
structure OnboardingDevice where
  (oui serialNumber : String)
  customerID : Option String := none
  siteID : Option String := none

/-- A part of a plan that is queued as one job. -/
inductive ConfigPart where
  | template (id : String)
  | cellular
  deriving DecidableEq

/-- A row of `jobs`, by its command key.  What it was queued for is recorded for the
proofs only: the part of the plan, the sale and its round. -/
structure OnboardingJob where
  deviceID : String
  type : JobType
  createdBy : String
  status : Status := .queued
  faultString : String := ""
  part : Option ConfigPart := none
  saleID : String
  round : Nat

/-- The row after `Apply`. -/
def Onboarding.applied (o : Onboarding) (d : OnboardingDecision)
    (deviceID : Option String) (configJobs : Option (List String)) : Onboarding :=
  { o with
    state := d.state, stateReason := d.reason, stateCode := d.code,
    deviceID := o.deviceID.or deviceID, configJobs := configJobs.getD o.configJobs }

def DeviceRole.text : DeviceRole → String
  | .gateway => "gateway"
  | .ont => "ont"
  | .extender => "extender"
  | .stb => "stb"
  | .ata => "ata"
  | .other => "other"

/-- Devices, plans, sales, mappings and jobs. -/
structure OnboardingWorld where
  devices : AList fun _ : String => OnboardingDevice
  /-- `service_plans`, which are never changed. -/
  plans : String → Option ServicePlan
  sales : AList fun _ : String => Onboarding := ∅
  mappings : List AccountDeviceMapping := []
  jobs : AList fun _ : String => OnboardingJob := ∅
  /-- The sales that a pass of the reconciler has loaded and is not done with.  For the
  proofs only. -/
  underway : List String := []

namespace OnboardingWorld

variable (w : OnboardingWorld)

def customerOf (deviceID : String) : Option String :=
  (w.devices.lookup deviceID).bind (·.customerID)

section

variable (toUpper : String → String) (id : String) (o : Onboarding)

def putSale : OnboardingWorld :=
  { w with sales := w.sales.insert id o }

/-- An update of one row of `devices`, if it is there. -/
def updateDevice (deviceID : String) (f : OnboardingDevice → OnboardingDevice) : OnboardingWorld :=
  { w with devices := Assoc.mapValues (fun id d => if id = deviceID then f d else d) w.devices }

/-- `onboardings_open_serial_idx`: another open sale has the serial. -/
def serialTaken (id serial : String) : Bool :=
  w.sales.entries.any fun e => e.1 ≠ id ∧ e.2.state.isOpen ∧ e.2.expectedSerial = serial

/-! ### `internal/onboarding/store.go` -/

/-- `Create`: a PLANNED sale, unless an index or the reference to its device fails. -/
def create : Option (Unit × OnboardingWorld) :=
  let serial := trimSpace o.expectedSerial
  if serial = "" ∨ id ∈ w.sales ∨ w.serialTaken id serial ∨
      o.deviceID.any (fun d => decide (d ∉ w.devices)) then none
  else some ((), w.putSale id
    { o with
      expectedOUI := toUpper (trimSpace o.expectedOUI), expectedSerial := serial,
      expectedICCID := trimSpace o.expectedICCID, expectedIMSI := trimSpace o.expectedIMSI,
      accountRef := trimSpace o.accountRef, state := .planned, stateReason := "",
      stateCode := none, configJobs := [], recordedFor := o.deviceID, round := 0 })

/-- `OpenForDevice`: the open sale bound to the device, or else one for its serial. -/
def openForDevice (upper : String → String) (deviceID : String) (d : OnboardingDevice) :
    Option (String × Onboarding) :=
  let open_ := w.sales.entries.filter (·.2.state.isOpen)
  let found := (open_.find? (·.2.deviceID = some deviceID)).or
    (open_.find? fun e => e.2.deviceID = none ∧ e.2.expectedSerial = d.serialNumber ∧
      (e.2.expectedOUI = "" ∨ e.2.expectedOUI = upper d.oui))
  found.map fun e => (e.1, e.2)

inductive ApplyResult where
  | moved | notMoved | otherTenant

/-- `Apply`: move the sale, if it is still in the state it was read in.  On first contact
the device gets its customer and site, or nothing happens at all. -/
def apply (d : OnboardingDecision) (deviceID : Option String)
    (configJobs : Option (List String)) : ApplyResult × OnboardingWorld :=
  match w.sales.lookup id with
  | none => (.notMoved, w)
  | some row =>
    if row.state ≠ o.state then (.notMoved, w)
    else
      let moved := w.putSale id (row.applied d deviceID configJobs)
      match deviceID with
      | none => (.moved, moved)
      | some dev =>
        if o.state ≠ .planned then (.moved, moved)
        else if dev ∈ w.devices ∧
            (w.customerOf dev = none ∨ o.customerID = none ∨ w.customerOf dev = o.customerID) then
          (.moved, moved.updateDevice dev fun x =>
            { x with siteID := o.siteID.or x.siteID, customerID := x.customerID.or o.customerID })
        else (.otherTenant, w)

/-- An update of one sale that has to satisfy `p`, and whether it was found. -/
def updateSale (p : Onboarding → Bool) (f : Onboarding → Onboarding) : Bool × OnboardingWorld :=
  match w.sales.lookup id with
  | some o => if p o then (true, w.putSale id (f o)) else (false, w)
  | none => (false, w)

/-- `Retry`: every check runs again, from CONTACTED if the sale is bound to a device. -/
def retry : Bool × OnboardingWorld :=
  w.updateSale id (fun o => o.state = .failed ∨ o.state = .onHold) fun o =>
    { o with
      state := if o.deviceID = none then .planned else .contacted, stateReason := "",
      stateCode := none, configJobs := [], round := o.round + 1 }

def cancel : Bool × OnboardingWorld :=
  w.updateSale id (·.state.isOpen) fun o => { o with state := .cancelled }

def cancelWithReason (id reason : String) : Bool × OnboardingWorld :=
  w.updateSale id (·.state.isOpen) fun o =>
    { o with state := .cancelled, stateReason := reason, stateCode := none }

structure ConfigOutcome where
  (pending done failed : Nat)
  firstError : String

/-- `ConfigOutcome`: a job not found counts as pending. -/
def configOutcome (keys : List String) : ConfigOutcome :=
  let rows := (w.jobs.entries.filter (·.1 ∈ keys)).map (·.2)
  let failed := rows.filter fun j => j.status = .failed ∨ j.status = .timeout
  { pending := (rows.filter fun j => !j.status.finished).length + (keys.length - rows.length)
    done := (rows.filter fun j => j.status = .success).length
    failed := failed.length
    firstError := match failed.getLast? with
      | none => ""
      | some j =>
        if j.faultString ≠ "" then j.faultString
        else if j.status = .failed then "FAILED" else "TIMEOUT" }

/-! ### `internal/lifecycle` -/

inductive LifecycleError where
  | notFound | notInService | deviceMoved | invalid | serialInUse

structure EndResult where
  deviceID : String
  accounts : List String
  mappingRole : Option DeviceRole
  mappingPlan : String

/-- `reasonText` -/
def reasonText : UnassignReason → String
  | .return => "service ended: device returned"
  | .rma => "service ended: device faulty (RMA)"
  | .upgrade => "service ended: device replaced by a newer one"
  | .moved => "service ended: moved to another account"
  | .corrected => "service ended: sold in error"

/-- `lockInService`: the device of a sale in service, which must still be its customer's. -/
def lockInService : Except LifecycleError (Onboarding × String) :=
  match w.sales.lookup id with
  | none => .error .notFound
  | some o =>
    if o.state ≠ .inService then .error .notInService
    else
      match o.deviceID with
      | none => .error .notInService
      | some dev =>
        if o.customerID ≠ none ∧ w.customerOf dev ≠ o.customerID then .error .deviceMoved
        else .ok (o, dev)

/-- The mapping whose role and plan a replacement gets: the last gateway's, or else the
first. -/
def handedOver (ended : List AccountDeviceMapping) : Option AccountDeviceMapping :=
  ended.foldl (fun found m => if found = none ∨ m.role = .gateway then some m else found) none

/-- `end`: the sale is ENDED, the mappings of its device end, the device is released. -/
def endService (reason : UnassignReason) (now : Time) :
    Except LifecycleError (EndResult × OnboardingWorld) :=
  match w.lockInService id with
  | .error e => .error e
  | .ok (o, dev) =>
    let ends (m : AccountDeviceMapping) : Bool := m.deviceID = dev ∧ m.current
    let ended := w.mappings.filter ends
    let result : EndResult :=
      { deviceID := dev, accounts := (ended.map (·.accountID)).dedup,
        mappingRole := (handedOver ended).map (·.role),
        mappingPlan := ((handedOver ended).bind (·.servicePlan)).getD "" }
    let w' := (w.putSale id
      { o with state := .ended, stateReason := reasonText reason, stateCode := none }).updateDevice
        dev fun x => { x with customerID := none, siteID := none }
    let mappings := w.mappings.map fun m =>
      if ends m then { m with unassignedAt := some now, unassignReason := some reason } else m
    .ok (result, { w' with mappings })

/-- `Swap`: end the service, and record a sale of the replacement. -/
def swap (id newID : String) (reason : UnassignReason) (newSerial newOUI : String) (now : Time) :
    Except LifecycleError (EndResult × OnboardingWorld) :=
  let serial := trimSpace newSerial
  if (reason ≠ .rma ∧ reason ≠ .upgrade) ∨ serial = "" then .error .invalid
  else
    match w.sales.lookup id, w.endService id reason now with
    | some o, .ok (result, w') =>
      if newID ∈ w'.sales then .error .invalid
      else if w'.serialTaken newID serial then .error .serialInUse
      else .ok (result, w'.putSale newID
        { customerID := o.customerID, expectedOUI := toUpper (trimSpace newOUI),
          expectedSerial := serial, accountRef := o.accountRef, siteID := o.siteID,
          servicePlanID := o.servicePlanID, source := o.source,
          bssRole := (result.mappingRole.map (·.text)).getD "",
          bssServicePlan := result.mappingPlan })
    | _, .error e => .error e
    | none, .ok _ => .error .notFound

end

/-- `ChangePlan`: a plan that configures sends the sale back to DISCOVERED. -/
def changePlan (id planID : String) (configures : Bool) :
    Except LifecycleError (Unit × OnboardingWorld) :=
  match w.lockInService id, w.plans planID with
  | .error e, _ => .error e
  | .ok _, none => .error .invalid
  | .ok (o, dev), some plan =>
    if plan.customerID ≠ none ∧ plan.customerID ≠ o.customerID then .error .invalid
    else if configures ∧ w.serialTaken id o.expectedSerial then .error .serialInUse
    else
      let w' := w.putSale id
        { o with
          servicePlanID := some planID,
          bssServicePlan := if o.bssRole ≠ "" then plan.code else o.bssServicePlan,
          state := if configures then .discovered else o.state,
          stateReason := if configures then "service plan changed; configuring on the next check-in"
            else o.stateReason,
          stateCode := none, configJobs := [], round := o.round + 1 }
      let mappings := w.mappings.map fun m =>
        if o.bssRole ≠ "" ∧ m.deviceID = dev ∧ m.current then
          { m with servicePlan := some plan.code }
        else m
      .ok ((), { w' with mappings })

/-! ### Customers of devices -/

/-- `AssignDeviceCustomer` -/
def assignCustomer (deviceID : String) (customerID : Option String) : OnboardingWorld :=
  w.updateDevice deviceID fun x => { x with customerID }

/-- `UPDATE devices SET customer_id = … WHERE id = $1 AND customer_id IS NULL` of the BSS. -/
def claimDevice (deviceID customerID : String) : OnboardingWorld :=
  w.updateDevice deviceID fun x => { x with customerID := x.customerID.or (some customerID) }

/-! ### Jobs -/

/-- `Create` of the job queue; a command key is used once. -/
def createJob (key : String) (j : OnboardingJob) : Option (String × OnboardingWorld) :=
  if key ∈ w.jobs then none else some (key, { w with jobs := w.jobs.insert key j })

/-- The round a sale is in. -/
def roundOf (saleID : String) : Nat :=
  ((w.sales.lookup saleID).map (·.round)).getD 0

def hasOpenJobByCreator (deviceID createdBy : String) : Bool :=
  w.jobs.entries.any fun e => e.2.deviceID = deviceID ∧ e.2.createdBy = createdBy ∧
    (e.2.status = .queued ∨ e.2.status = .rpcSent)

def setJobStatus (key : String) (status : Status) (fault : String) : OnboardingWorld :=
  let update (k : String) (j : OnboardingJob) : OnboardingJob :=
    if k = key then { j with status, faultString := fault } else j
  { w with jobs := Assoc.mapValues update w.jobs }

end OnboardingWorld

end Acs
