/-
The tables beside the queue (`internal/devices/repository.go`, `internal/parameters`).

The devices, the values they last reported, and the tree of names that discovery found,
with the firmware it was found on.  They meet the queue in `Upsert`, which writes reported
values and, with a new software version, marks the tree stale and queues a discovery in the
same transaction; and in `SaveDiscovery`, which publishes the tree of a finished walk.

A cached parameter is its value; its type, source and time are left out.  The answers that
walks were given are recorded for the proofs only.
-/
import Acs.Jobs.Repository
import Acs.Lib.Assoc

namespace Acs

open Text

/-! ### Devices -/

/-- `devices.data_model_root`. -/
inductive DataModelRoot where
  | unknown | device2 | igd1

structure Device where
  id : String
  /-- The natural key. -/
  ouiSerial : String
  dataModelRoot : DataModelRoot := .unknown

section

variable (id : String) (root : DataModelRoot) (row : Device)

/-- The row of the device gets a new root. -/
def Device.setRoot : Device :=
  if row.id = id then { row with dataModelRoot := root } else row

@[simp] theorem Device.setRoot_id :
    (row.setRoot id root).id = row.id := by
  unfold Device.setRoot; split <;> rfl

@[simp] theorem Device.setRoot_ouiSerial :
    (row.setRoot id root).ouiSerial = row.ouiSerial := by
  unfold Device.setRoot; split <;> rfl

end

structure DeviceTable where
  rows : List Device
  ids : (rows.map (·.id)).Nodup
  keys : (rows.map (·.ouiSerial)).Nodup

namespace DeviceTable

def find (t : DeviceTable) (id : String) : Option Device :=
  t.rows.find? (·.id = id)

def byKey (t : DeviceTable) (key : String) : Option Device :=
  t.rows.find? (·.ouiSerial = key)

/-- `INSERT INTO devices`: refused when the id or the natural key is taken. -/
def insert (t : DeviceTable) (row : Device) : Option DeviceTable :=
  if h : row.id ∉ t.rows.map (·.id) ∧ row.ouiSerial ∉ t.rows.map (·.ouiSerial) then
    some {
      rows := row :: t.rows
      ids := List.nodup_cons.mpr ⟨h.1, t.ids⟩
      keys := List.nodup_cons.mpr ⟨h.2, t.keys⟩ }
  else none

/-- `UPDATE devices SET data_model_root`. -/
def setRoot (t : DeviceTable) (id : String) (root : DataModelRoot) : DeviceTable where
  rows := t.rows.map (Device.setRoot id root)
  ids := by
    rw [Keyed.map_key_map (Device.setRoot_id id root)]
    exact t.ids
  keys := by
    rw [Keyed.map_key_map (Device.setRoot_ouiSerial id root)]
    exact t.keys

end DeviceTable

/-! ### The site -/

/-- A row of `device_parameter_names`. -/
structure DiscoveredTree where
  /-- Names and whether they are writable. -/
  names : StringMap Bool
  capabilities : List SupportedCapability := []
  /-- `evidence->>'firmware'`. -/
  firmware : String := ""
  /-- `evidence->>'stale'`. -/
  stale : Bool := false

/-- Names a device answered a walk with, and its version then. -/
structure Receipt where
  (deviceID jobID : String)
  names : StringMap Bool
  firmware : String

/-- The queue and the three tables. -/
structure Site where
  queue : World
  devices : DeviceTable
  /-- `device_parameter_cache`; a device without a row has reported nothing. -/
  cache : String → StringMap String := fun _ => ∅
  tree : String → Option DiscoveredTree := fun _ => none
  /-- The answers walks were given, for the proofs only. -/
  received : List Receipt := []

def softwareVersionDevice : String := "Device.DeviceInfo.SoftwareVersion"
def softwareVersionIGD : String := "InternetGatewayDevice.DeviceInfo.SoftwareVersion"

section

variable (st : Site) (ids : String × String) (deviceID : String) (values : StringMap String)

/-- `COALESCE` of the two cached software versions. -/
def cachedVersion : String :=
  ((values.lookup softwareVersionDevice).or (values.lookup softwareVersionIGD)).getD ""

/-- The cached software version of a device. -/
def Site.version : String :=
  cachedVersion (st.cache deviceID)

/-! ### Reported values -/

/-- `redactSecrets`. -/
def redactSecrets : StringMap String :=
  Assoc.mapValues (fun name value =>
    if value = "" || value = redactedMark || !secretName name then value else redactedMark) values

/-- A path whose value is a software version, the root of its data model and the other root. -/
def versionPaths : List (String × String × String) :=
  [(softwareVersionDevice, "Device.", "InternetGatewayDevice."),
   (softwareVersionIGD, "InternetGatewayDevice.", "Device.")]

/-- The first software version that the values change: the roots to discover, and the new
version. -/
def firmwareChange (current values : StringMap String) : Option (String × String × String) :=
  versionPaths.findSome? fun (path, root, fallback) =>
    match current.lookup path, values.lookup path with
    | some old, some updated =>
      if old = "" || old = updated then none else some (root, fallback, updated)
    | _, _ => none

/-- The discovery that a new version queues. -/
def firmwareDiscovery (change : String × String × String) : JobSpec × Payload :=
  ({ id := ids.1, commandKey := ids.2, deviceID, type := .parameterDiscovery,
     maxAttempts := discoveryMaxObjects, createdBy := "system:firmware-discovery" },
   .parameterDiscovery
     { root := change.1, fallbackRoot := change.2.1, incremental := true, firmware := change.2.2 })

/-- The discovery of `QueueDiscoveryIfNeeded`. -/
def onboardingDiscovery (deviceID firmware : String) : JobSpec × Payload :=
  ({ id := ids.1, commandKey := ids.2, deviceID, type := .parameterDiscovery,
     maxAttempts := discoveryMaxObjects, createdBy := "system:onboarding-discovery" },
   .parameterDiscovery
     { root := "Device.", fallbackRoot := "InternetGatewayDevice.", incremental := true, firmware })

/-- `INSERT ... WHERE NOT EXISTS` an active discovery of the device; none when the row is
refused. -/
def World.insertUnlessActive (w : World) (job : JobSpec × Payload) : Option World :=
  if w.discoveryActive job.1.deviceID then some w
  else (w.jobs.insert (newJob job.1 job.2 w.now)).map fun jobs => { w with jobs := jobs }

/-- The cache of a device with the values written over it. -/
def Site.putValues : Site :=
  { st with cache := Function.update st.cache deviceID (values ∪ st.cache deviceID) }

/-- The tree of a device is evidence of an earlier firmware. -/
def Site.markStale : Site :=
  { st with
    tree := Function.update st.tree deviceID ((st.tree deviceID).map ({ · with stale := true })) }

/-- `Upsert` of values that are not empty, after `redactSecrets`: one transaction. -/
def Site.upsert : Option Site :=
  if (st.devices.find deviceID).isNone then none
  else
    match firmwareChange (st.cache deviceID) values with
    | none => some (st.putValues deviceID values)
    | some change =>
      (st.queue.insertUnlessActive (firmwareDiscovery ids deviceID change)).map fun queue =>
        ({ st with queue := queue }.markStale deviceID).putValues deviceID values

/-! ### Discovered trees -/

/-- `parameters.DiscoverySnapshot`. -/
structure DiscoverySnapshot where
  names : StringMap Bool
  capabilities : List SupportedCapability := []
  expectedFirmware : String

/-- Publish a snapshot as the tree of the device. -/
def Site.publish (s : DiscoverySnapshot) : Site :=
  { st with
    tree := Function.update st.tree deviceID
      (some { names := s.names, capabilities := s.capabilities, firmware := st.version deviceID }) }

/-- Why a subtree is not merged. -/
inductive MergeError where
  | badRoot | database | noDiscovery

/-- The text of the error; how a path is quoted and what the driver says are parameters. -/
def MergeError.text (quote : String → String) (driver root : String) : MergeError → String
  | .badRoot => "merge root " ++ quote root ++ " must end in '.'"
  | .database => "merge discovered subtree: " ++ driver
  | .noDiscovery => "device has no discovered parameter tree to merge into"

/-- The names with those under the root replaced. -/
def mergeNames (root : String) (names found : StringMap Bool) : StringMap Bool :=
  Assoc.restrict (hasPrefix · root) found ∪ Assoc.restrict (fun name => !hasPrefix name root) names

def Site.mergeSubtree (deviceID root : String) (t : DiscoveredTree)
    (found : StringMap Bool) : Site :=
  { st with
    tree := Function.update st.tree deviceID
      (some { t with names := mergeNames root t.names found }) }

/-! ### Statements -/

inductive SiteStmt where
  | queue (s : Stmt)
  /-- `devices.Get`. -/
  | getDevice (id : String)
  | getByOUIserial (key : String)
  /-- `UpsertFromInform`, with the id of a new row. -/
  | upsertFromInform (freshID key : String)
  | updateDataModelRoot (deviceID : String) (root : DataModelRoot)
  /-- `parameters.Get`. -/
  | getValues (deviceID : String)
  | getNames (deviceID : String)
  /-- `Upsert`, with id and command key of the discovery it may queue. -/
  | upsert (ids : String × String) (deviceID : String) (values : StringMap String)
  | queueDiscoveryIfNeeded (ids : String × String) (deviceID : String)
  | activeDiscovery (deviceID : String)
  | saveDiscovery (deviceID : String) (snapshot : DiscoverySnapshot)
  | mergeDiscoveredSubtree (deviceID root : String) (found : StringMap Bool)
  /-- A walk is given an answer, recorded for the proofs only. -/
  | received (deviceID jobID : String) (names : StringMap Bool)

def SiteStmt.Res : SiteStmt → Type
  | .queue s => s.Res
  | .getDevice _ | .upsertFromInform _ _ => Option Device
  | .getByOUIserial _ => Option (Option Device)
  | .updateDataModelRoot _ _ | .queueDiscoveryIfNeeded _ _ | .received _ _ _ => Unit
  | .getValues _ => Option (StringMap String)
  | .getNames _ => Option (Option DiscoveredTree)
  | .upsert _ _ _ => Bool
  | .activeDiscovery _ => Option (Option Job)
  | .saveDiscovery _ _ => SaveResult
  | .mergeDiscoveredSubtree _ _ _ => Option MergeError

/-- A discovery that walks a tree, not one that merges a subtree. -/
def Job.isFullDiscovery (j : Job) : Bool :=
  j.type = .parameterDiscovery && !j.payload.asDiscovery.any (·.merge)

/-- One statement, at the clock the site shows. -/
def SiteStmt.effect (c : Choice) : (s : SiteStmt) → s.Res × Site
  | .queue s => ((s.effect st.queue c).1, { st with queue := (s.effect st.queue c).2 })
  | .getDevice id => (if c.fails then none else st.devices.find id, st)
  | .getByOUIserial key => (if c.fails then none else some (st.devices.byKey key), st)
  | .upsertFromInform freshID key =>
    if c.fails then (none, st)
    else
      match st.devices.byKey key with
      | some row => (some row, st)
      | none =>
        match st.devices.insert { id := freshID, ouiSerial := key } with
        | none => (none, st)
        | some devices => (some { id := freshID, ouiSerial := key }, { st with devices := devices })
  | .updateDataModelRoot d root =>
    ((), if c.fails then st else { st with devices := st.devices.setRoot d root })
  | .getValues d => (if c.fails then none else some (st.cache d), st)
  | .getNames d => (if c.fails then none else some (st.tree d), st)
  | .upsert ids d values =>
    if values.keys.isEmpty then (true, st)
    else
      match if c.fails then none else st.upsert ids d (redactSecrets values) with
      | none => (false, st)
      | some st' => (true, st')
  | .queueDiscoveryIfNeeded ids d =>
    ((),
      if c.fails then st
      else { st with
        queue := (st.queue.insertUnlessActive
          (onboardingDiscovery ids d (st.version d))).getD st.queue })
  | .activeDiscovery d =>
    (if c.fails then none
      else some (byCreation (st.queue.jobs.rows.filter fun j =>
        j.deviceID = d && j.isFullDiscovery &&
          (j.status = .queued || j.status = .rpcSent))).head?, st)
  | .saveDiscovery d s =>
    if c.fails || (st.devices.find d).isNone then (.failed, st)
    else if s.expectedFirmware ≠ "" && s.expectedFirmware ≠ st.version d then
      (.firmwareChanged, st)
    else (.saved, st.publish d s)
  | .mergeDiscoveredSubtree d root found =>
    if !hasSuffix root "." then (some .badRoot, st)
    else if c.fails then (some .database, st)
    else
      match st.tree d with
      | none => (some .noDiscovery, st)
      | some t => (none, st.mergeSubtree d root t found)
  | .received d jobID names =>
    ((), { st with received := ⟨d, jobID, names, st.version d⟩ :: st.received })

/-- The clock of the database moves on. -/
def Site.tick (c : Choice) : Site :=
  { st with queue := st.queue.tick c }

end

def SiteStmt.exec (s : SiteStmt) (c : Choice) (st : Site) : s.Res × Site :=
  s.effect (st.tick c) c

/-- Programs over the statements of the site. -/
abbrev SiteProg (α : Type) := Prog SiteStmt.Res α

/-- A program of the queue is one of the site. -/
def onQueue {α : Type} : Handler α → SiteProg α
  | .done a => .done a
  | .stmt s k => .stmt (.queue s) fun r => onQueue (k r)

/-! ### Statements as programs -/

namespace SiteDb

def getDevice (id : String) : SiteProg (Option Device) :=
  .perform (SiteStmt.getDevice id)

def getByOUIserial (key : String) : SiteProg (Option (Option Device)) :=
  .perform (SiteStmt.getByOUIserial key)

def upsertFromInform (freshID key : String) : SiteProg (Option Device) :=
  .perform (SiteStmt.upsertFromInform freshID key)

section

variable (ids : String × String) (deviceID : String)

def updateDataModelRoot (root : DataModelRoot) : SiteProg Unit :=
  .perform (SiteStmt.updateDataModelRoot deviceID root)

def getValues : SiteProg (Option (StringMap String)) :=
  .perform (SiteStmt.getValues deviceID)

def getNames : SiteProg (Option (Option DiscoveredTree)) :=
  .perform (SiteStmt.getNames deviceID)

def upsert (values : StringMap String) : SiteProg Bool :=
  .perform (SiteStmt.upsert ids deviceID values)

def queueDiscoveryIfNeeded : SiteProg Unit :=
  .perform (SiteStmt.queueDiscoveryIfNeeded ids deviceID)

def activeDiscovery : SiteProg (Option (Option Job)) :=
  .perform (SiteStmt.activeDiscovery deviceID)

def saveDiscovery (snapshot : DiscoverySnapshot) : SiteProg SaveResult :=
  .perform (SiteStmt.saveDiscovery deviceID snapshot)

end

def mergeDiscoveredSubtree (deviceID root : String) (found : StringMap Bool) :
    SiteProg (Option MergeError) :=
  .perform (SiteStmt.mergeDiscoveredSubtree deviceID root found)

def received (deviceID jobID : String) (names : StringMap Bool) : SiteProg Unit :=
  .perform (SiteStmt.received deviceID jobID names)

end SiteDb

end Acs
