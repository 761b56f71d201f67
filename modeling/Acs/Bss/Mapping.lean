/-
Account-device mappings of the BSS adapter (`internal/bss/mapping.go`,
`internal/bss/accounts.go`), as transactions at READ COMMITTED.

A SELECT reads what is committed, and the transaction's own writes.  An UPDATE of a row
that another open transaction has written, and an INSERT that meets an index entry of one,
are not executed before that transaction has ended, unless the wait ends with an error (a
deadlock, a cancelled request), which is their other outcome here.

The owners of the accounts do not change while the transactions run.
-/
import Acs.Jobs.Job
import Acs.Lib.Assoc
import Acs.Lib.Pool

namespace Acs

open Prog

inductive DeviceRole where
  | gateway | ont | extender | stb | ata | other
  deriving DecidableEq

/-- `ValidRole`: the role of that name. -/
def DeviceRole.parse : String → Option DeviceRole
  | "gateway" => some .gateway
  | "ont" => some .ont
  | "extender" => some .extender
  | "stb" => some .stb
  | "ata" => some .ata
  | "other" => some .other
  | _ => none

inductive UnassignReason where
  | rma | upgrade | return | moved | corrected
  deriving DecidableEq

/-- `ValidUnassignReason`: the reason of that name. -/
def UnassignReason.parse : String → Option UnassignReason
  | "rma" => some .rma
  | "upgrade" => some .upgrade
  | "return" => some .return
  | "moved" => some .moved
  | "corrected" => some .corrected
  | _ => none

inductive MappingStatus where
  | pendingActive | active | suspended | terminated
  deriving DecidableEq

/-- A row of `account_device_mappings`. -/
structure AccountDeviceMapping where
  (id accountID deviceID ouiSerial : String)
  servicePlan : Option String := none
  status : MappingStatus := .active
  role : DeviceRole
  assignedAt : Time := 0
  unassignedAt : Option Time := none
  unassignReason : Option UnassignReason := none
  deriving DecidableEq

/-- The mapping is the current one, not history. -/
def AccountDeviceMapping.current (m : AccountDeviceMapping) : Bool :=
  m.unassignedAt.isNone

/-- The columns of `devices` that the mappings read and write. -/
structure BssDevice where
  ouiSerial : String
  customerID : Option String := none

/-! ### Transactions -/

inductive TxPhase where
  | open | committed | rolledBack
  deriving DecidableEq

/-- The writes of a transaction.  The account it is for is recorded for the proofs only. -/
structure BssTx where
  accountID : String
  phase : TxPhase := .open
  /-- Devices it has given a customer. -/
  claims : List (String × String) := []
  /-- Mappings it has ended. -/
  closed : List (String × UnassignReason × Time) := []
  opened : List AccountDeviceMapping := []

def BssTx.claimed (t : BssTx) (deviceID : String) : Option String :=
  t.claims.lookup deviceID

def BssTx.closes (t : BssTx) (mappingID : String) : Bool :=
  t.closed.any (·.1 = mappingID)

/-- What is committed, and the transactions so far. -/
structure BssWorld where
  devices : AList fun _ : String => BssDevice
  /-- `bss_accounts` -/
  owner : String → Option String
  mappings : List AccountDeviceMapping := []
  txs : List BssTx := []

namespace BssWorld

variable (w : BssWorld)

def customerOf (deviceID : String) : Option String :=
  (w.devices.lookup deviceID).bind (·.customerID)

section

variable (n : Nat) (t : BssTx)

/-- The transaction, while it is open. -/
def openTx : Option BssTx :=
  (w.txs[n]?).filter (·.phase = .open)

/-- The open transactions but one. -/
def otherTxs : List BssTx :=
  (w.txs.zipIdx.filter fun t => t.2 ≠ n ∧ t.1.phase = .open).map (·.1)

def putTx : BssWorld :=
  { w with txs := w.txs.set n t }

/-- The `SELECT` of `deviceForAccount`: the device, its customer and the owner of the
account. -/
def selectDevice (ouiSerial accountID : String) : Option (String × Option String × Option String) :=
  (w.devices.entries.find? (·.2.ouiSerial = ouiSerial)).map fun d =>
    (d.1, (t.claimed d.1).or d.2.customerID, w.owner accountID)

/-- `UPDATE devices SET customer_id = … WHERE id = $1 AND customer_id IS NULL`. -/
def claimDevice (deviceID customerID : String) : Option (Unit × BssWorld) :=
  (w.openTx n).bind fun t =>
    if (w.otherTxs n).any fun o => (o.claimed deviceID).isSome then none
    else if deviceID ∈ w.devices ∧ w.customerOf deviceID = none ∧ t.claimed deviceID = none then
      some ((), w.putTx n { t with claims := (deviceID, customerID) :: t.claims })
    else some ((), w)

/-- The current mappings as a transaction sees them. -/
def visible : List AccountDeviceMapping :=
  (w.mappings.filter fun m => m.current ∧ !t.closes m.id) ++ t.opened

/-- The `UPDATE … RETURNING service_plan` of `SwapDevice`, its first statement. -/
def closeMapping (accountID : String) (role : DeviceRole) (reason : UnassignReason)
    (now : Time) : Option (Option (Option String) × BssWorld) :=
  (w.openTx n).bind fun t =>
    let found := (w.visible t).filter fun m => m.accountID = accountID ∧ m.role = role
    if found.any fun m => (w.otherTxs n).any (·.closes m.id) then none
    else some (found.head?.map (·.servicePlan),
      w.putTx n { t with closed := found.map (fun m => (m.id, reason, now)) ++ t.closed })

/-- What the partial unique indexes say about a new mapping. -/
inductive InsertOutcome where
  | inserted
  /-- `account_device_mappings_active_idx` -/
  | deviceTaken
  /-- `account_device_mappings_active_role_idx` -/
  | roleTaken

def insertMapping (m : AccountDeviceMapping) : Option (InsertOutcome × BssWorld) :=
  (w.openTx n).bind fun t =>
    let sameDevice := fun (o : AccountDeviceMapping) =>
      o.accountID = m.accountID ∧ o.deviceID = m.deviceID
    let sameRole := fun (o : AccountDeviceMapping) => o.accountID = m.accountID ∧ o.role = m.role
    let undecided := fun (o : AccountDeviceMapping) => (w.otherTxs n).any (·.closes o.id)
    let settled := (w.visible t).filter (!undecided ·)
    let unsettled := (w.visible t).filter undecided ++ (w.otherTxs n).flatMap (·.opened)
    if settled.any sameDevice then some (.deviceTaken, w)
    else if settled.any sameRole then some (.roleTaken, w)
    else if unsettled.any fun o => sameDevice o ∨ sameRole o then none
    else some (.inserted, w.putTx n { t with opened := m :: t.opened })

/-- The device with the customer a transaction has given it. -/
def claimedDevice (deviceID : String) (d : BssDevice) : BssDevice :=
  { d with customerID := (t.claimed deviceID).or d.customerID }

/-- The mapping, ended if a transaction has ended it. -/
def closedMapping (m : AccountDeviceMapping) : AccountDeviceMapping :=
  match t.closed.find? (·.1 = m.id) with
  | none => m
  | some (_, reason, now) => { m with unassignedAt := some now, unassignReason := some reason }

def commit : Option (Unit × BssWorld) :=
  (w.openTx n).map fun t =>
    ((), { w.putTx n { t with phase := .committed } with
      devices := Assoc.mapValues (claimedDevice t) w.devices
      mappings := w.mappings.map (closedMapping t) ++ t.opened })

def rollback : Option (Unit × BssWorld) :=
  (w.openTx n).map fun t => ((), w.putTx n { t with phase := .rolledBack })

end

def begin (accountID : String) : Option (Nat × BssWorld) :=
  some (w.txs.length, { w with txs := w.txs ++ [{ accountID }] })

def getByAccountDevice (accountID deviceID : String) : Option AccountDeviceMapping :=
  w.mappings.find? fun m => m.accountID = accountID ∧ m.deviceID = deviceID ∧ m.current

end BssWorld

/-! ### Statements -/

inductive BssStmt where
  | begin (accountID : String)
  | selectDevice (tx : Nat) (ouiSerial accountID : String)
  | claimDevice (tx : Nat) (deviceID customerID : String)
  | closeMapping (tx : Nat) (accountID : String) (role : DeviceRole) (reason : UnassignReason)
  | insertMapping (tx : Nat) (m : AccountDeviceMapping)
  | commit (tx : Nat)
  | rollback (tx : Nat)
  | getByAccountDevice (accountID deviceID : String)
  deriving DecidableEq

/-- The answer to a statement; `none` is an error. -/
def BssStmt.Res : BssStmt → Type
  | .begin _ => Option Nat
  | .selectDevice .. => Option (Option (String × Option String × Option String))
  | .claimDevice .. | .commit _ | .rollback _ => Option Unit
  | .closeMapping .. => Option (Option (Option String))
  | .insertMapping .. => Option BssWorld.InsertOutcome
  | .getByAccountDevice .. => Option (Option AccountDeviceMapping)

structure BssChoice where
  delivery : Delivery := .executed
  now : Time := 0

def BssStmt.exec (s : BssStmt) (c : BssChoice) (w : BssWorld) : s.Res × BssWorld :=
  match s with
  | .begin accountID => c.delivery.attempt w (w.begin accountID)
  | .selectDevice n ouiSerial accountID =>
    c.delivery.attempt w ((w.openTx n).map fun t => (w.selectDevice t ouiSerial accountID, w))
  | .claimDevice n deviceID customerID =>
    c.delivery.attempt w (w.claimDevice n deviceID customerID)
  | .closeMapping n accountID role reason =>
    c.delivery.attempt w (w.closeMapping n accountID role reason c.now)
  | .insertMapping n m =>
    c.delivery.attempt w (w.insertMapping n { m with assignedAt := c.now })
  | .commit n => c.delivery.attempt w (w.commit n)
  | .rollback n => c.delivery.attempt w (w.rollback n)
  | .getByAccountDevice accountID deviceID =>
    c.delivery.attempt w (some (w.getByAccountDevice accountID deviceID, w))

open BssStmt

abbrev BssProg (α : Type) := Prog Res α

/-! ### The repository -/

inductive MappingError where
  | database
  | deviceNotFound (ouiSerial : String)
  | noDeviceForRole (accountID : String) (role : DeviceRole)
  | roleAlreadyAssigned (accountID : String) (role : DeviceRole)
  | deviceAlreadyAssigned (accountID : String)
  | invalidRole (role : String)
  | invalidUnassignReason (reason : String)

def deviceForAccount (tx : Nat) (ouiSerial accountID : String) :
    BssProg (Except MappingError String) := do
  match ← perform (selectDevice tx ouiSerial accountID) with
  | none => return .error .database
  | some none => return .error (.deviceNotFound ouiSerial)
  | some (some (deviceID, _, none)) => return .ok deviceID
  | some (some (deviceID, none, some owner)) =>
    match ← perform (claimDevice tx deviceID owner) with
    | none => return .error .database
    | some _ => return .ok deviceID
  | some (some (deviceID, some customer, some owner)) =>
    if customer ≠ owner then return .error (.deviceNotFound ouiSerial) else return .ok deviceID

def insertAssignment (tx : Nat) (m : AccountDeviceMapping) :
    BssProg (Except MappingError Unit) := do
  match ← perform (insertMapping tx m) with
  | none => return .error .database
  | some .inserted => return .ok ()
  | some .deviceTaken => return .error (.deviceAlreadyAssigned m.accountID)
  | some .roleTaken => return .error (.roleAlreadyAssigned m.accountID m.role)

/-- The deferred `tx.Rollback()`, and the error. -/
def rollbackWith {α : Type} (tx : Nat) (e : MappingError) : BssProg (Except MappingError α) := do
  let _ ← perform (rollback tx)
  return .error e

/-- What `AssignDeviceStatus` and `SwapDevice` end with: the device, the new mapping and the
commit. -/
def openAssignment (tx : Nat) (id accountID ouiSerial : String) (role : DeviceRole)
    (servicePlan : Option String) (status : MappingStatus) :
    BssProg (Except MappingError AccountDeviceMapping) := do
  match ← deviceForAccount tx ouiSerial accountID with
  | .error e => rollbackWith tx e
  | .ok deviceID =>
    let m : AccountDeviceMapping :=
      { id, accountID, deviceID, ouiSerial, servicePlan, status, role }
    match ← insertAssignment tx m with
    | .error e => rollbackWith tx e
    | .ok _ =>
      match ← perform (commit tx) with
      | none => rollbackWith tx .database
      | some _ =>
        match ← perform (getByAccountDevice accountID deviceID) with
        | some (some m) => return .ok m
        | _ => return .error .database

/-- `nullIfEmpty` -/
def nullIfEmpty (s : String) : Option String :=
  if s = "" then none else some s

def assignDeviceStatus (id accountID ouiSerial role servicePlan : String)
    (status : MappingStatus) : BssProg (Except MappingError AccountDeviceMapping) := do
  match DeviceRole.parse role with
  | none => return .error (.invalidRole role)
  | some role =>
    match ← perform (begin accountID) with
    | none => return .error .database
    | some tx => openAssignment tx id accountID ouiSerial role (nullIfEmpty servicePlan) status

def swapDevice (id accountID role newOUISerial reason : String) :
    BssProg (Except MappingError AccountDeviceMapping) := do
  match DeviceRole.parse role, UnassignReason.parse reason with
  | none, _ => return .error (.invalidRole role)
  | some _, none => return .error (.invalidUnassignReason reason)
  | some role, some reason =>
    match ← perform (begin accountID) with
    | none => return .error .database
    | some tx =>
      match ← perform (closeMapping tx accountID role reason) with
      | none => rollbackWith tx .database
      | some none => rollbackWith tx (.noDeviceForRole accountID role)
      | some (some servicePlan) =>
        openAssignment tx id accountID newOUISerial role servicePlan .active

/-! ### Runs -/

inductive BssTask where
  | assign (id accountID ouiSerial role servicePlan : String) (status : MappingStatus)
  | swap (id accountID role newOUISerial reason : String)

def BssTask.prog : BssTask → BssProg Unit
  | .assign id accountID ouiSerial role servicePlan status => do
    let _ ← assignDeviceStatus id accountID ouiSerial role servicePlan status
  | .swap id accountID role newOUISerial reason => do
    let _ ← swapDevice id accountID role newOUISerial reason

abbrev BssAction := Pool.Action BssTask BssChoice
abbrev BssEvent := Pool.Event Res BssWorld

/-- The statements of any number of transactions, from a state without open ones. -/
def bssTrace (as : List BssAction) (w : BssWorld) : List BssEvent :=
  (Pool.run BssStmt.exec BssTask.prog as ⟨{ w with txs := [] }, []⟩).1

end Acs
