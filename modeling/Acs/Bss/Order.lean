/-
The table of orders (`internal/bss/order.go`, migrations 0008, 0021 and 0056).

An order is written before its dispatch is attempted, so that an attempt that fails or
never ends is made again by a later pass.  The table is kept as the list of its rows; an
UPDATE changes the row with the given id.
-/
import Acs.Jobs.Job
import Acs.Lib.Limit

namespace Acs.Bss

inductive OrderStatus where
  | pendingDispatch
  | dispatched
  | deadLettered
  deriving DecidableEq

/-- `ParameterWrite` of `internal/bss/template.go`. -/
structure ParameterWrite where
  (name value type : String)
  secretHandle : String := ""

/-- A row of `bss_orders`. -/
structure OrderRecord where
  (externalOrderID accountID : String)
  action : String := ""
  deviceID : String := ""
  parameters : List ParameterWrite := []
  /-- Empty while `PENDING_DISPATCH` or `DEAD_LETTERED`. -/
  commandKey : String := ""
  status : OrderStatus := .pendingDispatch
  attempts : Nat := 0
  lastError : String := ""
  createdAt : Time := 0
  lastAttemptAt : Option Time := none
  notifiedAt : Option Time := none

def maxDispatchAttempts : Nat := 8

def minutes (n : Nat) : Time := seconds (60 * n)

/-- `last_attempt_at IS NULL OR last_attempt_at < now() - power(2, attempts) minutes`. -/
def backoffElapsed (now : Time) (attempts : Nat) (lastAttemptAt : Option Time) : Bool :=
  lastAttemptAt.all fun t => t + minutes (2 ^ attempts) < now

abbrev OrderTable := List OrderRecord

namespace OrderTable

variable (orders : OrderTable) (now : Time)

def findOrder (id : String) : Option OrderRecord :=
  orders.find? (·.externalOrderID = id)

/-- The change of an `UPDATE … WHERE external_order_id = $1`. -/
def updateAt (id : String) (f : OrderRecord → OrderRecord) : OrderTable :=
  orders.map fun o => if o.externalOrderID = id then f o else o

/-- `InsertPending`; `none` is `ErrOrderAlreadyExists`. -/
def insertPending (externalOrderID accountID action deviceID : String)
    (parameters : List ParameterWrite) : Option OrderTable :=
  if (orders.findOrder externalOrderID).isSome then none
  else
    let o : OrderRecord :=
      { externalOrderID, accountID, action, deviceID, parameters
        createdAt := now
        lastAttemptAt := some now }
    some (orders ++ [o])

def markDispatched (id commandKey : String) : OrderTable :=
  orders.updateAt id fun o =>
    if o.status = .pendingDispatch then
      { o with status := .dispatched, commandKey, lastAttemptAt := some now }
    else o

def markDispatchFailed (id errMsg : String) : OrderTable :=
  orders.updateAt id fun o =>
    if o.status = .pendingDispatch then
      { o with
        attempts := o.attempts + 1
        lastAttemptAt := some now
        lastError := errMsg
        status := if o.attempts + 1 ≥ maxDispatchAttempts then .deadLettered else o.status }
    else o

def due (o : OrderRecord) : Bool :=
  o.status = .pendingDispatch ∧ o.attempts < maxDispatchAttempts ∧
    backoffElapsed now o.attempts o.lastAttemptAt

/-- The orders that `ClaimDuePendingOrders` returns. -/
def dueOrders (limit : Nat) : List OrderRecord :=
  limitBy OrderRecord.createdAt limit (orders.filter (due now))

/-- The table it leaves. -/
def stampClaimed (ids : List String) : OrderTable :=
  orders.map fun o => if o.externalOrderID ∈ ids then { o with lastAttemptAt := some now } else o

def unnotifiedOrders (limit : Nat) : List OrderRecord :=
  limitBy OrderRecord.createdAt limit
    (orders.filter fun o => o.notifiedAt = none ∧ o.status = .dispatched)

def markOrderNotified (id : String) : OrderTable :=
  orders.updateAt id fun o => { o with notifiedAt := some now }

end OrderTable

end Acs.Bss
