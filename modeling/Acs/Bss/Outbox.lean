/-
The outbox of orders (`dispatchOrder` of `cmd/bssadapter/main.go`, `order_reconciler.go` and
`internal/bss/acsclient.go`; `putParameters` of `cmd/api/device_handlers.go` and
`CreateWithIdempotency` of `internal/jobs/job.go`, migrations 0056 and 0070).

The adapter writes the order, asks the API for a job and records what became of it; a loop
of every instance does the latter two again for orders still pending.  A request to the API
is sent and its reply awaited, as two steps; the API serves it in steps of its own, in between
or later, once, more than once or never.  Any program may stop between two steps.

What the handler of the API checks before it comes to the job is the environment's choice,
and so is the payload it builds from the parameters.
-/
import Acs.Bss.Order
import Acs.Lib.Growing

namespace Acs.Bss

open Prog

/-! ### Rows -/

/-- A row of `jobs`, as far as idempotency goes. -/
structure KeyedJob where
  (commandKey deviceID payload : String)
  idempotencyKey : Option String := none
  requestHash : Option String := none

/-- `PUT /api/v1/devices/(id)/parameters`; no key is the empty one. -/
structure SetParametersRequest where
  deviceID : String
  parameters : List ParameterWrite
  idempotencyKey : String

/-- What `SetParametersWithIdempotency` fails with. -/
inductive AcsError where
  | unreachable (text : String)
  | status (code : Nat)
  | decode (text : String)

def AcsError.text : AcsError → String
  | .unreachable text => "internal ACS REST engine unreachable: " ++ text
  | .status code => "unexpected status from ACS: " ++ toString code
  | .decode text => "decode ACS response: " ++ text

/-- What `dispatchOrder` fails with. -/
inductive DispatchError where
  | orderAlreadyExists
  | insertFailed
  | acs (e : AcsError)

/-- Requests are numbered in the order they are sent; a reply is a status other than 202, or
the command key. -/
structure OutboxWorld where
  now : Time := 0
  orders : OrderTable := []
  jobs : List KeyedJob := []
  requests : List SetParametersRequest := []
  replies : List (Nat × Except Nat String) := []

namespace OutboxWorld

variable (w : OutboxWorld)

def later (elapsed : Nat) : OutboxWorld :=
  { w with now := w.now + elapsed }

def reply (n : Nat) : Option (Except Nat String) :=
  (w.replies.find? (·.1 = n)).map (·.2)

def hasJob (deviceID key : String) : Bool :=
  w.jobs.any fun j => j.deviceID = deviceID ∧ j.idempotencyKey = some key

/-- `INSERT INTO jobs … ON CONFLICT DO NOTHING RETURNING`: it fails if the command key is
taken, and returns nothing if there is a job with the key already. -/
def insertJob (j : KeyedJob) : Option (Option String × OutboxWorld) :=
  if w.jobs.any (·.commandKey = j.commandKey) then none
  else if j.idempotencyKey.any (w.hasJob j.deviceID) then some (none, w)
  else some (some j.commandKey, { w with jobs := w.jobs ++ [j] })

def findByIdempotency (deviceID key : String) : Option KeyedJob :=
  w.jobs.find? fun j => j.deviceID = deviceID ∧ j.idempotencyKey = some key

end OutboxWorld

/-! ### Statements -/

inductive OutboxStmt where
  | findOrder (externalOrderID : String)
  | insertPending (externalOrderID accountID action deviceID : String)
      (parameters : List ParameterWrite)
  | send (r : SetParametersRequest)
  | await (n : Nat)
  | markDispatched (externalOrderID commandKey : String)
  | markDispatchFailed (externalOrderID errMsg : String)
  | claimDuePendingOrders (limit : Nat)
  | markOrderNotified (externalOrderID : String)
  | receive (n : Nat)
  | check (n : Nat)
  | insertJob (deviceID payload : String) (idempotencyKey requestHash : Option String)
  | findByIdempotency (deviceID key : String)
  | reply (n : Nat) (r : Except Nat String)

/-- The answers; `none` is an error.  An insert says whether the id was free, and an insert of
a job returns its command key or nothing. -/
def OutboxStmt.Res : OutboxStmt → Type
  | .findOrder _ => Option (Option OrderRecord)
  | .insertPending .. => Option Bool
  | .send _ => Nat
  | .await _ => Except AcsError String
  | .claimDuePendingOrders _ => Option (List OrderRecord)
  | .receive _ => Option SetParametersRequest
  | .check _ => Except Nat String
  | .insertJob .. => Option (Option String)
  | .findByIdempotency .. => Option KeyedJob
  | .reply .. => Unit
  | _ => Option Unit

/-- What the environment decides about a statement: how much time has passed, what becomes of
it, the command key of a new job, what the handler of the API makes of a request, and whether
the adapter fails to get the reply. -/
structure OutboxChoice where
  elapsed : Nat := 0
  delivery : Delivery := .executed
  commandKey : String := ""
  checked : Except Nat String := .ok ""
  failure : Option AcsError := none

section

variable (sha256 : String → String) (as : List OutboxAction) (w : OutboxWorld)

def OutboxStmt.execNow (ch : OutboxChoice) : (s : OutboxStmt) → s.Res × OutboxWorld
  | .findOrder id => ch.delivery.deliver (w.orders.findOrder id) w w
  | .insertPending id accountID action deviceID parameters =>
    match w.orders.insertPending w.now id accountID action deviceID parameters with
    | none => ch.delivery.deliver false w w
    | some orders => ch.delivery.deliver true w { w with orders }
  | .send r => (w.requests.length, { w with requests := w.requests ++ [r] })
  | .await n =>
    match ch.failure, w.reply n with
    | some e, _ => (.error e, w)
    | none, none => (.error (.unreachable ""), w)
    | none, some (.error code) => (.error (.status code), w)
    | none, some (.ok commandKey) => (.ok commandKey, w)
  | .markDispatched id commandKey =>
    ch.delivery.deliver () w { w with orders := w.orders.markDispatched w.now id commandKey }
  | .markDispatchFailed id errMsg =>
    ch.delivery.deliver () w { w with orders := w.orders.markDispatchFailed w.now id errMsg }
  | .claimDuePendingOrders limit =>
    let due := w.orders.dueOrders w.now limit
    ch.delivery.deliver due w
      { w with orders := w.orders.stampClaimed w.now (due.map (·.externalOrderID)) }
  | .markOrderNotified id =>
    ch.delivery.deliver () w { w with orders := w.orders.markOrderNotified w.now id }
  | .receive n => (w.requests[n]?, w)
  | .check _ => (ch.checked, w)
  | .insertJob deviceID payload idempotencyKey requestHash =>
    ch.delivery.attempt w (w.insertJob
      { commandKey := ch.commandKey, deviceID, payload, idempotencyKey, requestHash })
  | .findByIdempotency deviceID key =>
    ((ch.delivery.deliver (w.findByIdempotency deviceID key) w w).1.join, w)
  | .reply n r => ((), { w with replies := w.replies ++ [(n, r)] })

/-- Executing a statement, at the time it is executed. -/
def OutboxStmt.exec (s : OutboxStmt) (ch : OutboxChoice) (w : OutboxWorld) : s.Res × OutboxWorld :=
  s.execNow (w.later ch.elapsed) ch

open OutboxStmt

abbrev OutboxProg := Prog Res

/-! ### The adapter -/

def orderKey (externalOrderID : String) : String :=
  "bss:" ++ externalOrderID ++ ":set-parameters"

def setParametersWithIdempotency (deviceID : String) (parameters : List ParameterWrite)
    (key : String) : OutboxProg (Except AcsError String) := do
  let idempotencyKey := if Text.trimSpace key ≠ "" then key else ""
  let n ← perform (send { deviceID, parameters, idempotencyKey })
  perform (await n)

def dispatchOrder (externalOrderID accountID action deviceID : String)
    (parameters : List ParameterWrite) : OutboxProg (Except DispatchError String) := do
  match ← perform
      (insertPending externalOrderID accountID action deviceID parameters) with
  | none => pure (.error .insertFailed)
  | some false => pure (.error .orderAlreadyExists)
  | some true =>
    match ← setParametersWithIdempotency deviceID parameters (orderKey externalOrderID) with
    | .error e =>
      let _ ← perform (markDispatchFailed externalOrderID e.text)
      pure (.error (.acs e))
    | .ok commandKey =>
      let _ ← perform (markDispatched externalOrderID commandKey)
      pure (.ok commandKey)

def orderReconcileBatch : Nat := 50

/-- One order of `reconcilePendingOrders`. -/
def redispatchOrder (order : OrderRecord) : OutboxProg Unit := do
  match ← setParametersWithIdempotency order.deviceID order.parameters
      (orderKey order.externalOrderID) with
  | .error e =>
    let _ ← perform (markDispatchFailed order.externalOrderID e.text)
  | .ok commandKey =>
    let _ ← perform (markDispatched order.externalOrderID commandKey)

def reconcilePendingOrders : OutboxProg Unit := do
  match ← perform (claimDuePendingOrders orderReconcileBatch) with
  | none => pure ()
  | some orders => Prog.each orders redispatchOrder

/-! ### The API -/

/-- `CreateWithIdempotency`, from the hash of the payload on; the status it ends in, or the
command key. -/
@[irreducible] def createWithIdempotency (deviceID payload key : String) :
    OutboxProg (Except Nat String) := do
  if Text.trimSpace key = "" then
    match ← perform (insertJob deviceID payload none none) with
    | some (some commandKey) => pure (.ok commandKey)
    | _ => pure (.error 500)
  else
    match ← perform (insertJob deviceID payload (some key) (some (sha256 payload))) with
    | none => pure (.error 500)
    | some (some commandKey) => pure (.ok commandKey)
    | some none =>
      match ← perform (findByIdempotency deviceID key) with
      | none => pure (.error 500)
      | some existing =>
        if existing.requestHash ≠ some (sha256 payload) then pure (.error 409)
        else pure (.ok existing.commandKey)

/-- `putParameters`, serving a request. -/
def putParameters (n : Nat) : OutboxProg Unit := do
  match ← perform (receive n) with
  | none => pure ()
  | some r =>
    match ← perform (check n) with
    | .error code => perform (reply n (.error code))
    | .ok payload =>
      let result ← createWithIdempotency sha256 r.deviceID payload r.idempotencyKey
      perform (reply n result)

/-! ### Any number of instances -/

inductive OutboxTask where
  | dispatch (externalOrderID accountID action deviceID : String) (parameters : List ParameterWrite)
  | reconcile
  | serve (n : Nat)
  | notified (externalOrderID : String)

def OutboxTask.prog : OutboxTask → OutboxProg Unit
  | .dispatch externalOrderID accountID action deviceID parameters => do
    let _ ← dispatchOrder externalOrderID accountID action deviceID parameters
  | .reconcile => reconcilePendingOrders
  | .serve n => putParameters sha256 n
  | .notified externalOrderID => .stmt (.markOrderNotified externalOrderID) fun _ => pure ()

abbrev OutboxAction := Pool.Action OutboxTask OutboxChoice

abbrev OutboxEvent := Pool.Event Res OutboxWorld

def outboxTrace : List OutboxEvent :=
  (Pool.run OutboxStmt.exec (OutboxTask.prog sha256) as ⟨w, []⟩).1

end

end Acs.Bss
