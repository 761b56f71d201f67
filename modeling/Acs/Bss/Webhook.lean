/-
Webhooks (`internal/bss/webhook.go`, `webhook_ops.go`, `cmd/bssadapter/webhook_worker.go`,
migrations 0021 and 0063).

Three loops of every adapter instance share the tables: one turns orders whose job has
ended into deliveries, one turns events into deliveries, one sends what is due.
`DispatchTMFEvents` is one statement, but not one step: it reads its candidates from a
snapshot, inserts one dispatch after the other, and commits them with their deliveries.
Where an insert meets the uncommitted row of another transaction it waits; here it is not
executed until then, or fails.

What a target answers and how a job has ended are the environment's choice.  `pass`
numbers, `listedBy`, `enqueuedBy`, `listed`, `ordersListedBy`, `matched` and `notifiedBy`
say who did what; they are recorded for the proofs only.
-/
import Acs.Bss.EventStream
import Acs.Bss.Order

namespace Acs.Bss

open EventStream (Env Envelope)

/-! ### Rows -/

/-- A row of `webhook_subscriptions`; no account means the whole fleet. -/
structure Subscription where
  id : String
  accountID : Option String := none
  eventTypes : List String

/-- `jobCompletedPayload` -/
structure JobCompleted where
  (eventType externalOrderID accountID action commandKey status : String)
  (completedAt faultCode faultString : Option String)

/-- The envelope of an event, with the older keys. -/
structure HubEvent where
  envelope : Envelope
  (eventID eventType : String)
  eventTime : Time
  sourceKey : String
  (accountID deviceID serviceID : Option String)
  event : String

inductive Payload where
  | jobCompleted (p : JobCompleted)
  | event (e : HubEvent)

inductive DeliveryStatus where
  | pending
  | delivered
  | failed
  deriving DecidableEq

/-- A row of `webhook_deliveries`. -/
structure WebhookDelivery where
  id : Nat
  (subscriptionID eventType : String)
  payload : Payload
  status : DeliveryStatus := .pending
  attempts : Nat := 0
  lastAttemptAt : Option Time := none
  lastError : Option String := none
  createdAt : Time
  listedBy : Option Nat := none
  enqueuedBy : Option Nat := none

/-- The key of `tmf_webhook_dispatches`. -/
structure Dispatch where
  (eventID subscriptionID : String)
  deriving DecidableEq

/-- A row of `candidates`. -/
structure Candidate where
  event : EventStream.Event
  subscriptionID : String

def Candidate.dispatch (c : Candidate) : Dispatch where
  eventID := c.event.id
  subscriptionID := c.subscriptionID

/-- A `DispatchTMFEvents` under way, with the dispatches it has inserted. -/
structure Dispatching where
  number : Nat
  claimed : List Candidate := []

/-- The tables of the three loops. -/
structure WebhookWorld where
  now : Time := 0
  subscriptions : List Subscription := []
  deliveries : List WebhookDelivery := []
  orders : OrderTable := []
  stream : EventStream.World := {}
  dispatches : List Dispatch := []
  dispatching : List Dispatching := []
  nextID : Nat := 0
  nextTx : Nat := 0
  passes : Nat := 0
  listed : List (Nat × Nat) := []
  ordersListedBy : AList (fun _ : String => Nat) := ∅
  matched : AList (fun _ : Nat × String => List String) := ∅
  notifiedBy : AList (fun _ : String => Nat) := ∅

/-! ### Statements on the tables -/

def maxDeliveryAttempts : Nat := 8

def webhookBatchSize : Nat := 50

def Subscription.wants (s : Subscription) (accountID : Option String) (eventType : String) : Bool :=
  (s.accountID = none ∨ (s.accountID.isSome ∧ s.accountID = accountID)) ∧ eventType ∈ s.eventTypes

def HubEvent.ofEvent (env : Env) (e : EventStream.Event) : HubEvent where
  envelope := e.envelope env
  eventID := e.id
  eventType := e.eventType
  eventTime := e.eventTime
  sourceKey := e.sourceKey
  accountID := e.accountID
  deviceID := e.deviceID
  serviceID := e.serviceID
  event := e.payload

namespace WebhookWorld

variable (w : WebhookWorld)

def dueDelivery (d : WebhookDelivery) : Bool :=
  d.status = .pending ∧ d.attempts < maxDeliveryAttempts ∧
    backoffElapsed w.now d.attempts d.lastAttemptAt ∧
    w.subscriptions.any (·.id = d.subscriptionID)

def dueDeliveries (limit : Nat) : List WebhookDelivery :=
  limitBy WebhookDelivery.createdAt limit (w.deliveries.filter w.dueDelivery)

/-- The pass that has listed them. -/
def listDeliveries (limit : Nat) : WebhookWorld :=
  { w with
    passes := w.passes + 1
    listed := w.listed ++ (w.dueDeliveries limit).map fun d => (w.passes, d.id)
    deliveries := w.deliveries.map fun d =>
      if d.id ∈ (w.dueDeliveries limit).map (·.id) then { d with listedBy := some w.passes }
      else d }

section

variable (subscriptionID : String) (id : Nat)

/-- An `UPDATE webhook_deliveries … WHERE id = $1`. -/
def updateDelivery (f : WebhookDelivery → WebhookDelivery) : WebhookWorld :=
  { w with deliveries := w.deliveries.map fun d => if d.id = id then f d else d }

def markDelivered : WebhookWorld :=
  w.updateDelivery id fun d =>
    { d with
      status := .delivered, attempts := d.attempts + 1, lastAttemptAt := some w.now
      listedBy := none }

def markAttemptFailed (reason : String) : WebhookWorld :=
  w.updateDelivery id fun d =>
    { d with
      attempts := d.attempts + 1
      lastAttemptAt := some w.now
      lastError := if reason = "" then none else some reason
      status := if d.attempts + 1 ≥ maxDeliveryAttempts then .failed else .pending
      listedBy := none }

def hasDelivery : Bool :=
  w.deliveries.any fun d => d.id = id ∧ d.subscriptionID = subscriptionID

def redeliver : WebhookWorld :=
  w.updateDelivery id fun d =>
    if d.subscriptionID = subscriptionID then
      { d with status := .pending, attempts := 0, lastAttemptAt := none, lastError := none }
    else d

end

/-- `CreateSubscription`; it fails if the id is taken. -/
def createSubscription (s : Subscription) : Option WebhookWorld :=
  if w.subscriptions.any (·.id = s.id) then none
  else some { w with subscriptions := w.subscriptions ++ [s] }

def matchingSubscriptions (accountID eventType : String) : List Subscription :=
  w.subscriptions.filter (·.wants (some accountID) eventType)

def addDelivery (subscriptionID eventType : String) (payload : Payload)
    (enqueuedBy : Option Nat := none) : WebhookWorld :=
  { w with
    nextID := w.nextID + 1
    deliveries := w.deliveries ++
      [{ id := w.nextID
         subscriptionID := subscriptionID
         eventType := eventType
         payload := payload
         createdAt := w.now
         enqueuedBy := enqueuedBy }] }

/-- The pass that has listed these orders. -/
def listOrders (limit : Nat) : WebhookWorld :=
  { w with
    passes := w.passes + 1
    ordersListedBy := (w.orders.unnotifiedOrders limit).foldl
      (fun m o => m.insert o.externalOrderID w.passes) w.ordersListedBy }

def noteMatched (pass : Nat) (orderID : String) (subs : List Subscription) : WebhookWorld :=
  { w with matched := w.matched.insert (pass, orderID) (subs.map (·.id)) }

def markOrderNotified (pass : Nat) (orderID : String) : WebhookWorld :=
  { w with
    orders := w.orders.markOrderNotified w.now orderID
    notifiedBy := w.notifiedBy.insert orderID pass }

/-- `dispatchOrder` has made a new order `DISPATCHED`. -/
def addOrder (o : OrderRecord) : Option WebhookWorld :=
  if (w.orders.findOrder o.externalOrderID).isSome then none
  else some { w with
    orders := w.orders ++ [{ o with
      status := .dispatched, createdAt := w.now, lastAttemptAt := some w.now, notifiedAt := none }] }

/-! #### `DispatchTMFEvents` -/

def candidates (since : Time) (limit : Nat) : List Candidate :=
  limitBy (·.event.eventTime) limit
    ((w.stream.events.flatMap fun e =>
      (w.subscriptions.filter (·.wants e.accountID e.eventType)).map fun s => ⟨e, s.id⟩).filter
        fun c => since ≤ c.event.eventTime ∧ c.dispatch ∉ w.dispatches)

def beginDispatch : WebhookWorld :=
  { w with nextTx := w.nextTx + 1, dispatching := w.dispatching ++ [{ number := w.nextTx }] }

/-- Another transaction has inserted the dispatch and not committed it. -/
def heldByOther (n : Nat) (p : Dispatch) : Bool :=
  w.dispatching.any fun t => t.number ≠ n ∧ p ∈ t.claimed.map (·.dispatch)

/-- One row of `INSERT … ON CONFLICT DO NOTHING`; whether it is returned. -/
def claimDispatch (n : Nat) (c : Candidate) : Option (Bool × WebhookWorld) :=
  match w.dispatching.find? (·.number = n) with
  | none => none
  | some t =>
    if w.heldByOther n c.dispatch then none
    else if c.dispatch ∈ w.dispatches ∨ c.dispatch ∈ t.claimed.map (·.dispatch) then some (false, w)
    else some (true, { w with dispatching := w.dispatching.map fun t =>
      if t.number = n then { t with claimed := t.claimed ++ [c] } else t })

/-- The deliveries of the claimed candidates, and the commit. -/
def commitDispatch (env : Env) (n : Nat) : Option (Nat × WebhookWorld) :=
  match w.dispatching.find? (·.number = n) with
  | none => none
  | some t =>
    let added := t.claimed.foldl (fun w c =>
      w.addDelivery c.subscriptionID c.event.eventType (.event (.ofEvent env c.event))) w
    some (t.claimed.length, { added with
      dispatches := w.dispatches ++ t.claimed.map (·.dispatch)
      dispatching := w.dispatching.filter (·.number ≠ n) })

def rollbackDispatch (n : Nat) : WebhookWorld :=
  { w with dispatching := w.dispatching.filter (·.number ≠ n) }

end WebhookWorld

/-! ### Statements -/

/-- `JobStatus` of the API. -/
structure JobStatusInfo where
  status : String
  completedAt : Option String := none
  faultCode : Option String := none
  faultString : Option String := none

inductive WebhookStmt where
  | dueDeliveries (limit : Nat)
  | send (pass : Nat) (d : WebhookDelivery)
  | markDelivered (pass id : Nat)
  | markAttemptFailed (pass id : Nat) (reason : String)
  | redeliver (subscriptionID : String) (id : Nat)
  | createSubscription (s : Subscription)
  | unnotifiedOrders (limit : Nat)
  | getJobStatus (commandKey : String)
  | matchingSubscriptions (pass : Nat) (orderID accountID eventType : String)
  | enqueueDelivery (pass : Nat) (subscriptionID : String) (payload : JobCompleted)
      (done subs : List String)
  | markOrderNotified (pass : Nat) (orderID : String) (subs : List String)
  | orderDispatched (o : OrderRecord)
  | insertEvent (e : EventStream.Event)
  | beginDispatch (since : Time) (limit : Nat)
  | claimDispatch (n : Nat) (c : Candidate)
  | commitDispatch (n : Nat)
  | rollbackDispatch (n : Nat)

/-- The answers; `none` is an error.  A target takes a delivery or the attempt has failed,
for a reason. -/
def WebhookStmt.Res : WebhookStmt → Type
  | .dueDeliveries _ => Option (Nat × List WebhookDelivery)
  | .send .. => Except String Unit
  | .redeliver .. => Option Bool
  | .unnotifiedOrders _ => Option (Nat × List OrderRecord)
  | .getJobStatus _ => Option JobStatusInfo
  | .matchingSubscriptions .. => Option (List Subscription)
  | .beginDispatch .. => Option (Nat × List Candidate)
  | .claimDispatch .. => Option Bool
  | .commitDispatch _ => Option Nat
  | _ => Option Unit

/-- What the environment decides about a statement: how much time has passed, what becomes
of it, what the target answers and how the job is. -/
structure WebhookChoice where
  elapsed : Nat := 0
  delivery : Delivery := .executed
  answered : Except String Unit := .ok ()
  job : JobStatusInfo := { status := "SUCCESS" }

section

variable (env : Env) (s : WebhookStmt) (ch : WebhookChoice) (w : WebhookWorld)

def WebhookWorld.later (elapsed : Nat) : WebhookWorld :=
  { w with now := w.now + elapsed }

def WebhookStmt.execNow (ch : WebhookChoice) : (s : WebhookStmt) → s.Res × WebhookWorld
  | .dueDeliveries limit =>
    ch.delivery.deliver (w.passes, w.dueDeliveries limit) w (w.listDeliveries limit)
  | .send .. => (ch.answered, w)
  | .markDelivered _ id => ch.delivery.deliver () w (w.markDelivered id)
  | .markAttemptFailed _ id reason => ch.delivery.deliver () w (w.markAttemptFailed id reason)
  | .redeliver subscriptionID id =>
    ch.delivery.deliver (w.hasDelivery subscriptionID id) w (w.redeliver subscriptionID id)
  | .createSubscription s => ch.delivery.attempt w ((w.createSubscription s).map ((), ·))
  | .unnotifiedOrders limit =>
    ch.delivery.deliver (w.passes, w.orders.unnotifiedOrders limit) w (w.listOrders limit)
  | .getJobStatus _ => ch.delivery.deliver ch.job w w
  | .matchingSubscriptions pass orderID accountID eventType =>
    ch.delivery.deliver (w.matchingSubscriptions accountID eventType) w
      (w.noteMatched pass orderID (w.matchingSubscriptions accountID eventType))
  | .enqueueDelivery pass subscriptionID payload _ _ =>
    ch.delivery.deliver () w
      (w.addDelivery subscriptionID "JOB_COMPLETED" (.jobCompleted payload) (some pass))
  | .markOrderNotified pass orderID _ => ch.delivery.deliver () w (w.markOrderNotified pass orderID)
  | .orderDispatched o => ch.delivery.attempt w ((w.addOrder o).map ((), ·))
  | .insertEvent e =>
    ch.delivery.attempt w ((w.stream.insert env e).map fun stream => ((), { w with stream }))
  | .beginDispatch since limit =>
    ch.delivery.deliver (w.nextTx, w.candidates since limit) w w.beginDispatch
  | .claimDispatch n c => ch.delivery.attempt w (w.claimDispatch n c)
  | .commitDispatch n => ch.delivery.attempt w (w.commitDispatch env n)
  | .rollbackDispatch n => (some (), w.rollbackDispatch n)

/-- Executing a statement, at the time it is executed. -/
def WebhookStmt.exec : s.Res × WebhookWorld :=
  s.execNow env (w.later ch.elapsed) ch

open WebhookStmt
open Prog (perform each)

abbrev WebhookProg := Prog Res

/-! ### The loops -/

/-- One delivery of `deliverDueWebhooks`. -/
def deliverWebhook (pass : Nat) (d : WebhookDelivery) : WebhookProg Unit := do
  match ← perform (send pass d) with
  | .ok _ =>
    let _ ← perform (markDelivered pass d.id)
  | .error reason =>
    let _ ← perform (markAttemptFailed pass d.id reason)

def deliverDueWebhooks : WebhookProg Unit := do
  match ← perform (dueDeliveries webhookBatchSize) with
  | none => pure ()
  | some (pass, deliveries) => each deliveries (deliverWebhook pass)

def isTerminalJobStatus (status : String) : Bool :=
  status = "SUCCESS" ∨ status = "FAILED" ∨ status = "TIMEOUT"

/-- The inner loop of `notifyTerminalOrders`; a failed enqueue is only logged. -/
def enqueueDeliveries (pass : Nat) (payload : JobCompleted) (subs : List String) :
    List String → List String → WebhookProg Unit
  | _, [] => pure ()
  | done, sub :: rest => do
    let _ ← perform (enqueueDelivery pass sub payload done subs)
    enqueueDeliveries pass payload subs (done ++ [sub]) rest

def notifyTerminalOrder (pass : Nat) (order : OrderRecord) : WebhookProg Unit := do
  match ← perform (getJobStatus order.commandKey) with
  | none => pure ()
  | some job =>
    if isTerminalJobStatus job.status = false then pure ()
    else match ← perform (matchingSubscriptions pass order.externalOrderID
        order.accountID "JOB_COMPLETED") with
      | none => pure ()
      | some subs =>
        let payload : JobCompleted :=
          { eventType := "JOB_COMPLETED"
            externalOrderID := order.externalOrderID
            accountID := order.accountID
            action := order.action
            commandKey := order.commandKey
            status := job.status
            completedAt := job.completedAt
            faultCode := job.faultCode
            faultString := job.faultString }
        enqueueDeliveries pass payload (subs.map (·.id)) [] (subs.map (·.id))
        let _ ← perform
          (markOrderNotified pass order.externalOrderID (subs.map (·.id)))

def notifyTerminalOrders : WebhookProg Unit := do
  match ← perform (unnotifiedOrders webhookBatchSize) with
  | none => pure ()
  | some (pass, orders) => each orders (notifyTerminalOrder pass)

/-- The candidates one after the other; whether all went well. -/
def claimDispatches (n : Nat) : List Candidate → WebhookProg Bool
  | [] => pure true
  | c :: cs => do
    match ← perform (claimDispatch n c) with
    | none => pure false
    | some _ => claimDispatches n cs

def dispatchLimit (limit : Int) : Nat :=
  if limit ≤ 0 ∨ limit > 500 then 100 else limit.toNat

def dispatchTMFEvents (since : Time) (limit : Int) : WebhookProg Unit := do
  match ← perform (beginDispatch since (dispatchLimit limit)) with
  | none => pure ()
  | some (n, candidates) =>
    match ← claimDispatches n candidates with
    | true => match ← perform (commitDispatch n) with
      | some _ => pure ()
      | none =>
        let _ ← perform (rollbackDispatch n)
    | false =>
      let _ ← perform (rollbackDispatch n)

/-! ### Any number of instances -/

/-- What runs on the tables.  `rollback` is the server that gives up a connection. -/
inductive WebhookTask where
  | deliver
  | notify
  | dispatch (since : Time) (limit : Int)
  | redeliver (subscriptionID : String) (id : Nat)
  | createSubscription (s : Subscription)
  | orderDispatched (o : OrderRecord)
  | insertEvent (e : EventStream.Event)
  | rollback (n : Nat)

/-- A task of one statement. -/
def single : WebhookProg Unit :=
  .stmt s fun _ => pure ()

def WebhookTask.prog : WebhookTask → WebhookProg Unit
  | .deliver => deliverDueWebhooks
  | .notify => notifyTerminalOrders
  | .dispatch since limit => dispatchTMFEvents since limit
  | .redeliver subscriptionID id => single (.redeliver subscriptionID id)
  | .createSubscription s => single (.createSubscription s)
  | .orderDispatched o => single (.orderDispatched o)
  | .insertEvent e => single (.insertEvent e)
  | .rollback n => single (.rollbackDispatch n)

abbrev WebhookAction := Pool.Action WebhookTask WebhookChoice

abbrev WebhookEvent := Pool.Event Res WebhookWorld

def webhookTrace (as : List WebhookAction) (w : WebhookWorld) : List WebhookEvent :=
  (Pool.run (WebhookStmt.exec env) WebhookTask.prog as ⟨w, []⟩).1

end

end Acs.Bss
