/-
The subscription reconciler (`cmd/uspc/subscriptions.go`, `Reconcile` of
`internal/subscriptions`).

A pass reads the agent's `Device.LocalAgent.Subscription.` table with one Get, compares the
answer with the desired rows, and deletes and adds.  `pending` and `inFlight` are two maps
under one lock; a pass takes the lock several times, with a query and a send in between, so
each time is a statement of its own.
-/
import Acs.Lib.Pool
import Acs.Lib.Text
import Acs.Uspc.Connection

namespace Acs.Uspc

open Prog

/-! ### Desired rows -/

/-- What the CHECK on `notif_type` allows. -/
inductive NotifType where
  | valueChange
  | objectCreation
  | objectDeletion
  | operationComplete
  | event

def NotifType.text : NotifType → String
  | .valueChange => "ValueChange"
  | .objectCreation => "ObjectCreation"
  | .objectDeletion => "ObjectDeletion"
  | .operationComplete => "OperationComplete"
  | .event => "Event"

/-- A row of `usp_subscriptions`. -/
structure Subscription where
  id : String
  notifType : NotifType
  referenceList : List String := []
  persistent : Bool := false

/-! ### Fingerprints -/

/-- `strconv.FormatBool` -/
def formatBool (b : Bool) : String :=
  if b then "true" else "false"

/-- `strconv.ParseBool` -/
def parseBool (s : String) : Option Bool :=
  if s ∈ ["1", "t", "T", "TRUE", "true", "True"] then some true
  else if s ∈ ["0", "f", "F", "FALSE", "false", "False"] then some false
  else none

def joinReferenceList (refs : List String) : String :=
  Text.join refs ","

def splitReferenceList (s : String) : List String :=
  if s = "" then [] else Text.split s ','

def subscriptionFingerprint (notifType : String) (persistent : Bool) (refs : List String) : String :=
  notifType ++ "|" ++ formatBool persistent ++ "|" ++ joinReferenceList refs

def splitFingerprint (fp : String) : String × Bool × List String :=
  let notifType := Text.cut fp '|'
  let persistent := Text.cut notifType.2 '|'
  (notifType.1, (parseBool persistent.1).getD false, splitReferenceList persistent.2)

/-- `subscriptions.Item` -/
structure Item where
  (key fingerprint : String)
  deriving DecidableEq

def Subscription.item (sub : Subscription) : Item where
  key := sub.id
  fingerprint := subscriptionFingerprint sub.notifType.text sub.persistent sub.referenceList

/-- A map of items by their keys, filled in order: the last item with the key. -/
def byKey (items : List Item) (key : String) : Option Item :=
  items.reverse.find? (·.key = key)

/-- `subscriptions.Reconcile`: what is to be added and what removed. -/
def diff (desired actual : List Item) : List Item × List Item :=
  (desired.filter fun d => (byKey actual d.key).all (·.fingerprint ≠ d.fingerprint),
    actual.filter fun a => (byKey desired a.key).all (·.fingerprint ≠ a.fingerprint))

/-! ### The agent's answer -/

/-- `GetResp.ResolvedPathResult` -/
structure ResolvedPathResult where
  resolvedPath : String
  resultParams : AList fun _ : String => String
  deriving DecidableEq

/-- `params[name]` -/
def ResolvedPathResult.param (r : ResolvedPathResult) (name : String) : String :=
  (r.resultParams.lookup name).getD ""

structure RequestedPathResult where
  errCode : Nat := 0
  resolvedPathResults : List ResolvedPathResult := []

structure GetResp where
  reqPathResults : List RequestedPathResult

section

variable (isUUID : String → Bool) (desired : List Item) (resp : GetResp)

def GetResp.resolved : List ResolvedPathResult :=
  resp.reqPathResults.flatMap (·.resolvedPathResults)

def ResolvedPathResult.item (r : ResolvedPathResult) : Item where
  key := r.param "ID"
  fingerprint := subscriptionFingerprint (r.param "NotifType")
    ((parseBool (r.param "Persistent")).getD false) (splitReferenceList (r.param "ReferenceList"))

/-- The instances of this controller, for a given `uuid.Parse`. -/
def GetResp.owned : List ResolvedPathResult :=
  resp.resolved.filter fun r => isUUID (r.param "ID")

def actualSubscriptionItems : List Item × AList fun _ : String => String :=
  ((resp.owned isUUID).map (·.item),
    (resp.owned isUUID).foldl (fun m r => m.insert (r.param "ID") r.resolvedPath) ∅)

/-! ### Messages -/

def subscriptionRootPath : String := "Device.LocalAgent.Subscription."

inductive Message where
  | get (path : String) (maxDepth : Nat)
  | delete (objPath : String)
  | add (objPath : String) (params : AList fun _ : String => String)
  deriving DecidableEq

/-- The parameters of an Add. -/
def addParams (item : Item) : AList fun _ : String => String :=
  let fp := splitFingerprint item.fingerprint
  AList.insert "ID" item.key <| AList.insert "Enable" "true" <| AList.insert "NotifType" fp.1 <|
    AList.insert "ReferenceList" (joinReferenceList fp.2.2) <|
      AList.insert "Persistent" (formatBool fp.2.1) ∅

/-- What `handleReadResponse` sends, each for the subscription it is about. -/
def readMessages : List (String × Message) :=
  if resp.reqPathResults.any (·.errCode ≠ 0) then []
  else
    let actual := actualSubscriptionItems isUUID resp
    let changes := diff desired actual.1
    (changes.2.filterMap fun item =>
      (actual.2.lookup item.key).map fun path => (item.key, .delete path)) ++
    changes.1.map fun item => (item.key, .add subscriptionRootPath (addParams item))

end

/-! ### Passes -/

/-- `pendingKind` -/
inductive PendingKind where
  | read
  | add
  | delete
  deriving DecidableEq

structure PendingSubscribe where
  conn : Conn
  deviceID : String
  kind : PendingKind
  desired : List Item := []
  key : String := ""
  deriving DecidableEq

def PendingSubscribe.reads (e : PendingSubscribe) (deviceID : String) : Bool :=
  e.kind = .read ∧ e.deviceID = deviceID

/-- The reads and the passes under way. -/
structure Reconciler where
  pending : AList fun _ : String => PendingSubscribe := ∅
  inFlight : AList fun _ : String => Conn := ∅

namespace Reconciler

variable (s : Reconciler)

/-- The first section of `reconcile`: whether a pass starts.  One of another connection is
superseded. -/
def start (deviceID : String) (conn : Conn) : Bool × Reconciler :=
  match s.inFlight.lookup deviceID with
  | none => (true, { s with inFlight := s.inFlight.insert deviceID conn })
  | some existing =>
    if existing = conn then (false, s)
    else (true, {
      pending := Assoc.select (fun _ e => !(e.reads deviceID && e.conn = existing)) s.pending
      inFlight := s.inFlight.insert deviceID conn })

/-- `clearInFlightIfOwnedBy` -/
def clear (deviceID : String) (conn : Conn) : Reconciler :=
  if s.inFlight.lookup deviceID = some conn then
    { s with inFlight := s.inFlight.erase deviceID }
  else s

/-- The section of `handleResponse`. -/
def take (msgID : String) : Option PendingSubscribe × Reconciler :=
  match s.pending.lookup msgID with
  | none => (none, s)
  | some entry =>
    let s := { s with pending := s.pending.erase msgID }
    (some entry, if entry.kind = .read then s.clear entry.deviceID entry.conn else s)

/-- `forget` -/
def forget (c : Conn) : Reconciler where
  pending := Assoc.select (fun _ e => e.conn ≠ c) s.pending
  inFlight := Assoc.select (fun deviceID conn => !(conn = c &&
    s.pending.entries.any fun e => e.2.reads deviceID && e.2.conn = c)) s.inFlight

end Reconciler

/-- The sections under the lock, the query and the sends. -/
inductive SubStmt where
  | start (deviceID : String) (conn : Conn)
  | byDevice (deviceID : String)
  /-- The entry goes under a new message id. -/
  | register (entry : PendingSubscribe)
  /-- `conn.Send`, of a message about the device. -/
  | send (conn : Conn) (deviceID msgID : String) (msg : Message)
  | drop (msgID : String)
  | clear (deviceID : String) (conn : Conn)
  | take (msgID : String)
  | forget (c : Conn)

/-- The answer to a statement. -/
def SubStmt.Res : SubStmt → Type
  | .start .. => Bool
  | .byDevice _ => Option (List Subscription)
  | .register _ => String
  | .send .. => Bool
  | .take _ => Option PendingSubscribe
  | _ => Unit

/-- What the environment decides: the desired rows, new message ids, and whether a message
can be sent. -/
structure SubChoice where
  rows : Option (List Subscription) := none
  msgID : String := ""
  sent : Bool := true

def SubStmt.exec : (s : SubStmt) → SubChoice → Reconciler → s.Res × Reconciler
  | .start deviceID conn, _, s => s.start deviceID conn
  | .byDevice _, c, s => (c.rows, s)
  | .register entry, c, s => (c.msgID, { s with pending := s.pending.insert c.msgID entry })
  | .send .., c, s => (c.sent, s)
  | .drop msgID, _, s => ((), { s with pending := s.pending.erase msgID })
  | .clear deviceID conn, _, s => ((), s.clear deviceID conn)
  | .take msgID, _, s => s.take msgID
  | .forget c, _, s => ((), s.forget c)

open SubStmt

abbrev SubProg := Prog Res

/-- `reconcile` -/
def reconcile (deviceID : String) (conn : Conn) : SubProg Unit := do
  match ← perform (start deviceID conn) with
  | false => pure ()
  | true =>
    match ← perform (byDevice deviceID) with
    | none => perform (clear deviceID conn)
    | some rows => do
      let msgID ← perform (register
        { conn := conn, deviceID := deviceID, kind := .read, desired := rows.map (·.item) })
      match ← perform (send conn deviceID msgID (.get subscriptionRootPath 1)) with
      | true => pure ()
      | false => do
        perform (drop msgID)
        perform (clear deviceID conn)

/-- `send` -/
def sendMessage (conn : Conn) (deviceID key : String) (kind : PendingKind) (msg : Message) :
    SubProg Unit := do
  let msgID ← perform (register { conn := conn, deviceID := deviceID, kind := kind, key := key })
  match ← perform (send conn deviceID msgID msg) with
  | true => pure ()
  | false => perform (drop msgID)

/-- What an agent answers; only a GetResp is looked into. -/
inductive Answer where
  | error
  | getResp (resp : GetResp)
  | other

section

variable (isUUID : String → Bool)

/-- `handleReadResponse` -/
def handleReadResponse (entry : PendingSubscribe) (resp : GetResp) : SubProg Unit :=
  Prog.each (readMessages isUUID entry.desired resp) fun m =>
    sendMessage entry.conn entry.deviceID m.1
      (match m.2 with | .delete _ => .delete | _ => .add) m.2

/-- `handleResponse` -/
def handleResponse (msgID : String) (answer : Answer) : SubProg Unit := do
  match ← perform (take msgID) with
  | none => pure ()
  | some entry =>
    match entry.kind, answer with
    | .read, .getResp resp => handleReadResponse isUUID entry resp
    | _, _ => pure ()

/-- What the reconciler is called for. -/
inductive SubTask where
  | reconcile (deviceID : String) (conn : Conn)
  | response (msgID : String) (answer : Answer)
  | disconnect (c : Conn)

def SubTask.prog : SubTask → SubProg Unit
  | .reconcile deviceID conn => Uspc.reconcile deviceID conn
  | .response msgID answer => handleResponse isUUID msgID answer
  | .disconnect c => perform (SubStmt.forget c)

abbrev SubAction := Pool.Action SubTask SubChoice

abbrev SubEvent := Pool.Event Res Reconciler

/-- The statements of a run that starts with nothing pending. -/
def subTrace (as : List SubAction) : List SubEvent :=
  (Pool.run SubStmt.exec (SubTask.prog isUUID) as ⟨{}, []⟩).1

end

end Acs.Uspc
