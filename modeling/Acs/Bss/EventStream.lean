/-
The event stream of an integration (`internal/bss/events.go`, `cmd/bssadapter/events.go`,
`pruneEvents` of `internal/retention`, the trigger of migration 0090).

Every event is numbered in the stream of its customer.  The row with the counter stays
locked until the insert commits, so the numbers become visible in order, and an insert is one
step: its commit.  One that loses the race for its `source_key` still uses up a number.

A page is two SELECTs; retention raises `purged_through` and then deletes in batches.

`inserted` holds every event there ever was, and `seen` in the second SELECT of a page is
what its first one answered; both are recorded for the proofs only.
-/
import Acs.Jobs.Job
import Acs.Lib.Assoc
import Acs.Lib.Growing
import Acs.Lib.Limit

namespace Acs.EventStream

open Prog

/-- A row of `tmf_events`. -/
structure Event where
  (id sourceKey : String)
  customerID : Option String := none
  accountID : Option String := none
  deviceID : Option String := none
  serviceID : Option String := none
  eventType : String := ""
  eventTime : Time := 0
  payload : String := ""
  seq : Nat := 0
  deriving DecidableEq

/-- `COALESCE(customer_id::text, '')`: the stream the event belongs to. -/
def Event.scope (e : Event) : String :=
  e.customerID.getD ""

/-- A row of `tmf_event_sequences`, by its scope. -/
structure Sequence where
  lastSeq : Nat := 0
  purgedThrough : Nat := 0

/-- What the trigger and the envelope look up: the owners of accounts and devices, and the
devices' names. -/
structure Env where
  (accountCustomer deviceCustomer ouiSerial : String → Option String)

/-- The events and the counters of their streams. -/
structure World where
  events : List Event := []
  sequences : AList fun _ : String => Sequence := ∅
  inserted : List Event := []

namespace World

variable (w : World)

def sequence (scope : String) : Sequence :=
  (w.sequences.lookup scope).getD {}

/-- The customer the trigger infers. -/
def customerFor (env : Env) (e : Event) : Option String :=
  (e.customerID.or (e.accountID.bind env.accountCustomer)).or (e.deviceID.bind env.deviceCustomer)

/-- `INSERT … ON CONFLICT (source_key) DO NOTHING`, with its trigger.  It fails if the id is
taken. -/
def insert (env : Env) (e : Event) : Option World :=
  let owned := { e with customerID := customerFor env e }
  let sq := w.sequence owned.scope
  let numbered := { owned with seq := sq.lastSeq + 1 }
  let counted := { w with
    sequences := w.sequences.insert owned.scope { sq with lastSeq := sq.lastSeq + 1 } }
  if w.events.any (·.sourceKey = e.sourceKey) then some counted
  else if w.events.any (·.id = e.id) then none
  else some { counted with
    events := w.events ++ [numbered], inserted := w.inserted ++ [numbered] }

end World

/-! ### Pages -/

/-- Whose events are read; `none` for the accounts means all of them. -/
structure Query where
  customerID : String
  accounts : Option (List String) := none

/-- The event is one of the stream that is read. -/
def Query.holds (q : Query) (e : Event) : Bool :=
  e.scope = q.customerID ∧ q.accounts.all fun accounts => e.accountID.any (· ∈ accounts)

/-- The second SELECT of `EventsAfter`. -/
def World.eventsAfter (w : World) (q : Query) (after limit : Nat) : List Event :=
  limitBy Event.seq limit (w.events.filter fun e => q.holds e ∧ after < e.seq)

/-- `EventEnvelope`; the device with its name. -/
structure Envelope where
  (id type : String)
  occurredAt : Time
  sequence : Nat
  (customerID accountID : Option String)
  device : Option (String × String)
  data : String

def Event.envelope (env : Env) (e : Event) : Envelope where
  id := e.id
  type := e.eventType
  occurredAt := e.eventTime
  sequence := e.seq
  customerID := e.customerID
  accountID := e.accountID
  device := e.deviceID.map fun d => (d, (env.ouiSerial d).getD "")
  data := e.payload

/-- `eventPageResponse` -/
structure PageResponse where
  events : List Envelope
  (nextAfter latestSequence purgedThrough : Nat)
  gap : Bool

/-! ### Statements -/

/-- What a client has read so far.  Its events are kept as the rows they were made of. -/
structure Reader where
  query : Query
  (start after : Nat)
  received : List Event := []
  gap : Bool := false

inductive Stmt where
  | insert (e : Event)
  | readSequence (scope : String)
  | selectEvents (q : Query) (after limit : Nat) (seen : Sequence)
  | scopes
  | purgeBound (scope : String) (cutoff : Time)
  | raisePurged (scope : String) (through : Nat)
  | deleteBatch (scope : String) (through : Nat)
  /-- The client has taken a page. -/
  | taken (r : Reader)

/-- The answer to a statement; `none` is an error. -/
def Stmt.Res : Stmt → Type
  | .insert _ | .raisePurged .. => Option Unit
  | .readSequence _ => Option (Option Sequence)
  | .selectEvents .. => Option (List Event)
  | .scopes => Option (List (String × Sequence))
  | .purgeBound .. => Option (Option Nat)
  | .deleteBatch .. => Option Nat
  | .taken _ => Unit

/-- `batchSize` of the retention. -/
def batchSize : Nat := 5000

namespace World

variable (w : World)

section

variable (scope : String) (through : Nat)

/-- Up to which number the stream may be purged: below its first event since `cutoff`. -/
def purgeBound (cutoff : Time) : Option Nat :=
  let stream := w.events.filter (·.scope = scope)
  ((stream.filter (cutoff ≤ ·.eventTime)).map (·.seq - 1)).min?.or (stream.map (·.seq)).max?

/-- `SET purged_through = GREATEST(purged_through, $2) WHERE scope = $1`. -/
def raisePurged : World :=
  { w with sequences := Assoc.mapValues (fun s sq =>
      if s = scope then { sq with purgedThrough := max sq.purgedThrough through } else sq) w.sequences }

/-- The ids of the next events to delete, lowest numbers first. -/
def purgeBatch : List String :=
  (limitBy Event.seq batchSize
    (w.events.filter fun e => e.scope = scope ∧ e.seq ≤ through)).map (·.id)

def deleteBatch : World :=
  { w with events := w.events.filter (·.id ∉ w.purgeBatch scope through) }

end

end World

def Stmt.exec (env : Env) : (s : Stmt) → Delivery → World → s.Res × World
  | .insert e, d, w => d.attempt w ((w.insert env e).map ((), ·))
  | .readSequence scope, d, w => d.deliver (w.sequences.lookup scope) w w
  | .selectEvents q after limit _, d, w => d.deliver (w.eventsAfter q after limit) w w
  | .scopes, d, w => d.deliver (w.sequences.entries.map fun e => (e.1, e.2)) w w
  | .purgeBound scope cutoff, d, w => d.deliver (w.purgeBound scope cutoff) w w
  | .raisePurged scope through, d, w => d.deliver () w (w.raisePurged scope through)
  | .deleteBatch scope through, d, w =>
    d.deliver (w.purgeBatch scope through).length w (w.deleteBatch scope through)
  | .taken _, _, w => ((), w)

abbrev StreamProg (α : Type) := Prog Stmt.Res α

/-! ### Reading -/

/-- The limit `EventsAfter` uses. -/
def pageLimit (limit : Int) : Nat :=
  if limit ≤ 0 ∨ 500 < limit then 100 else limit.toNat

/-- `EventsAfter`: the events, and the row of the counters (zeros if there is none). -/
def eventsAfter (q : Query) (after : Nat) (limit : Int) :
    StreamProg (Option (List Event × Sequence)) := do
  match ← perform (Stmt.readSequence q.customerID) with
  | none => return none
  | some sq =>
    match ← perform (Stmt.selectEvents q after (pageLimit limit) (sq.getD {})) with
    | none => return none
    | some events => return some (events, sq.getD {})

/-- The claims of a client's token. -/
structure Claims where
  customerID : String := ""
  globalAccess : Bool := false
  accountIDs : Option (List String) := none

/-- A request for a page.  `after` is the number in the query, if it is one, and `limit` what
`strconv.Atoi` makes of it. -/
structure PageRequest where
  claims : Claims
  customerID : String := ""
  after : Option Int := some 0
  limit : Int := 0

structure ApiError where
  status : Nat
  (code text : String)

/-- The stream the client may read. -/
def Claims.stream (claims : Claims) (customerID : String) : Except ApiError Query :=
  if claims.customerID ≠ "" then
    if customerID ≠ "" ∧ customerID ≠ claims.customerID then
      .error ⟨404, "ErrNotFound", "resource not found"⟩
    else .ok ⟨claims.customerID, claims.accountIDs⟩
  else if !claims.globalAccess then
    .error ⟨403, "ErrReplayNeedsCustomer", "event replay needs a customer-bound or global client"⟩
  else .ok ⟨customerID, claims.accountIDs⟩

/-- The number of the last event, or where the page began. -/
def nextAfter (after : Nat) (events : List Event) : Nat :=
  (events.getLast?.map (·.seq)).getD after

/-- `listEvents`, after the authorisation.  The rows are returned with the response, for the
reader's record of them. -/
def listEvents (env : Env) (req : PageRequest) :
    StreamProg (Except ApiError (PageResponse × List Event)) :=
  match req.claims.stream req.customerID with
  | .error e => .done (.error e)
  | .ok q =>
    match req.after with
    | some (.ofNat after) => do
      match ← eventsAfter q after req.limit with
      | none => return .error ⟨500, "ErrInternal", "internal error"⟩
      | some (events, sq) =>
        return .ok ({
          events := events.map (Event.envelope env), nextAfter := nextAfter after events
          latestSequence := sq.lastSeq, purgedThrough := sq.purgedThrough
          gap := after < sq.purgedThrough }, events)
    | _ =>
      .done (.error ⟨400, "ErrInvalidRequest", "after must be a non-negative sequence number"⟩)

/-- A client that asks for one page after the other, each from where the last one ended, with
the given limits.  After an error it asks again. -/
def replay (env : Env) (claims : Claims) (customerID : String) :
    List Int → Reader → StreamProg Unit
  | [], _ => .done ()
  | limit :: limits, r => do
    match ← listEvents env { claims, customerID, after := some r.after, limit } with
    | .error _ => replay env claims customerID limits r
    | .ok (page, events) =>
      let r' : Reader := { r with
        after := page.nextAfter, received := r.received ++ events, gap := r.gap || page.gap }
      let _ ← perform (Stmt.taken r')
      replay env claims customerID limits r'

/-! ### Retention -/

/-- The loop of DELETEs, for at most `rounds` rounds: then the process is stopped. -/
def deleteBatches (scope : String) (through : Nat) : Nat → StreamProg Bool
  | 0 => .done false
  | rounds + 1 => do
    match ← perform (Stmt.deleteBatch scope through) with
    | none => return false
    | some n => if n < batchSize then return true else deleteBatches scope through rounds

/-- One stream; whether to go on with the next. -/
def pruneScope (cutoff : Time) (rounds : Nat) (scope : String) (purged : Nat) :
    StreamProg Bool := do
  match ← perform (Stmt.purgeBound scope cutoff) with
  | none => return false
  | some none => return true
  | some (some through) =>
    if through ≤ purged then return true
    else
      match ← perform (Stmt.raisePurged scope through) with
      | none => return false
      | some _ => deleteBatches scope through rounds

def pruneScopes (cutoff : Time) (rounds : Nat) : List (String × Sequence) → StreamProg Unit
  | [] => .done ()
  | (scope, sq) :: rest => do
    if ← pruneScope cutoff rounds scope sq.purgedThrough then pruneScopes cutoff rounds rest
    else return ()

def pruneEvents (cutoff : Time) (rounds : Nat) : StreamProg Unit := do
  match ← perform Stmt.scopes with
  | none => return ()
  | some scopes => pruneScopes cutoff rounds scopes

/-! ### Runs -/

inductive Task where
  | insert (e : Event)
  | prune (cutoff : Time) (rounds : Nat)
  | read (claims : Claims) (customerID : String) (start : Nat) (limits : List Int)

def Task.prog (env : Env) : Task → StreamProg Unit
  | .insert e => do
    let _ ← perform (Stmt.insert e)
  | .prune cutoff rounds => pruneEvents cutoff rounds
  | .read claims customerID start limits =>
    replay env claims customerID limits
      { query := (claims.stream customerID).toOption.getD ⟨customerID, none⟩, start, after := start }

abbrev Action := Pool.Action Task Delivery
abbrev StreamEvent := Pool.Event Stmt.Res World

/-- The statements of a run. -/
def trace (env : Env) (as : List Action) (w : World) : List StreamEvent :=
  (Pool.run (Stmt.exec env) (Task.prog env) as ⟨w, []⟩).1

end Acs.EventStream
