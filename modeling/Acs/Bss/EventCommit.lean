/-
How events are numbered in transactions (the trigger `tmf_events_assign_sequence` and the
numbering of the events there were before, migration 0090; `CreateCustomerEvent` of
`internal/bss/events.go`).

An INSERT into `tmf_events` is two steps.  The trigger takes the next number from the
counter row of the stream, and from then on the transaction holds the lock of that row;
then the event is put into the indexes of the table, or dropped if its `source_key` is
there.  A step that has to wait for another transaction cannot be taken.
-/
import Acs.Bss.EventStream

namespace Acs.EventStream

/-- What an INSERT gives to the trigger. -/
inductive Insertion where
  /-- `CreateEvent` and `emit_device_event` -/
  | event (e : Event)
  /-- `CreateCustomerEvent` -/
  | customerEvent (customerID : String) (e : Event)

/-- The row of the INSERT.  The account and the device of a customer's event are left out
if they belong to another customer. -/
def Insertion.row (env : Env) : Insertion → Event
  | .event e => e
  | .customerEvent customerID e =>
    if customerID = "" then { e with customerID := none, serviceID := none }
    else { e with
      customerID := some customerID
      accountID := e.accountID.filter fun a => (env.accountCustomer a).getD customerID = customerID
      deviceID := e.deviceID.filter fun d => (env.deviceCustomer d).getD customerID = customerID
      serviceID := none }

/-- An open transaction: its own versions of the counter rows, which it has locked, the
events it has inserted, and the one the trigger has numbered last. -/
structure Transaction where
  sequences : AList fun _ : String => Sequence := ∅
  events : List Event := []
  pending : Option Event := none

structure Database where
  world : World
  underway : AList fun _ : String => Transaction := ∅

/-- One of the unique indexes of `tmf_events` refuses the two together. -/
def Event.clashes (a b : Event) : Bool :=
  a.id = b.id ∨ a.sourceKey = b.sourceKey ∨ (a.scope = b.scope ∧ a.seq = b.seq)

/-! ### Events from before the migration -/

/-- `ORDER BY event_time, id` -/
def Event.before (a b : Event) : Bool :=
  a.eventTime < b.eventTime ∨ (a.eventTime = b.eventTime ∧ a.id ≤ b.id)

/-- How many of the first `n` rows are of the stream. -/
def rowNumber (sorted : List Event) (n : Nat) (scope : String) : Nat :=
  ((sorted.take n).filter (·.scope = scope)).length

/-- `row_number() OVER (PARTITION BY COALESCE(customer_id::text, ''))` of sorted rows. -/
def rowNumbers (sorted : List Event) : List Event :=
  sorted.mapIdx fun i e => { e with seq := rowNumber sorted (i + 1) e.scope }

/-- `SELECT COALESCE(customer_id::text, ''), max(seq) … GROUP BY 1` -/
def maxSeq (events : List Event) (scope : String) : Nat :=
  ((events.filter (·.scope = scope)).map (·.seq)).foldr max 0

def counters (events : List Event) : AList fun _ : String => Sequence :=
  (events.map (·.scope)).foldr (fun scope m => m.insert scope { lastSeq := maxSeq events scope }) ∅

/-- The customer an event from before belongs to. -/
def Event.backfilled (env : Env) (e : Event) : Event :=
  { e with customerID := (e.accountID.bind env.accountCustomer).or (e.deviceID.bind env.deviceCustomer) }

def migrate (env : Env) (old : List Event) : Database :=
  let numbered := rowNumbers ((old.map (·.backfilled env)).mergeSort Event.before)
  { world := { events := numbered, sequences := counters numbered, inserted := numbered } }

/-! ### Transactions -/

namespace Database

variable (db : Database)

/-- Another transaction than `t` holds the counter row. -/
def locked (t scope : String) : Bool :=
  db.underway.entries.any fun o => o.1 ≠ t ∧ (o.2.sequences.lookup scope).isSome

section

variable (t : String) (tx : Transaction) (env : Env) (e : Event)

/-- Another transaction than `t` has inserted an event that clashes with `e`. -/
def clashing : Bool :=
  db.underway.entries.any fun o => o.1 ≠ t ∧ o.2.events.any (·.clashes e)

def put : Database :=
  { db with underway := db.underway.insert t tx }

def rollback : Database :=
  { db with underway := db.underway.erase t }

/-- The trigger: an upsert of the counter row, which waits for its lock. -/
def assign : Option Database :=
  let owned := { e with customerID := World.customerFor env e }
  if tx.pending.isSome || db.locked t owned.scope then none
  else
    let sq := (tx.sequences.lookup owned.scope).getD (db.world.sequence owned.scope)
    some (db.put t { tx with
      sequences := tx.sequences.insert owned.scope { sq with lastSeq := sq.lastSeq + 1 }
      pending := some { owned with seq := sq.lastSeq + 1 } })

/-- `ON CONFLICT (source_key) DO NOTHING`.  An event that another unique index refuses ends
the transaction. -/
def insert : Option Database :=
  match tx.pending with
  | none => none
  | some e =>
    if (db.world.events ++ tx.events).any (·.sourceKey = e.sourceKey) then
      some (db.put t { tx with pending := none })
    else if db.clashing t e then none
    else if (db.world.events ++ tx.events).any (·.clashes e) then some (db.rollback t)
    else some (db.put t { tx with events := tx.events ++ [e], pending := none })

def commit : Option Database :=
  if tx.pending.isSome then none
  else some {
    world := { db.world with
      events := db.world.events ++ tx.events
      sequences := tx.sequences ∪ db.world.sequences
      inserted := db.world.inserted ++ tx.events }
    underway := db.underway.erase t }

end

end Database

inductive Act where
  | begin (t : String)
  /-- An INSERT starts.  Its row and its trigger look up owners one after the other. -/
  | assign (t : String) (row trigger : Env) (i : Insertion)
  | insert (t : String)
  | commit (t : String)
  | rollback (t : String)
  /-- The two writes of the retention, which are transactions of their own. -/
  | raisePurged (scope : String) (through : Nat)
  | deleteBatch (scope : String) (through : Nat)

namespace Database

variable (db : Database)

/-- `none` if the action cannot be taken now. -/
def exec : Act → Option Database
  | .begin t => if (db.underway.lookup t).isSome then none else some (db.put t {})
  | .assign t row trigger i =>
    (db.underway.lookup t).bind fun tx => db.assign t tx trigger (i.row row)
  | .insert t => (db.underway.lookup t).bind (db.insert t)
  | .commit t => (db.underway.lookup t).bind (db.commit t)
  | .rollback t => some (db.rollback t)
  | .raisePurged scope through =>
    if db.underway.entries.any fun o => (o.2.sequences.lookup scope).isSome then none
    else some { db with world := db.world.raisePurged scope through }
  | .deleteBatch scope through => some { db with world := db.world.deleteBatch scope through }

def step (act : Act) : Database :=
  (db.exec act).getD db

def run (acts : List Act) : Database :=
  acts.foldl step db

end Database

end Acs.EventStream
