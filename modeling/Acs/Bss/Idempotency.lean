/-
Idempotency keys (`internal/bss/idempotency.go`, `cmd/bssadapter/idempotency.go`,
migration 0091).

A request with a key claims the row of its account and key, runs the handler, and stores
the answer or gives the key back.  The row is found by account and key alone: neither the
UPDATE that completes it nor the DELETE that releases it knows who claimed it.

Claims are numbered as they are won, and `underway` holds those that are neither completed
nor released, with what the handler answered under them, for the proofs only.
-/
import Acs.Jobs.Job
import Acs.Lib.Assoc
import Acs.Lib.Tokens

namespace Acs.Idempotency

open Prog

/-- `IdempotencyTTL`. -/
def idempotencyTTL : Time := seconds (24 * 3600)

def maxIdempotencyKeyLen : Nat := 255

structure IdempotentResponse where
  status : Nat
  (body location : String)

/-! ### The handler and its writer -/

/-- What the handler does with its `http.ResponseWriter`. -/
inductive Call where
  | writeHeader (status : Nat)
  | write (b : String)
  deriving DecidableEq

structure CapturingWriter where
  status : Nat := 200
  body : String := ""

def CapturingWriter.call (c : CapturingWriter) : Call → CapturingWriter
  | .writeHeader status => { c with status }
  | .write b => { c with body := c.body ++ b }

/-- One run of the handler: its calls, and the `Location` header when it returns. -/
structure Handled where
  calls : List Call := []
  location : String := ""
  deriving DecidableEq

def Handled.recorded (h : Handled) : CapturingWriter :=
  h.calls.foldl CapturingWriter.call {}

/-- The answer that is stored. -/
def Handled.response (h : Handled) : IdempotentResponse where
  status := h.recorded.status
  body := Text.trimSpace h.recorded.body
  location := h.location

/-! ### The table -/

/-- A row of `bss_idempotency_keys`, by its account and key. -/
structure KeyRow where
  (operation requestHash : String)
  status : Option Nat := none
  response : String := ""
  location : Option String := none
  createdAt : Time
  claim : Nat

def KeyRow.complete (row : KeyRow) (resp : IdempotentResponse) : KeyRow :=
  { row with
    status := some resp.status
    response := resp.body
    location := if resp.location = "" then none else some resp.location }

/-- A claim that has been won. -/
structure Claim where
  (accountID key : String)
  number : Nat
  since : Time
  handled : Option Handled := none
  deriving DecidableEq

def Claim.id (c : Claim) : String × String :=
  (c.accountID, c.key)

/-- The clock, the keys and the claims. -/
structure World where
  now : Time := 0
  keys : AList fun _ : String × String => KeyRow := ∅
  claims : Nat := 0
  underway : List Claim := []

namespace World

variable (w : World)

def row (accountID key : String) : Option KeyRow :=
  w.keys.lookup (accountID, key)

/-- `DELETE … WHERE created_at < now() - make_interval(…)`. -/
def expire (accountID key : String) : World :=
  match w.row accountID key with
  | none => w
  | some row =>
    if row.createdAt + idempotencyTTL < w.now then { w with keys := w.keys.erase (accountID, key) }
    else w

/-- `INSERT … ON CONFLICT (account_id, key) DO NOTHING`. -/
def insert (accountID key operation requestHash : String) : Option Claim × World :=
  match w.row accountID key with
  | some _ => (none, w)
  | none =>
    let c : Claim := { accountID, key, number := w.claims, since := w.now }
    (some c,
      { w with
        keys := w.keys.insert (accountID, key)
          { operation, requestHash, createdAt := w.now, claim := w.claims }
        claims := w.claims + 1
        underway := c :: w.underway })

/-- The handler has returned. -/
def handle (c : Claim) (h : Handled) : World :=
  { w with underway := { c with handled := some h } :: w.underway.erase c }

/-- `UPDATE … SET status, response, location WHERE account_id = $1 AND key = $2`. -/
def complete (c : Claim) (resp : IdempotentResponse) : World :=
  { w with
    keys := match w.row c.accountID c.key with
      | none => w.keys
      | some row => w.keys.insert c.id (row.complete resp)
    underway := w.underway.erase c }

/-- `DELETE … WHERE account_id = $1 AND key = $2 AND status IS NULL`. -/
def release (c : Claim) : World :=
  { w with
    keys := match w.row c.accountID c.key with
      | some row => if row.status = none then w.keys.erase c.id else w.keys
      | none => w.keys
    underway := w.underway.erase c }

end World

/-! ### Requests and answers -/

/-- A write with its `Idempotency-Key` header ("" without one); `canonical` is the request
as JSON. -/
structure Request where
  id : Nat := 0
  accountID : String
  operation : String := "mapping.create"
  idempotencyKey : String
  canonical : String := ""
  deriving DecidableEq

/-- The key without the spaces around it.  Opaque to unification, which would otherwise
compute with the text. -/
@[irreducible] def Request.key (req : Request) : String :=
  Text.trimSpace req.idempotencyKey

inductive Body where
  | problem (code message : String)
  | bytes (b : String)

structure Response where
  status : Nat
  headers : List (String × String) := []
  body : Body

def writeError (status : Nat) (code message : String) (headers : List (String × String) := []) :
    Response where
  status
  headers := headers ++ [("Content-Type", "application/json")]
  body := .problem code message

def keyReused : Response :=
  writeError 409 "ErrIdempotencyKeyReused"
    "this Idempotency-Key was already used for a different request"

def keyInFlight : Response :=
  writeError 409 "ErrIdempotencyKeyInFlight"
    "a request with this Idempotency-Key is still being processed" [("Retry-After", "1")]

def internalError : Response :=
  writeError 500 "ErrInternal" "internal error"

def keyTooLong : Response :=
  writeError 400 "ErrInvalidRequest" "Idempotency-Key is longer than 255 characters"

/-- The stored answer, once more. -/
def replayed (stored : IdempotentResponse) : Response where
  status := stored.status
  headers := (if stored.location = "" then [] else [("Location", stored.location)]) ++
    [("Idempotent-Replayed", "true"), ("Content-Type", "application/json")]
  body := .bytes stored.body

/-- The client gets the first status that was written. -/
def Handled.sent (h : Handled) : Response where
  status := (h.calls.findSome? fun
    | .writeHeader status => some status
    | .write _ => some 200).getD 200
  headers := if h.location = "" then [] else [("Location", h.location)]
  body := .bytes h.recorded.body

/-! ### Statements -/

inductive Stmt where
  | expire (accountID key : String)
  | insert (accountID key operation requestHash : String)
  | select (accountID key : String)
  | run (c : Option Claim)
  | complete (c : Claim) (resp : IdempotentResponse)
  | release (c : Claim)
  | respond (req : Request) (resp : Response)

/-- The answers; `none` is an error of the database. -/
def Stmt.Res : Stmt → Type
  | .expire .. => Option Unit
  | .insert .. => Option (Option Claim)
  | .select .. => Option (Option KeyRow)
  | .run _ => Handled
  | .complete .. => Option Unit
  | .release _ => Option Unit
  | .respond .. => Unit

/-- What the environment decides about a statement: how much time has passed, what becomes
of it, and what the handler does. -/
structure Choice where
  elapsed : Nat := 0
  delivery : Delivery := .executed
  handled : Handled := {}

def World.later (w : World) (elapsed : Nat) : World :=
  { w with now := w.now + elapsed }

/-- Executing a statement, at the time it is executed. -/
def Stmt.execNow (w : World) (d : Delivery) (h : Handled) : (s : Stmt) → s.Res × World
  | .expire accountID key => d.deliver () w (w.expire accountID key)
  | .insert accountID key operation requestHash =>
    d.deliver (w.insert accountID key operation requestHash).1 w
      (w.insert accountID key operation requestHash).2
  | .select accountID key => d.deliver (w.row accountID key) w w
  | .run none => (h, w)
  | .run (some c) => (h, w.handle c h)
  | .complete c resp => d.deliver () w (w.complete c resp)
  | .release c => d.deliver () w (w.release c)
  | .respond .. => ((), w)

def Stmt.exec (s : Stmt) (ch : Choice) (w : World) : s.Res × World :=
  s.execNow (w.later ch.elapsed) ch.delivery ch.handled

open Idempotency.Stmt

/-! ### The programs -/

/-- What `BeginIdempotent` returns. -/
inductive Begun where
  | claimed (c : Claim)
  | stored (resp : IdempotentResponse)
  | mismatch
  | inFlight
  | failed

/-- What the row that was found says to a request. -/
def answerTo (operation requestHash : String) : Option KeyRow → Begun
  | none => .inFlight  -- released between the insert and the read
  | some row =>
    if row.operation ≠ operation ∨ row.requestHash ≠ requestHash then .mismatch
    else match row.status with
      | none => .inFlight
      | some status => .stored { status, body := row.response, location := row.location.getD "" }

def beginIdempotent (accountID key operation requestHash : String) : Prog Res Begun := do
  match ← perform (expire accountID key) with
  | none => pure .failed
  | some _ =>
    match ← perform (insert accountID key operation requestHash) with
    | none => pure .failed
    | some (some c) => pure (.claimed c)
    | some none =>
      match ← perform (select accountID key) with
      | none => pure .failed
      | some row => pure (answerTo operation requestHash row)

def respond (req : Request) (resp : Response) : Prog Res Unit :=
  .stmt (.respond req resp) fun _ => pure ()

/-- The request that has won the claim: the handler runs, the client has its answer, and the
answer is stored or the key released. -/
def runClaimed (req : Request) (c : Claim) : Prog Res Unit := do
  let h ← perform (Stmt.run (some c))
  respond req h.sent
  if h.recorded.status ≥ 500 then
    let _ ← perform (release { c with handled := some h })
  else
    let _ ← perform (complete { c with handled := some h } h.response)

/-- `handler.idempotent`; `hash` is the SHA-256 of the canonical request. -/
def idempotent (hash : String → String) (req : Request) : Prog Res Unit :=
  if req.key = "" then do
    let h ← perform (Stmt.run none)
    respond req h.sent
  else if req.key.utf8ByteSize > maxIdempotencyKeyLen then respond req keyTooLong
  else do
    match ← beginIdempotent req.accountID req.key req.operation (hash req.canonical) with
    | .mismatch => respond req keyReused
    | .inFlight => respond req keyInFlight
    | .failed => respond req internalError
    | .stored resp => respond req (replayed resp)
    | .claimed c => runClaimed req c

abbrev Action := Pool.Action Request Choice

abbrev OnceEvent := Pool.Event Res World

/-- Any number of requests, on any number of instances. -/
def run (hash : String → String) (as : List Action) (w : World) :
    List OnceEvent × Pool Res World :=
  Pool.run Stmt.exec (idempotent hash) as ⟨w, []⟩

end Acs.Idempotency
