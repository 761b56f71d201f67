/-
Digest authentication of devices (`internal/auth/digest.go`, `replay_postgres.go`).

`verifyDigest` reads the clock, checks the response of a request and the age of its
nonce, and then asks whether the nonce count was used before: the table
`cwmp_digest_nonces`, which all replicas share, or the cache of the process.  Reading the
clock, a statement of the database and what happens under the lock of a cache are atomic;
everything else interleaves, the reaper's pass included.

The hash functions and the MAC are parameters.  A check of the table also carries what was
presented and the clock the verification read, which the statement does not look at.
-/
import Acs.Lib.Assoc
import Acs.Lib.Pool
import Acs.Lib.Text

namespace Acs

/-- Nanoseconds since the epoch. -/
abbrev Instant := Int

def instantSeconds (n : Int) : Instant := n * 1000000000

/-! ### The header -/

/-- `\w`. -/
def isWordChar (c : Char) : Bool :=
  c.isAlphanum || c = '_'

/-- The matches of `(\w+)=("([^"]*)"|[^,]*)`, each with its key and value; every match
takes at least one character, so the length of the text is enough fuel. -/
def digestMatches : Nat → List Char → List (String × String)
  | 0, _ => []
  | fuel + 1, cs =>
    let key := String.ofList (cs.takeWhile isWordChar)
    match cs.takeWhile isWordChar, cs.dropWhile isWordChar with
    | [], [] => []
    | [], _ :: rest => digestMatches fuel rest
    | _, '=' :: '"' :: rest =>
      if '"' ∈ rest then
        (key, String.ofList (rest.takeWhile (· ≠ '"'))) ::
          digestMatches fuel (rest.dropWhile (· ≠ '"')).tail
      else
        -- No closing quote: the second alternative matches, and its value is dropped.
        (key, "") :: digestMatches fuel (rest.dropWhile (· ≠ ','))
    | _, '=' :: rest =>
      (key, String.ofList (rest.takeWhile (· ≠ ','))) ::
        digestMatches fuel (rest.dropWhile (· ≠ ','))
    | _, rest => digestMatches fuel rest

/-- The parameters of a header; a later one replaces an earlier one. -/
def parseDigestParams (s : String) : List (String × String) :=
  ((digestMatches s.length s.toList).map fun m => (m.1, Text.trimSpace m.2)).reverse

/-- `params[key]`. -/
def digestParam (params : List (String × String)) (key : String) : String :=
  (params.lookup key).getD ""

/-! ### Numbers -/

def hexDigit (c : Char) : Option Nat :=
  if '0' ≤ c ∧ c ≤ '9' then some (c.toNat - '0'.toNat)
  else if 'a' ≤ c ∧ c ≤ 'f' then some (c.toNat - 'a'.toNat + 10)
  else if 'A' ≤ c ∧ c ≤ 'F' then some (c.toNat - 'A'.toNat + 10)
  else none

/-- The value of a text of hexadecimal digits. -/
def hexValue (s : String) : Option Nat :=
  if s = "" then none
  else (s.toList.mapM hexDigit).map (·.foldl (fun n d => 16 * n + d) 0)

/-- `strconv.ParseUint(s, 16, 64)`. -/
def parseUint (s : String) : Option UInt64 :=
  (hexValue s).bind fun n => if n < 2 ^ 64 then some (.ofNat n) else none

/-- `strconv.ParseInt(s, 16, 64)`. -/
def parseInt (s : String) : Option Int :=
  match Text.cutPrefix s "-" with
  | some digits => (hexValue digits).bind fun n => if n ≤ 2 ^ 63 then some (-n) else none
  | none => (hexValue (Text.trimPrefix s "+")).bind fun n => if n < 2 ^ 63 then some n else none

/-! ### Nonces -/

/-- The cryptographic functions, on byte strings. -/
structure Crypto where
  (md5Hex sha256Hex : String → String)
  hmacSHA256 : String → String → String
  /-- The first bytes of a MAC, `nonceMACBytes` of them, in hex. -/
  macHex : String → String

/-- The fields `verifyDigest` reads.  `lookup` answers as the credentials table does. -/
structure DigestAuthenticator where
  (username password : String)
  nonceSecret : String := ""
  lookup : Option (String → Option (String × String)) := none

def realm : String := "acs"

def nonceTTL : Instant := instantSeconds (10 * 60)

section Verify

variable (crypto : Crypto) (toUpper : String → String) (d : DigestAuthenticator)

def nonceKey : String :=
  crypto.hmacSHA256 (if d.nonceSecret = "" then d.password else d.nonceSecret)
    "acs-digest-nonce-v1"

def nonceMAC (ts random : String) : String :=
  crypto.macHex (crypto.hmacSHA256 (nonceKey crypto d) (ts ++ "." ++ random))

/-- `strings.SplitN(nonce, ".", 3)`, if there are three parts. -/
def nonceParts (nonce : String) : Option (String × String × String) :=
  match nonce.toList.dropWhile (· ≠ '.') with
  | [] => none
  | _ :: rest =>
    match rest.dropWhile (· ≠ '.') with
    | [] => none
    | _ :: mac =>
      some (Text.before nonce '.', String.ofList (rest.takeWhile (· ≠ '.')), String.ofList mac)

/-- The time a nonce says it was issued. -/
def nonceTime (nonce : String) : Option Instant :=
  (nonceParts nonce).bind fun parts => (parseInt parts.1).map instantSeconds

/-- The time a nonce was issued, if its MAC verifies. -/
def parseNonce (nonce : String) : Option Instant :=
  (nonceParts nonce).bind fun parts =>
    if parts.2.2 = nonceMAC crypto d parts.1 parts.2.1 then
      (parseInt parts.1).map instantSeconds
    else none

/-! ### The response -/

structure Identity where
  (username boundDeviceID : String)
  sharedCredential : Bool

/-- The password of a user, the device it is bound to, and whether it is that device's own. -/
def passwordFor (username : String) : Option (String × String × Bool) :=
  if d.username ≠ "" ∧ username = d.username then some (d.password, "", false)
  else if username = "" then none
  else (d.lookup.bind (· username)).map fun found => (found.1, found.2, true)

def hashFuncFor (algorithm : String) : Option (String → String) :=
  if toUpper algorithm = "" ∨ toUpper algorithm = "MD5" then some crypto.md5Hex
  else if toUpper algorithm = "SHA-256" then some crypto.sha256Hex
  else none

structure DigestRequest where
  (method requestURI : String)
  /-- The Authorization header, without the scheme. -/
  authorization : String

/-- What a replay check is about. -/
structure Presented where
  (nonce qop nc : String)

/-- The part of `verifyDigest` before the clock matters: what was presented, when its nonce
expires, and who presents it, if the response is right. -/
def checkResponse (r : DigestRequest) : Option (Presented × Instant × Identity) := do
  let params := parseDigestParams r.authorization
  let username := digestParam params "username"
  let (password, deviceID, perDevice) ← passwordFor d username
  if (params.lookup "realm").any (· ≠ realm) then none
  else if digestParam params "uri" ≠ r.requestURI then none
  else
    let nonce := digestParam params "nonce"
    let issued ← parseNonce crypto d nonce
    let hashHex ← hashFuncFor crypto toUpper (digestParam params "algorithm")
    let ha1 := hashHex (username ++ ":" ++ realm ++ ":" ++ password)
    let ha2 := hashHex (r.method ++ ":" ++ digestParam params "uri")
    let qop := digestParam params "qop"
    if qop ≠ "" ∧ qop ≠ "auth" then none
    else
      let expected :=
        if qop ≠ "" then
          hashHex (Text.join [ha1, nonce, digestParam params "nc", digestParam params "cnonce",
            qop, ha2] ":")
        else hashHex (ha1 ++ ":" ++ nonce ++ ":" ++ ha2)
      if expected ≠ digestParam params "response" then none
      else some (⟨nonce, qop, digestParam params "nc"⟩, issued + nonceTTL,
        ⟨username, deviceID, !perDevice⟩)

end Verify

/-- The nonce count of what was presented; a response without qop counts as 1. -/
def Presented.ncOrdinal (p : Presented) : Option UInt64 :=
  if p.qop = "" then some 1
  else (parseUint p.nc).bind fun n => if n = 0 then none else some n

/-! ### The cache of a process -/

structure NonceState where
  expires : Instant
  lastNC : UInt64 := 0
  used : Bool := false

def nonceCacheMax : Nat := 100000

/-- `nonceCache`, which never outgrows its bound. -/
structure NonceCache where
  m : AList fun _ : String => NonceState
  size_le : m.keys.length ≤ nonceCacheMax

namespace NonceCache

def empty : NonceCache := ⟨∅, Nat.zero_le _⟩

/-- `purgeExpiredNoncesLocked`. -/
def purgeExpired (c : NonceCache) (now : Instant) : NonceCache where
  m := Assoc.select (fun _ st => !decide (st.expires < now)) c.m
  size_le := Nat.le_trans (Assoc.size_select_le _ c.m) c.size_le

/-- Write the state of a nonce that is in the cache, or for which there is room. -/
def put (c : NonceCache) (nonce : String) (st : NonceState)
    (h : nonce ∈ c.m ∨ c.m.keys.length < nonceCacheMax) : NonceCache where
  m := c.m.insert nonce st
  size_le := by
    rcases h with hmem | hroom
    · rw [Assoc.size_insert_of_mem hmem]
      exact c.size_le
    · exact Nat.le_trans (Assoc.size_insert_le nonce st c.m) hroom

end NonceCache

/-- Whether a use of a nonce is new, and the state of the nonce afterwards. -/
def NonceState.record (st : NonceState) (qop : String) (ncOrdinal : UInt64) : Bool × NonceState :=
  if qop = "" then
    if st.used then (false, st) else (true, { st with used := true })
  else if ncOrdinal ≤ st.lastNC then (false, st)
  else (true, { st with lastNC := ncOrdinal })

/-- Record a use of a nonce, if the nonce is in the cache or there is room for it. -/
def NonceCache.record (c : NonceCache) (nonce qop : String) (ncOrdinal : UInt64)
    (expires : Instant) : Bool × NonceCache :=
  if h : nonce ∈ c.m ∨ c.m.keys.length < nonceCacheMax then
    let r := ((c.m.lookup nonce).getD { expires }).record qop ncOrdinal
    (r.1, c.put nonce r.2 h)
  else (false, c)

/-- What `checkReplay` does under the lock of the cache: a full cache is purged before a
new nonce is refused. -/
def NonceCache.check (c : NonceCache) (nonce qop : String) (ncOrdinal : UInt64)
    (expires now : Instant) : Bool × NonceCache :=
  if nonce ∈ c.m ∨ c.m.keys.length < nonceCacheMax then c.record nonce qop ncOrdinal expires
  else (c.purgeExpired now).record nonce qop ncOrdinal expires

/-! ### The shared table -/

/-- A time as the driver sends it for a `timestamptz`: in whole microseconds. -/
def microseconds (t : Instant) : Int := t / 1000

/-- A row of `cwmp_digest_nonces`, without its key. -/
structure NonceRow where
  lastNC : Int64
  /-- In microseconds. -/
  expiresAt : Int

abbrev NonceTable := AList fun _ : String => NonceRow

/-- `CheckAndRecord`: INSERT … ON CONFLICT DO UPDATE … WHERE last_nc < EXCLUDED.last_nc. -/
def NonceTable.checkAndRecord (t : NonceTable) (nonce : String) (ncOrdinal : UInt64)
    (expires : Instant) : Bool × NonceTable :=
  match t.lookup nonce with
  | none => (true, t.insert nonce ⟨ncOrdinal.toInt64, microseconds expires⟩)
  | some row =>
    if row.lastNC < ncOrdinal.toInt64 then
      (true, t.insert nonce { row with lastNC := ncOrdinal.toInt64 })
    else (false, t)

/-- `Purge`. -/
def NonceTable.purge (t : NonceTable) (now : Instant) : NonceTable :=
  Assoc.select (fun _ row => !decide (row.expiresAt < microseconds now)) t

/-! ### Statements -/

/-- The clock, the table and the caches. -/
structure DigestWorld where
  now : Instant
  nonces : NonceTable
  /-- The cache of each process. -/
  caches : Nat → NonceCache

def DigestWorld.init (now : Instant) : DigestWorld := ⟨now, ∅, fun _ => .empty⟩

inductive DigestStmt where
  /-- `time.Now()`. -/
  | now
  | checkAndRecord (p : Presented) (ncOrdinal : UInt64) (expires readAt : Instant)
  | purge (t : Instant)
  /-- The section of `checkReplay` under the lock of a process's cache. -/
  | checkCache (process : Nat) (p : Presented) (ncOrdinal : UInt64) (expires readAt : Instant)

/-- The answer to a statement; `none` is an error of the database. -/
def DigestStmt.Res : DigestStmt → Type
  | .now => Instant
  | .checkAndRecord .. => Option Bool
  | .purge _ => Option Unit
  | .checkCache .. => Bool

structure DigestChoice where
  /-- The time since the last statement. -/
  elapsed : Nat := 0
  delivery : Delivery := .executed

def DigestWorld.tick (w : DigestWorld) (c : DigestChoice) : DigestWorld :=
  { w with now := w.now + c.elapsed }

/-- One statement, at the clock the world shows. -/
def DigestStmt.effect (w : DigestWorld) (c : DigestChoice) :
    (s : DigestStmt) → s.Res × DigestWorld
  | .now => (w.now, w)
  | .checkAndRecord p n expires _ =>
    let r := w.nonces.checkAndRecord p.nonce n expires
    c.delivery.deliver r.1 w { w with nonces := r.2 }
  | .purge t => c.delivery.deliver () w { w with nonces := w.nonces.purge t }
  | .checkCache process p n expires readAt =>
    let r := (w.caches process).check p.nonce p.qop n expires readAt
    (r.1, { w with caches := Function.update w.caches process r.2 })

def DigestStmt.exec (s : DigestStmt) (c : DigestChoice) (w : DigestWorld) : s.Res × DigestWorld :=
  s.effect (w.tick c) c

abbrev DigestProg (α : Type) := Prog DigestStmt.Res α

/-! ### The handlers -/

/-- Where a process keeps its replay state. -/
inductive ReplayState where
  | shared
  | process (id : Nat)
  deriving DecidableEq

def checkReplay (state : ReplayState) (p : Presented) (expires now : Instant) :
    DigestProg Bool :=
  match p.ncOrdinal with
  | none => return false
  | some n =>
    match state with
    | .shared => do
      let ok ← Prog.perform (DigestStmt.checkAndRecord p n expires now)
      return (show Option Bool from ok) = some true
    | .process id => Prog.perform (DigestStmt.checkCache id p n expires now)

inductive DigestVerdict where
  | rejected
  /-- The response was right, but the nonce has expired. -/
  | stale
  | ok (identity : Identity)

/-- `Verify` of a request with a Digest header. -/
def verifyDigest (crypto : Crypto) (toUpper : String → String) (d : DigestAuthenticator)
    (state : ReplayState) (r : DigestRequest) : DigestProg DigestVerdict := do
  let now : Instant ← Prog.perform DigestStmt.now
  match checkResponse crypto toUpper d r with
  | none => return .rejected
  | some (p, expires, identity) =>
    if expires < now then return .stale
    else if ← checkReplay state p expires now then return .ok identity
    else return .rejected

/-- A pass of `runDigestReplayReaper`. -/
def digestReplayReaper : DigestProg Unit := do
  let now : Instant ← Prog.perform DigestStmt.now
  let _ ← Prog.perform (DigestStmt.purge now)

/-! ### Runs -/

inductive DigestTask where
  | verify (d : DigestAuthenticator) (state : ReplayState) (r : DigestRequest)
  | reap

def DigestTask.prog (crypto : Crypto) (toUpper : String → String) : DigestTask → DigestProg Unit
  | .verify d state r => do
    let _ ← verifyDigest crypto toUpper d state r
  | .reap => digestReplayReaper

abbrev DigestAction := Pool.Action DigestTask DigestChoice
abbrev DigestEvent := Pool.Event DigestStmt.Res DigestWorld

/-- The statements of a run of any number of replicas. -/
def digestTrace (crypto : Crypto) (toUpper : String → String) (start : Instant)
    (as : List DigestAction) : List DigestEvent :=
  (Pool.run DigestStmt.exec (DigestTask.prog crypto toUpper) as ⟨.init start, []⟩).1

/-- What was presented to a replay store that let the verification pass. -/
def acceptedBy (state : ReplayState) : DigestEvent → Option Presented
  | ⟨.checkAndRecord p _ _ _, some true, _, _⟩ => if state = .shared then some p else none
  | ⟨.checkCache id p _ _ _, true, _, _⟩ => if state = .process id then some p else none
  | _ => none

/-- Requests that are checked one after the other, each with the expiry of its nonce and
the clock it read: whether they are new. -/
def replayDecisions (state : ReplayState) :
    List (Presented × Instant × Instant) → DigestWorld → List Bool
  | [], _ => []
  | (p, expires, now) :: rest, w =>
    let r := (checkReplay state p expires now).run DigestStmt.exec (fun _ => {}) w
    r.1 :: replayDecisions state rest r.2

end Acs
