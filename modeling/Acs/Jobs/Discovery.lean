/-
The incremental discovery walk (`internal/jobs/discovery.go`).

A discovery job asks the device for the names directly below one object at a time.  The
objects an answer reports are queued and asked for in their turn; an object the device does
not answer for is put back to the end of the queue once and skipped the second time.  Each
step is a function from payload to payload.

`advanceDiscovery` and `skipDiscoveryCursor` return the payload only when they report no
error: on an error the callers fail the job and drop it.
-/
import Acs.Jobs.Payloads
import Acs.Lib.Text

namespace Acs

open Text

def discoveryMaxObjects : Nat := 512
def discoveryMaxNames : Nat := 50000

/-- How many objects one walk may skip. -/
def discoveryMaxSkipped : Nat := 32

/-- How many instances of one table a walk descends into. -/
def discoveryMaxInstancesPerTable : Nat := 32

/-- The object the next request asks for. -/
def ParameterDiscoveryPayload.requestPath (p : ParameterDiscoveryPayload) : String :=
  if p.cursor ≠ "" then p.cursor else p.root

/-! ### Instances of runtime tables -/

def runtimeTableTemplates : List String :=
  ["Hosts.Host.", "AssociatedDevice.", "DHCPv4.Server.Pool.\x7bi\x7d.Client.",
   "DHCPv6.Server.Pool.\x7bi\x7d.Client.", "DeviceInfo.ProcessStatus.Process.",
   "IP.ActivePort.", "IPv4Forwarding.", "IPv6Forwarding.",
   "ManagementServer.ManageableDevice.", "NeighboringWiFiDiagnostic.Result.",
   "DeviceInfo.VendorLogFile.", "AssociationEvent.AssociationEventData.",
   "DisassociationEvent.DisassociationEventData.",
   "FailedConnectionEvent.FailedConnectionEventData.", "BSS.\x7bi\x7d.STA.",
   "ScanResult.", "OpClassScan.", "ChannelScan.", "NeighborBSS.", "UnassociatedSTA.",
   "CapableOperatingClassProfile.", "CurrentOperatingClassProfile.",
   "FaultMgmt.SupportedAlarm.", "FaultMgmt.CurrentAlarm.", "FaultMgmt.HistoryEvent.",
   "FaultMgmt.ExpeditedEvent.", "FaultMgmt.QueuedEvent.", "InterfaceStack."]

/-- A character class `\d`. -/
def isDigit (c : Char) : Bool := '0' ≤ c && c ≤ '9'

/-- `instanceObjectRE`, `^(.*\.)(\d+)\.$`: the table and the digits of an instance
path.  The dot of the expression does not match a line feed. -/
def instanceObject (path : String) : Option (String × List Char) :=
  match path.toList.reverse with
  | '.' :: rest =>
    let digits := (rest.takeWhile isDigit).reverse
    match rest.dropWhile isDigit with
    | '.' :: table =>
      if digits.isEmpty || table.contains '\n' then none
      else some (String.ofList ('.' :: table).reverse, digits)
    | _ => none
  | _ => none

/-- `strconv.Atoi` of a string of digits: out of range from 2^63 on. -/
def atoi (digits : List Char) : Option Nat :=
  let n := digits.foldl (fun n c => 10 * n + (c.toNat - '0'.toNat)) 0
  if n < 2 ^ 63 then some n else none

/-- The table and instance number of an instance path. -/
def instanceNumber (path : String) : Option (String × Nat) :=
  (instanceObject path).bind fun (table, digits) => (atoi digits).map fun n => (table, n)

/-- The segments of a path after its first one, each instance number between two
dots replaced by the template's placeholder.  The last segment has no dot behind
it, so it stays. -/
def templateSegments : List String → List String
  | [] => []
  | [last] => [last]
  | segment :: next :: rest =>
    (if segment ≠ "" && segment.toList.all isDigit then "\x7bi\x7d" else segment)
      :: templateSegments (next :: rest)

section

variable (objects : List String) (table : String)

/-- What is left when `instanceSegmentRE`, `\.\d+\.`, has been replaced until it
matches nowhere: every segment of digits between two dots is a placeholder. -/
def instanceTemplate : String :=
  match table.toList.splitOn '.' |>.map String.ofList with
  | [] => ""
  | first :: rest => join (first :: templateSegments rest) "."

def isRuntimeTable : Bool :=
  runtimeTableTemplates.any fun suffix => hasSuffix (instanceTemplate table) ("." ++ suffix)

/-- The instance numbers `objects` lists for one table, in increasing order. -/
def tableInstances : List Nat :=
  (objects.filterMap fun path =>
    match instanceNumber path with
    | some (t, n) => if t = table then some n else none
    | none => none).insertionSort (· ≤ ·)

/-- The instance numbers of a table that the walk descends into. -/
def allowedInstances : List Nat :=
  (tableInstances objects table).take
    (if isRuntimeTable table then 1 else discoveryMaxInstancesPerTable)

def collapseRuntimeInstances : List String :=
  objects.filter fun path =>
    match instanceNumber path with
    | some (table, n) => n ∈ allowedInstances objects table
    | none => true

end

/-! ### The two steps of the walk -/

/-- An object below the requested one that the walk has not visited. -/
def isNewObject (current : String) (visited : StringMap Bool) (path : String) : Bool :=
  path ≠ current && hasSuffix path "." && !visited.isSet path

/-- One iteration of the loop over a response: the name is recorded, and queued
when it is an object the walk has not visited. -/
def recordName (root current : String) (visited : StringMap Bool)
    (acc : StringMap Bool × List String) (entry : (_ : String) × Bool) :
    Except String (StringMap Bool × List String) :=
  if !hasPrefix entry.1 current then
    .error ("discovery returned path outside requested subtree: " ++ entry.1)
  else if entry.1.utf8ByteSize > 1024 then
    .error "discovery path exceeds 1024 bytes"
  else if isNewObject current visited entry.1 then
    if countChar (trimPrefix entry.1 root) '.' > 16 then
      .error "discovery exceeds depth limit"
    else
      .ok (acc.1.insert entry.1 entry.2, acc.2 ++ [entry.1])
  else
    .ok (acc.1.insert entry.1 entry.2, acc.2)

/-- Append the objects that are not queued yet. -/
def enqueue (pending objects : List String) : List String :=
  objects.foldl (fun queue path => if path ∈ queue then queue else queue ++ [path]) pending

/-- Take in the answer to the current request.  The result says whether the walk
is done. -/
def advanceDiscovery (p : ParameterDiscoveryPayload) (names : StringMap Bool) :
    Except String (Bool × ParameterDiscoveryPayload) := do
  let current := p.requestPath
  let visited := p.visited.insert current true
  let (known, reported) ← names.entries.foldlM (recordName p.root current visited) (p.names, [])
  let objects := collapseRuntimeInstances (sortStrings reported)
  let pending := enqueue p.pending objects
  if StringMap.size visited + pending.length > discoveryMaxObjects ||
      StringMap.size known > discoveryMaxNames then
    .error "discovery exceeds bounded walk limits"
  else
    match pending with
    | [] => .ok (true, { p with visited := visited, names := known, pending := [] })
    | next :: rest =>
      .ok (false, { p with visited := visited, names := known, cursor := next, pending := rest })

/-- Handle an object the device faulted on or dropped the session for.  The result
says whether the walk is done and whether the object was given up on. -/
def skipDiscoveryCursor (p : ParameterDiscoveryPayload) :
    Except String (Bool × Bool × ParameterDiscoveryPayload) :=
  if p.cursor = "" then
    .error "discovery has no object in progress to skip"
  else if !p.retried.isSet p.cursor then
    let retried := p.retried.insert p.cursor true
    match p.pending ++ [p.cursor] with
    | [] => .ok (false, false, { p with retried := retried })
    | next :: rest =>
      .ok (false, false, { p with retried := retried, cursor := next, pending := rest })
  else if p.skipped.length ≥ discoveryMaxSkipped then
    .error ("discovery skipped more than " ++ toString discoveryMaxSkipped ++
      " objects the device could not serve")
  else
    let visited := p.visited.insert p.cursor true
    let skipped := p.skipped ++ [p.cursor]
    match p.pending with
    | [] => .ok (true, true, { p with visited := visited, skipped := skipped, cursor := "" })
    | next :: rest =>
      .ok (false, true,
        { p with visited := visited, skipped := skipped, cursor := next, pending := rest })

end Acs
