/-
What happens to a job besides being sent: the pure decisions of
`internal/jobs/diagnostics.go`, `verification.go` and `session_recovery.go`.
-/
import Acs.Jobs.Job

namespace Acs

open Text

/-! ### Decoding a payload

`json.Unmarshal` into the record of one job type. -/

def Payload.asSetParameter : Payload → Option SetParameterPayload
  | .setParameter p => some p
  | _ => none

section

variable (p : SetParameterPayload) (path : String)

@[simp] theorem Payload.asSetParameter_setParameter :
    (Payload.setParameter p).asSetParameter = some p := rfl

def Payload.asGetParameter : Payload → Option GetParameterPayload
  | .getParameter p => some p
  | _ => none

def Payload.asDiscovery : Payload → Option ParameterDiscoveryPayload
  | .parameterDiscovery p => some p
  | _ => none

/-! ### Diagnostics -/

/-- The types that use the trigger, await, poll lifecycle over CWMP. -/
def isCWMPDiagnosticType : JobType → Bool
  | .diagnosticsPing | .diagnosticsTraceroute | .diagnosticsDownload | .diagnosticsUpload => true
  | _ => false

/-- The trigger was acknowledged: the next dispatch polls. -/
def diagnosticsTriggered (j : Job) : Bool :=
  j.diagnosticsDeadline.isSome

/-- Multiplication of Go's 64-bit integers. -/
def mul64 (a b : Int) : Int := Int.bmod (a * b) (2 ^ 64)

/-- Addition of Go's 64-bit integers. -/
def add64 (a b : Int) : Int := Int.bmod (a + b) (2 ^ 64)

/-- One `time.Millisecond`, in nanoseconds. -/
def millisecond : Int := 1000000

def diagnosticsBaseWindow : Int := 600 * 1000 * millisecond
def diagnosticsMaxWindow : Int := 7200 * 1000 * millisecond

/-- The run time the inputs of a diagnostic imply, in nanoseconds. -/
def expectedRunTime (j : Job) : Int :=
  match j.type, j.payload with
  | .diagnosticsPing, .diagnosticsPing p =>
    if 0 < p.numberOfRepetitions ∧ 0 < p.timeout then
      mul64 (mul64 p.numberOfRepetitions p.timeout) millisecond
    else 0
  | .diagnosticsTraceroute, .diagnosticsTraceroute p =>
    if 0 < p.numberOfTries ∧ 0 < p.timeout ∧ 0 < p.maxHopCount then
      mul64 (mul64 (mul64 p.numberOfTries p.timeout) p.maxHopCount) millisecond
    else 0
  | _, _ => 0

/-- How long the result of a diagnostic is waited for, in nanoseconds. -/
def diagnosticsWindow (j : Job) : Int :=
  let window := add64 diagnosticsBaseWindow (expectedRunTime j)
  if window > diagnosticsMaxWindow ∨ window < 0 then diagnosticsMaxWindow else window

/-- `int(window.Seconds())`. -/
def windowSeconds (window : Int) : Nat :=
  (window / (1000 * millisecond)).toNat

def diagnosticsExpired (j : Job) (now : Time) : Bool :=
  match j.diagnosticsDeadline with
  | some deadline => deadline < now
  | none => false

/-! ### Verification of written parameters -/

def sensitivePath : Bool :=
  ["password", "passphrase", "presharedkey", "secret", "token", "privatekey"].any
    (contains (toLower path) ·)

/-- Parameters that are not read back. -/
def skipReadback : Bool :=
  sensitivePath path || path ∈ p.nonReadable

def verificationPaths : List String :=
  (p.parameters.filter fun w => !skipReadback p w.name).map (·.name)

def normalizeBool (value : String) : String :=
  if value = "1" then "true" else if value = "0" then "false" else value

/-- The value read back counts as the one written. -/
def valuesAgree (w : ParameterWrite) (value : String) : Bool :=
  if trimPrefix w.type "xsd:" = "boolean" then normalizeBool value = normalizeBool w.value
  else value = w.value

/-- Compare what was written with what the device reports. -/
def compareReadback (actual : StringMap String) : Verification where
  skipped := sortStrings ((p.parameters.filter fun w => skipReadback p w.name).map (·.name))
  missing := sortStrings ((p.parameters.filter fun w =>
    !skipReadback p w.name && (actual.lookup w.name).isNone).map (·.name))
  matched := sortStrings ((p.parameters.filter fun w =>
    !skipReadback p w.name && (actual.lookup w.name).any (valuesAgree w)).map (·.name))
  mismatched := sortStrings ((p.parameters.filter fun w =>
    !skipReadback p w.name && (actual.lookup w.name).any (!valuesAgree w ·)).map (·.name))

end

/-- The read-back confirms every parameter that is read back, and there is one. -/
def Verification.success (v : Verification) : Bool :=
  v.mismatched.isEmpty && v.missing.isEmpty && !v.matched.isEmpty

/-- Requested leaves the answer leaves out; objects and search paths do not count. -/
def missingReadPaths (paths : List String) (actual : StringMap String) : List String :=
  paths.filter fun path =>
    !(hasSuffix path "." || containsAny path "*[\x7b(") && (actual.lookup path).isNone

/-! ### Jobs left over by a dropped session -/

def faultSessionDropped : String := "SESSION_DROPPED_OUTCOME_UNKNOWN"

inductive DroppedSessionAction where
  | requeue | succeeded | awaitTransfer | failed | diagnosticsTriggered

/-- How to recover one job left RPC_SENT.  `methodKeys` lists the method and command
key of the `M <method>` events of the Inform. -/
def classifyDroppedSessionJob (j : Job) (methodKeys : List (String × String))
    (diagnosticsComplete : Bool) : DroppedSessionAction :=
  if diagnosticsComplete && isCWMPDiagnosticType j.type && !Acs.diagnosticsTriggered j then
    .diagnosticsTriggered
  else
    match j.type with
    | .reboot => if ("Reboot", j.commandKey) ∈ methodKeys then .succeeded else .failed
    | .firmwareDownload | .upload => .awaitTransfer
    | .addObject | .deleteObject | .factoryReset => .failed
    | _ => if j.attempts ≥ j.maxAttempts then .failed else .requeue

/-- A failed transfer whose late TransferComplete still counts. -/
def lateTransferReconcilable (j : Job) : Bool :=
  j.status = .failed &&
    (match j.faultCode with
      | some code =>
        code ∈ ["LEASE_EXPIRED_UNSAFE_RETRY", faultSessionDropped, "TRANSFER_TIMEOUT"]
      | none => false) &&
    (j.type = .firmwareDownload || j.type = .upload)

end Acs
