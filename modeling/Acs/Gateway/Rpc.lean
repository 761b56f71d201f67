/-
What the gateway sends and what it is sent (`internal/cwmp`, `renderJobRequest` in
`cmd/acs/dispatch.go`).

A request is the RPC with its arguments; how it is written as XML, and the random
message id, are left out.  A body is what `ParseEnvelope` makes of a POST: one
optional part for each response the gateway knows, so that an unexpected or an
empty body is one whose expected part is missing.
-/
import Acs.Jobs.Lifecycle
import Acs.Jobs.Discovery

namespace Acs

/-! ### Inbound -/

structure ParameterValue where
  (name value : String)
  type : String := ""
  deriving DecidableEq

structure FaultStruct where
  (faultCode faultString : String)

structure SoapFault where
  faultString : String := ""
  detail : Option FaultStruct := none

def SoapFault.cwmpCode (f : SoapFault) : String :=
  (f.detail.map FaultStruct.faultCode).getD ""

def SoapFault.cwmpMessage (f : SoapFault) : String :=
  match f.detail with
  | some d => if d.faultString ≠ "" then d.faultString else f.faultString
  | none => f.faultString

/-- The parts of a POST body that complete a job. -/
structure InboundBody where
  /-- Names and writable flags. -/
  getParameterNamesResponse : Option (List (String × String)) := none
  getParameterValuesResponse : Option (List ParameterValue) := none
  setParameterValuesResponse : Option Int := none
  downloadResponse : Option Int := none
  /-- The new instance number. -/
  addObjectResponse : Option Int := none
  deleteObjectResponse : Option Int := none
  rebootResponse : Option Unit := none
  factoryResetResponse : Option Unit := none
  scheduleInformResponse : Option Unit := none
  setParameterAttributesResponse : Option Unit := none
  /-- Name, notification and access list. -/
  getParameterAttributesResponse : Option (List (String × Int × List String)) := none
  uploadResponse : Option Int := none
  fault : Option SoapFault := none

structure TransferComplete where
  commandKey : String
  faultStruct : Option FaultStruct := none

/-- The fault of a TransferComplete that reports one. -/
def TransferComplete.failure (tc : TransferComplete) : Option FaultStruct :=
  tc.faultStruct.filter fun f => f.faultCode ≠ "" && f.faultCode ≠ "0"

structure EventStruct where
  (eventCode commandKey : String)

/-- `Inform.HasEventCode`. -/
def hasEventCode (events : List EventStruct) (code : String) : Bool :=
  events.any fun e =>
    let token := Text.before (Text.trimSpace e.eventCode) ' '
    token ≠ "" && token = code

/-- Method and command key of the `M <method>` events. -/
def methodKeys (events : List EventStruct) : List (String × String) :=
  events.filterMap fun e =>
    (Text.cutPrefix (Text.trimSpace e.eventCode) "M ").map (·, e.commandKey)

def eventDiagnosticsComplete : String := "8"

section

variable (list : List ParameterValue) (pre : String)

/-- `actual[v.Name] = v.Value` over a list of values. -/
def valuesByName : StringMap String :=
  list.foldl (fun m v => m.insert v.name v.value) ∅

/-! ### Outbound -/

inductive Rpc where
  | getParameterValues (names : List String)
  | setParameterValues (params : List ParameterValue) (parameterKey : String)
  | getParameterNames (path : String) (nextLevel : Bool)
  | download (commandKey fileType url username password : String) (fileSize : Int)
      (targetFilename : String) (delaySeconds : Int)
  | upload (commandKey fileType url username password : String) (delaySeconds : Int)
  | addObject (path parameterKey : String)
  | deleteObject (path parameterKey : String)
  | reboot (commandKey : String)
  | factoryReset
  | scheduleInform (commandKey : String) (delaySeconds : Int)
  | setParameterAttributes (attributes : List AttributeWrite)
  | getParameterAttributes (names : List String)
  deriving DecidableEq

/-- `diagnostics.LeafType`. -/
def leafType (leaf : String) : String :=
  if leaf ∈ ["Host", "DiagnosticsState", "DownloadURL", "UploadURL"] then "xsd:string"
  else if leaf ∈ ["NumberOfRepetitions", "NumberOfTries", "Timeout", "DataBlockSize", "DSCP",
    "MaxHopCount"] then "xsd:unsignedInt"
  else if leaf = "TestFileLength" then "xsd:unsignedLong"
  else ""

def pingPrefix : String := "Device.IP.Diagnostics.IPPing."
def traceroutePrefix : String := "Device.IP.Diagnostics.TraceRoute."
def downloadDiagnosticsPrefix : String := "Device.IP.Diagnostics.DownloadDiagnostics."
def uploadDiagnosticsPrefix : String := "Device.IP.Diagnostics.UploadDiagnostics."

/-- The stored object of a diagnostic, or the default of its kind. -/
def orDefault (stored default : String) : String :=
  if stored ≠ "" then stored else default

/-- `diagnosticPayloadPrefix`: the diagnostic object a job works on. -/
def diagnosticPayloadPrefix (j : Job) : String :=
  let stored :=
    match j.payload with
    | .diagnosticsPing p => p.pathPrefix
    | .diagnosticsTraceroute p => p.pathPrefix
    | .diagnosticsDownload p => p.pathPrefix
    | .diagnosticsUpload p => p.pathPrefix
    | _ => ""
  orDefault stored
    (match j.type with
      | .diagnosticsTraceroute => traceroutePrefix
      | .diagnosticsDownload => downloadDiagnosticsPrefix
      | .diagnosticsUpload => uploadDiagnosticsPrefix
      | _ => pingPrefix)

def prefixed (leaves : List String) : List String :=
  leaves.map (pre ++ ·)

def diagIPPingPollPaths : List String :=
  prefixed pre ["DiagnosticsState", "SuccessCount", "FailureCount", "AverageResponseTime",
    "MinimumResponseTime", "MaximumResponseTime"]

def diagTraceroutePollPaths : List String :=
  prefixed pre ["DiagnosticsState", "ResponseTime", "RouteHopsNumberOfEntries"]

def diagTR143PollPaths : List String :=
  prefixed pre ["DiagnosticsState", "ROMTime", "BOMTime", "EOMTime", "TestBytesReceived",
    "TestBytesSent", "TotalBytesReceived", "TotalBytesSent", "TCPOpenRequestTime",
    "TCPOpenResponseTime"]

/-- The writes that start a test: the planned ones, or every standard input with
`DiagnosticsState` last. -/
def diagnosticTrigger (planned : List ParameterWrite) (pre : String)
    (inputs : List (String × String)) : List ParameterValue :=
  if !planned.isEmpty then planned.map fun w => ⟨w.name, w.value, w.type⟩
  else
    (inputs.map fun (leaf, value) => ⟨pre ++ leaf, value, leafType leaf⟩) ++
      [⟨pre ++ "DiagnosticsState", "Requested", leafType "DiagnosticsState"⟩]

def diagnosticPollPaths (planned standard : List String) : List String :=
  if !planned.isEmpty then planned else standard

/-- The trigger of a diagnostic, or its poll once the trigger was acknowledged. -/
def diagnosticRequest (j : Job) (plan : DiagnosticsPlan) (pre : String)
    (inputs : List (String × String)) (standard : List String) : Rpc :=
  if !diagnosticsTriggered j then
    .setParameterValues (diagnosticTrigger plan.trigger pre inputs) j.commandKey
  else .getParameterValues (diagnosticPollPaths plan.pollPaths standard)

def defaultTestFileLength : Nat := 1048576

/-- The request of a leased job; none when its payload cannot be rendered. -/
def renderJobRequest (j : Job) : Option Rpc :=
  match j.type, j.payload with
  | .setParameter, .setParameter p =>
    if p.verificationPending then some (.getParameterValues (verificationPaths p))
    else some (.setParameterValues (p.parameters.map fun w => ⟨w.name, w.value, w.type⟩)
      j.commandKey)
  | .getParameter, .getParameter p => some (.getParameterValues p.paths)
  | .firmwareDownload, .firmwareDownload p =>
    some (.download j.commandKey p.fileType p.url p.username p.password p.fileSize
      p.targetFilename p.delaySeconds)
  | .diagnosticsPing, .diagnosticsPing p =>
    let pre := orDefault p.pathPrefix pingPrefix
    some (diagnosticRequest j p.toDiagnosticsPlan pre
      [("Host", p.host), ("NumberOfRepetitions", toString p.numberOfRepetitions),
        ("Timeout", toString p.timeout), ("DataBlockSize", toString p.dataBlockSize),
        ("DSCP", toString p.dscp)]
      (diagIPPingPollPaths pre))
  | .diagnosticsTraceroute, .diagnosticsTraceroute p =>
    let pre := orDefault p.pathPrefix traceroutePrefix
    some (diagnosticRequest j p.toDiagnosticsPlan pre
      [("Host", p.host), ("NumberOfTries", toString p.numberOfTries),
        ("Timeout", toString p.timeout), ("DataBlockSize", toString p.dataBlockSize),
        ("DSCP", toString p.dscp), ("MaxHopCount", toString p.maxHopCount)]
      (diagTraceroutePollPaths pre))
  | .diagnosticsDownload, .diagnosticsDownload p =>
    let pre := diagnosticPayloadPrefix j
    some (diagnosticRequest j p.toDiagnosticsPlan pre [("DownloadURL", p.url)]
      (diagTR143PollPaths pre))
  | .diagnosticsUpload, .diagnosticsUpload p =>
    let pre := diagnosticPayloadPrefix j
    let length := if p.testFileLength = 0 then defaultTestFileLength else p.testFileLength
    some (diagnosticRequest j p.toDiagnosticsPlan pre
      [("UploadURL", p.url), ("TestFileLength", toString length)] (diagTR143PollPaths pre))
  | .addObject, .addObject p => some (.addObject p.objectPath j.commandKey)
  | .deleteObject, .deleteObject p => some (.deleteObject p.objectPath j.commandKey)
  | .reboot, _ => some (.reboot j.commandKey)
  | .factoryReset, _ => some .factoryReset
  | .scheduleInform, .scheduleInform p => some (.scheduleInform j.commandKey p.delaySeconds)
  | .setParameterAttributes, .setParameterAttributes p =>
    some (.setParameterAttributes p.attributes)
  | .getParameterAttributes, .getParameterAttributes p => some (.getParameterAttributes p.paths)
  | .upload, .upload p =>
    some (.upload j.commandKey p.fileType p.url p.username p.password p.delaySeconds)
  | .parameterDiscovery, .parameterDiscovery p =>
    some (.getParameterNames p.requestPath p.incremental)
  | _, _ => none

/-! ### Reading the state of a diagnostic -/

inductive DiagStateClass where
  | pending | complete | failed

def classifyDiagnosticsState (state : String) : DiagStateClass :=
  if state ∈ ["", "Requested", "None"] then .pending
  else if state ∈ ["Complete", "Completed"] then .complete
  else .failed

/-- `DiagnosticsState` in a list of values, or the empty text. -/
def diagnosticsState : String :=
  match list.find? (·.name = pre ++ "DiagnosticsState") with
  | some v => v.value
  | none => ""

end

end Acs
