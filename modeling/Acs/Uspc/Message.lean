/-
What the USP controller sends and what it is sent (`cmd/uspc/dispatch.go`, the
classification in `cmd/uspc/dispatcher.go`, `internal/usp`).

A request is the message with its arguments; protobuf and the record around it are
left out.  A response keeps every part the controller's classification looks at,
and beside them the two lists it does not look at: the parameter errors of an added
object and the unaffected paths of a deleted one.
-/
import Acs.Jobs.Lifecycle
import Acs.Jobs.Discovery

namespace Acs

/-! ### Requests -/

inductive UspRequest where
  | get (paths : List String)
  | getInstances (paths : List String)
  | set (objects : StringMap (StringMap String))
  | add (objectPath : String) (params : StringMap String)
  | delete (objectPath : String)
  | operate (command commandKey : String) (inputArgs : List (String × String))
  | getSupportedDM (path : String) (firstLevelOnly : Bool)

/-- Why a request was not built. -/
inductive BuildError where
  | unsupportedOverUSP
  | invalid (text : String)

/-- The object path of a parameter, with its final dot, and its leaf. -/
def splitLeaf (name : String) : String × String :=
  let leaf := (name.toList.reverse.takeWhile (· ≠ '.')).reverse
  (String.ofList (name.toList.take (name.toList.length - leaf.length)), String.ofList leaf)

/-- `groupParametersByObjectPath`. -/
def groupParametersByObjectPath (params : List ParameterWrite) : StringMap (StringMap String) :=
  params.foldl (fun grouped w =>
    let (object, leaf) := splitLeaf w.name
    grouped.insert object (((grouped.lookup object).getD ∅).insert leaf w.value)) ∅

/-- `usp.FirmwareImageInstance`: an instance of the table, not number 0. -/
def firmwareImageInstance (path : String) : Bool :=
  match (Text.cutPrefix path "Device.FirmwareImage.").map (·.toList.reverse) with
  | some ('.' :: digits) => !digits.isEmpty && digits.all isDigit && digits ≠ ['0']
  | _ => false

/-- `usp.FirmwareDownloadOperation`. -/
def firmwareDownloadOperation (instancePath url : String) (fileSize : Int) :
    Except String (String × List (String × String)) :=
  if !firmwareImageInstance instancePath then .error "invalid USP firmware image instance"
  else if url = "" || fileSize < 0 then
    .error "firmware URL and non-negative file size are required"
  else .ok (instancePath ++ "Download()",
    [("URL", url), ("FileSize", toString fileSize), ("AutoActivate", "true")])

def downloadDiagnosticsCommand : String := "Device.IP.Diagnostics.DownloadDiagnostics()"
def uploadDiagnosticsCommand : String := "Device.IP.Diagnostics.UploadDiagnostics()"

/-- The request that carries out a job. -/
def buildUSPRequest (j : Job) : Except BuildError UspRequest :=
  match j.type, j.payload with
  | .getParameter, .getParameter p =>
    if p.instances then .ok (.getInstances p.paths) else .ok (.get p.paths)
  | .setParameter, .setParameter p =>
    if p.verificationPending then .ok (.get (verificationPaths p))
    else .ok (.set (groupParametersByObjectPath p.parameters))
  | .addObject, .addObject p =>
    .ok (.add p.objectPath (p.parameters.foldl (fun m w => m.insert w.name w.value) ∅))
  | .deleteObject, .deleteObject p => .ok (.delete p.objectPath)
  | .reboot, _ => .ok (.operate "Device.Reboot()" j.commandKey [("Cause", "RemoteReboot")])
  | .factoryReset, _ =>
    .ok (.operate "Device.FactoryReset()" j.commandKey [("Cause", "RemoteFactoryReset")])
  | .diagnosticsPing, .diagnosticsPing p =>
    .ok (.operate "Device.IP.Diagnostics.IPPing()" j.commandKey
      [("ProtocolVersion", "Any"), ("Host", p.host),
        ("NumberOfRepetitions", toString p.numberOfRepetitions), ("Timeout", toString p.timeout),
        ("DataBlockSize", toString p.dataBlockSize), ("DSCP", toString p.dscp)])
  | .diagnosticsTraceroute, .diagnosticsTraceroute p =>
    .ok (.operate "Device.IP.Diagnostics.TraceRoute()" j.commandKey
      [("ProtocolVersion", "Any"), ("Host", p.host), ("NumberOfTries", toString p.numberOfTries),
        ("Timeout", toString p.timeout), ("DataBlockSize", toString p.dataBlockSize),
        ("DSCP", toString p.dscp), ("MaxHopCount", toString p.maxHopCount)])
  | .diagnosticsDownload, .diagnosticsDownload p =>
    if p.uspCommand ≠ downloadDiagnosticsCommand then .error .unsupportedOverUSP
    else .ok (.operate p.uspCommand j.commandKey
      [("DownloadURL", p.url), ("ProtocolVersion", "Any")])
  | .diagnosticsUpload, .diagnosticsUpload p =>
    if p.uspCommand ≠ uploadDiagnosticsCommand then .error .unsupportedOverUSP
    else
      let length := if p.testFileLength = 0 then 1048576 else p.testFileLength
      .ok (.operate p.uspCommand j.commandKey
        [("UploadURL", p.url), ("ProtocolVersion", "Any"), ("TestFileLength", toString length)])
  | .parameterDiscovery, .parameterDiscovery p =>
    .ok (.getSupportedDM p.requestPath p.incremental)
  | .firmwareDownload, .firmwareDownload p =>
    if p.uspInstance = "" then .error .unsupportedOverUSP
    else
      match firmwareDownloadOperation p.uspInstance p.url p.fileSize with
      | .error msg => .error (.invalid msg)
      | .ok (command, args) =>
        .ok (.operate command j.commandKey (args ++
          (if p.username ≠ "" then [("Username", p.username)] else []) ++
          (if p.password ≠ "" then [("Password", p.password)] else [])))
  | .connectionRequest, _ | .scheduleInform, _ | .setParameterAttributes, _
  | .getParameterAttributes, _ | .upload, _ => .error .unsupportedOverUSP
  | _, _ => .error (.invalid ("unmarshal " ++ j.type.text ++ " payload"))

/-! ### Responses -/

structure UspError where
  code : Nat
  message : String

structure ResolvedPath where
  resolvedPath : String
  resultParams : List (String × String)

structure GetResult where
  requestedPath : String
  error : UspError := ⟨0, ""⟩
  resolved : List ResolvedPath := []

structure GetInstancesResult where
  requestedPath : String
  error : UspError := ⟨0, ""⟩
  currInsts : List String := []

/-- One updated object: failed, or with the parameter errors of each instance. -/
inductive SetStatus where
  | failure (e : UspError)
  | success (paramErrs : List (List UspError))
  | unset

inductive AddStatus where
  | failure (e : UspError)
  | success (instantiatedPath : String) (paramErrs : List UspError)
  | unset

inductive DeleteStatus where
  | failure (e : UspError)
  | success (affectedPaths : List String) (unaffectedPathErrs : List UspError)
  | unset

inductive OperateStatus where
  /-- Accepted: the command runs, and an OperationComplete will follow. -/
  | reqObjPath (path : String)
  | reqOutputArgs (args : List (String × String))
  | cmdFailure (e : UspError)
  | unset

inductive ParamAccess where
  | readOnly | readWrite | writeOnly
  deriving DecidableEq

def ParamAccess.text : ParamAccess → String
  | .readOnly => "PARAM_READ_ONLY"
  | .readWrite => "PARAM_READ_WRITE"
  | .writeOnly => "PARAM_WRITE_ONLY"

structure SupportedParam where
  name : String
  access : ParamAccess
  valueType : String := "PARAM_UNKNOWN"
  valueChange : String := "VALUE_CHANGE_UNKNOWN"

structure SupportedObj where
  path : String
  commands : List String := []
  events : List String := []
  params : List SupportedParam := []

structure SupportedDMResult where
  reqObjPath : String
  error : UspError := ⟨0, ""⟩
  supportedObjs : List SupportedObj := []

inductive UspResponse where
  | get (results : List GetResult)
  | set (results : List (String × SetStatus))
  | getInstances (results : List GetInstancesResult)
  | add (results : List (String × AddStatus))
  | delete (results : List (String × DeleteStatus))
  | operate (results : List OperateStatus)
  | getSupportedDM (results : List SupportedDMResult)
  /-- Any other response, and a body that is no response. -/
  | other

inductive UspBody where
  | error (e : UspError)
  | response (r : UspResponse)

/-- A message with its id. -/
structure UspMsg where
  (msgID msgType : String)
  body : UspBody

/-! ### Classification -/

/-- `responseOutcome`: pending, failed, or done with what was reported. -/
structure ResponseOutcome where
  stillPending : Bool := false
  uspErr : Option UspError := none
  params : StringMap String := ∅
  discoveredNames : StringMap Bool := ∅
  discoveredCapabilities : List SupportedCapability := []
  instances : StringMap (List String) := ∅

def resolvedParameterPath (resolvedPath name : String) : String :=
  if Text.hasPrefix name resolvedPath then name else resolvedPath ++ name

/-- The first item that reports an error. -/
def firstError {α : Type} (errorOf : α → Option UspError) (items : List α) : Option UspError :=
  items.findSome? errorOf

/-- An error field: code 0 is none. -/
def UspError.present (e : UspError) : Option UspError :=
  if e.code ≠ 0 then some e else none

def SetStatus.error : SetStatus → Option UspError
  | .failure e => some e
  | .success paramErrs => firstError UspError.present paramErrs.flatten
  | .unset => none

def AddStatus.error : AddStatus → Option UspError
  | .failure e => some e
  | _ => none

def DeleteStatus.error : DeleteStatus → Option UspError
  | .failure e => some e
  | _ => none

def OperateStatus.error : OperateStatus → Option UspError
  | .cmdFailure e => some e
  | _ => none

def OperateStatus.accepted : OperateStatus → Bool
  | .reqObjPath _ => true
  | _ => false

/-- `params[k] = v` for a list of pairs. -/
def paramsOf (pairs : List (String × String)) : StringMap String :=
  pairs.foldl (fun m p => m.insert p.1 p.2) ∅

def classifyGetResp (results : List GetResult) : ResponseOutcome where
  uspErr := firstError (·.error.present) results
  params := paramsOf (results.flatMap fun r => r.resolved.flatMap fun resolved =>
    resolved.resultParams.map fun (name, value) =>
      (resolvedParameterPath resolved.resolvedPath name, value))

def classifySetResp (results : List (String × SetStatus)) : ResponseOutcome where
  uspErr := firstError (·.2.error) results

def classifyGetInstancesResp (results : List GetInstancesResult) : ResponseOutcome where
  uspErr := firstError (·.error.present) results
  instances := results.foldl (fun m r => m.insert r.requestedPath r.currInsts) ∅

def classifyAddResp (results : List (String × AddStatus)) : ResponseOutcome where
  uspErr := firstError (·.2.error) results
  params := paramsOf (results.filterMap fun (path, status) =>
    match status with
    | .success instantiatedPath _ => some (path, instantiatedPath)
    | _ => none)

def classifyDeleteResp (results : List (String × DeleteStatus)) : ResponseOutcome where
  uspErr := firstError (·.2.error) results
  params := paramsOf (results.filterMap fun (path, status) =>
    match status with
    | .success affectedPaths _ => some (path, Text.join affectedPaths ",")
    | _ => none)

/-- A failed command fails the job; otherwise one that was only accepted keeps it open. -/
def classifyOperateResp (results : List OperateStatus) : ResponseOutcome where
  uspErr := firstError OperateStatus.error results
  stillPending := (firstError OperateStatus.error results).isNone && results.any (·.accepted)
  params := paramsOf (results.flatMap fun
    | .reqOutputArgs args => args
    | _ => [])

/-- The names and the capabilities one supported object adds. -/
def supportedObject (obj : SupportedObj) : List (String × Bool) × List SupportedCapability :=
  if obj.path = "" then ([], [])
  else
    let commands := obj.commands.map (resolvedParameterPath obj.path)
    let events := obj.events.map (resolvedParameterPath obj.path)
    let params := obj.params.map fun p =>
      (resolvedParameterPath obj.path p.name,
        decide (p.access = .readWrite ∨ p.access = .writeOnly), p)
    (((obj.path, false) :: commands.map (·, false)) ++ params.map fun (name, w, _) => (name, w),
      { path := obj.path, writable := false, commands, events } ::
        params.map fun (path, writable, p) =>
          { path, writable, valueType := p.valueType, valueChange := p.valueChange,
            access := p.access.text })

def classifyGetSupportedDMResp (results : List SupportedDMResult) : ResponseOutcome where
  uspErr := firstError (·.error.present) results
  params := paramsOf (results.map fun r =>
    (r.reqObjPath, toString r.supportedObjs.length ++ " supported objects discovered"))
  discoveredNames := (results.flatMap fun r => r.supportedObjs.flatMap fun obj =>
    (supportedObject obj).1).foldl (fun m p => m.insert p.1 p.2) ∅
  discoveredCapabilities := results.flatMap fun r => r.supportedObjs.flatMap fun obj =>
    (supportedObject obj).2

def classifyResponse : UspResponse → ResponseOutcome
  | .get results => classifyGetResp results
  | .set results => classifySetResp results
  | .getInstances results => classifyGetInstancesResp results
  | .add results => classifyAddResp results
  | .delete results => classifyDeleteResp results
  | .operate results => classifyOperateResp results
  | .getSupportedDM results => classifyGetSupportedDMResp results
  | .other => {}

/-- An asynchronous completion. -/
structure OperationComplete where
  commandKey : String
  outputArgs : List (String × String) := []
  failure : Option UspError := none

/-- `classifyAndFail`: the fault code and text recorded for an error. -/
def faultOf (e : UspError) : String × String :=
  (toString e.code,
    if e.code = 7013 then "parameter is not writeable: " ++ e.message
    else if e.code = 7006 then
      "controller-trust misconfiguration (permission denied): " ++ e.message
    else e.message)

end Acs
