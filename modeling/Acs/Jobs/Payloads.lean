/-
The payloads of jobs (`internal/jobs/payloads.go`).

A job's payload is a JSON document whose shape depends on the job's type.  The
model keeps the decoded record of each shape, and `malformed` for a document that
does not decode as the shape its type asks for.  A malformed document can still
carry the three members the lease statements look at, so those stay with it.

Maps are association lists with distinct keys, in the order in which one iteration
over the Go map visits the entries; nothing that is proved depends on it.
-/
import Mathlib.Data.List.AList

namespace Acs

/-- `map[string]ν`. -/
abbrev StringMap (ν : Type) := AList (fun _ : String => ν)

namespace StringMap

/-- `m[k]` of a `map[string]bool`: a missing key reads as false. -/
def isSet (m : StringMap Bool) (k : String) : Bool :=
  (m.lookup k).getD false

/-- `len(m)`. -/
def size {ν : Type} (m : StringMap ν) : Nat :=
  m.keys.length

end StringMap

structure ParameterWrite where
  (name value type : String)
  secretHandle : String := ""
  deriving DecidableEq

structure SetParameterPayload where
  evidenceFirmware : String := ""
  evidenceBound : Bool := false
  nonReadable : List String := []
  parameters : List ParameterWrite
  verify : Bool := false
  verificationPending : Bool := false
  deriving DecidableEq

structure GetParameterPayload where
  evidenceFirmware : String := ""
  evidenceBound : Bool := false
  paths : List String
  instances : Bool := false
  firmware : String := ""
  deriving DecidableEq

structure FirmwareDownloadPayload where
  firmwareImageID : String := ""
  (fileType url : String)
  username : String := ""
  password : String := ""
  fileSize : Int := 0
  targetFilename : String := ""
  delaySeconds : Int := 0
  uspInstance : String := ""
  deriving DecidableEq

/-- `DiagnosticsPlan`: the writes that start a test and the leaves that report it. -/
structure DiagnosticsPlan where
  trigger : List ParameterWrite := []
  pollPaths : List String := []
  deriving DecidableEq

structure DiagnosticsPingPayload extends DiagnosticsPlan where
  host : String
  (numberOfRepetitions timeout dataBlockSize dscp : Int)
  pathPrefix : String := ""
  deriving DecidableEq

structure DiagnosticsTraceroutePayload extends DiagnosticsPlan where
  host : String
  (numberOfTries timeout dataBlockSize dscp maxHopCount : Int)
  pathPrefix : String := ""
  deriving DecidableEq

structure DiagnosticsDownloadPayload extends DiagnosticsPlan where
  (url pathPrefix : String)
  uspCommand : String := ""
  deriving DecidableEq

structure DiagnosticsUploadPayload extends DiagnosticsPlan where
  (url pathPrefix : String)
  uspCommand : String := ""
  testFileLength : Nat := 0
  deriving DecidableEq

structure AddObjectPayload where
  objectPath : String
  parameters : List ParameterWrite := []
  deriving DecidableEq

structure DeleteObjectPayload where
  objectPath : String
  deriving DecidableEq

structure ScheduleInformPayload where
  delaySeconds : Int
  deriving DecidableEq

structure AttributeWrite where
  name : String
  notification : Int
  deriving DecidableEq

structure SetParameterAttributesPayload where
  attributes : List AttributeWrite
  deriving DecidableEq

structure GetParameterAttributesPayload where
  paths : List String
  deriving DecidableEq

structure UploadPayload where
  (fileType url : String)
  username : String := ""
  password : String := ""
  delaySeconds : Int := 0
  deriving DecidableEq

/-- `SupportedCapability`: what a USP agent says about one path of its data model. -/
structure SupportedCapability where
  path : String
  writable : Bool
  valueType : String := ""
  access : String := ""
  valueChange : String := ""
  commands : List String := []
  events : List String := []
  deriving DecidableEq

structure ParameterDiscoveryPayload where
  root : String
  fallbackRoot : String := ""
  isFallback : Bool := false
  incremental : Bool := false
  cursor : String := ""
  pending : List String := []
  visited : StringMap Bool := ∅
  names : StringMap Bool := ∅
  skipped : List String := []
  retried : StringMap Bool := ∅
  firmware : String := ""
  capabilities : StringMap SupportedCapability := ∅
  merge : Bool := false
  deriving DecidableEq

/-- The members of an undecodable document that the lease statements read. -/
structure RawMembers where
  uspInstance : String := ""
  uspCommand : String := ""
  instances : Bool := false
  deriving DecidableEq

inductive Payload where
  | setParameter (p : SetParameterPayload)
  | getParameter (p : GetParameterPayload)
  | connectionRequest (timeoutSeconds : Int)
  | firmwareDownload (p : FirmwareDownloadPayload)
  | diagnosticsPing (p : DiagnosticsPingPayload)
  | diagnosticsTraceroute (p : DiagnosticsTraceroutePayload)
  | diagnosticsDownload (p : DiagnosticsDownloadPayload)
  | diagnosticsUpload (p : DiagnosticsUploadPayload)
  | addObject (p : AddObjectPayload)
  | deleteObject (p : DeleteObjectPayload)
  | reboot
  | factoryReset
  | scheduleInform (p : ScheduleInformPayload)
  | setParameterAttributes (p : SetParameterAttributesPayload)
  | getParameterAttributes (p : GetParameterAttributesPayload)
  | upload (p : UploadPayload)
  | parameterDiscovery (p : ParameterDiscoveryPayload)
  | malformed (members : RawMembers)
  deriving DecidableEq

end Acs
