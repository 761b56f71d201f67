/-
What the operator API writes to a device (`cmd/api/device_handlers.go`,
`cmd/api/wifi_bulk.go`, `internal/diagnostics/cwmp.go`).

A request names parameters, or Wi-Fi settings, or a host to ping; the functions here
turn it into the payload of a job, or say why they refuse.  They read nothing but
their arguments.
-/
import Acs.Gateway.Rpc
import Acs.Jobs.Repository

namespace Acs

open Text

/-- What the API takes from packages that only look things up: the quoting of
`strconv`, the TR-181 dictionary, and the resolvers of canonical and Wi-Fi paths. -/
structure ApiTables where
  quote : String → String
  /-- `Dictionary.ValidateValue`: the error, if the value has the wrong form. -/
  validateValue : String → String → Option String
  /-- The type of `Dictionary.Lookup`. -/
  lookupType : String → Option String

/-! ### Parameters of a request -/

structure ParameterInput where
  name : String
  value : String := ""
  type : String := ""
  secretHandle : String := ""

def hasSecretHandle (inputs : List ParameterInput) : Bool :=
  inputs.any (·.secretHandle ≠ "")

section

variable (tables : ApiTables) (resolver : WiFiResolver) (root : String)
  (names : Option (StringMap Bool)) (cache : StringMap String) (s : WifiSettings)

/-- The type the dictionary gives to a write that names none. -/
def ApiTables.typeOf (p : ParameterInput) : String :=
  match tables.lookupType p.name with
  | some type =>
    if p.type = "" && type ≠ "" then
      if type = "base64" then "xsd:base64Binary" else "xsd:" ++ type
    else p.type
  | none => p.type

/-- One round of the loop of `buildSetParameterPayload`. -/
def buildParameterWrite (p : ParameterInput) : Except String ParameterWrite :=
  if p.name = "" then .error "each parameter requires a name"
  else if p.secretHandle ≠ "" then
    if p.value ≠ "" then
      .error ("parameter " ++ tables.quote p.name ++ " has both a value and a secret_handle")
    else
      .ok { name := p.name, value := "", type := p.type, secretHandle := p.secretHandle }
  else if hasPrefix p.name "Device." then
    match tables.validateValue p.name p.value with
    | some err => .error err
    | none => .ok { name := p.name, value := p.value, type := tables.typeOf p }
  else .ok { name := p.name, value := p.value, type := p.type }

def buildSetParameterPayload (inputs : List ParameterInput) : Except String SetParameterPayload :=
  if inputs = [] then .error "parameters must not be empty"
  else do
    let writes ← inputs.mapM (buildParameterWrite tables)
    return { parameters := writes, verify := true }

/-- `validateDiscoveredWritableParameters`: the first write the discovered names rule out. -/
def validateDiscoveredWritableParameters (names : StringMap Bool) (payload : SetParameterPayload) :
    Option String :=
  payload.parameters.findSome? fun p =>
    match (names.lookup p.name).or (names.lookup (normalizePath p.name)) with
    | none => some ("parameter " ++ tables.quote p.name ++
        " is not supported by the discovered device model")
    | some false => some ("parameter " ++ tables.quote p.name ++
        " is read-only on the discovered device model")
    | some true => none

/-! ### Wi-Fi settings -/

structure WifiSettings where
  ssid : String := ""
  password : String := ""
  enabled : Option Bool := none

def WifiSettings.validate : Option String :=
  if s.ssid = "" && s.password = "" && s.enabled = none then
    some "SET_WIFI requires at least one of wifi_ssid, wifi_password, wifi_enabled"
  else if s.ssid ≠ "" && (trimSpace s.ssid ≠ s.ssid || s.ssid.utf8ByteSize > 32) then
    some "wifi_ssid must be 1-32 bytes without leading/trailing spaces"
  else if s.password ≠ "" && (s.password.utf8ByteSize < 8 || s.password.utf8ByteSize > 63) then
    some "wifi_password must be an 8-63 character WPA passphrase"
  else none

/-- A network as `ResolveWiFiNetworks` reports it. -/
structure WiFiNetwork where
  instance_ : Nat
  band : String := ""
  role : String
  namePath : String := ""
  nameWritable : Bool := false
  passphrasePath : String := ""
  passphraseWrite : Bool := false
  enablePath : String := ""
  enableWritable : Bool := false

structure WiFiNetworks where
  networks : List WiFiNetwork
  complete : Bool
  refreshPaths : List String := []

inductive CanonicalParameter where
  | wifiSSID | wifiKeyPassphrase | wifiEnable

/-- The resolvers of `internal/devices/adapters`. -/
structure WiFiResolver where
  resolveWritablePath : String → CanonicalParameter → Option (StringMap Bool) →
    Except String String
  resolveWiFiNetworks : StringMap Bool → StringMap String → WiFiNetworks

/-- The outcome of `planWiFiWrites`; `unknown` is `errWiFiRolesUnknown`. -/
inductive WifiPlan where
  | write (payload : SetParameterPayload) (detail : String)
  | unknown (refreshPaths : List String)
  | refused (text : String)

def dataModelRootIGD1 : String := "IGD1"

def wifiFlag (b : Bool) : String := if b then "1" else "0"

/-- A setting of a TR-098 device, if it is asked for. -/
def igdWiFiWrite (wanted : Bool) (p : CanonicalParameter) (what value type : String) :
    Except String (List ParameterInput) :=
  if wanted then
    match resolver.resolveWritablePath root p names with
    | .error err => .error (what ++ ": " ++ err)
    | .ok path => .ok [{ name := path, value := value, type := type }]
  else .ok []

/-- The writes to the canonical paths of a TR-098 device. -/
def igdWiFiWrites : Except String (List ParameterInput) := do
  let add := igdWiFiWrite resolver root names
  return (← add (s.ssid ≠ "") .wifiSSID "Wi-Fi SSID" s.ssid "xsd:string") ++
    (← add (s.password ≠ "") .wifiKeyPassphrase "Wi-Fi passphrase" s.password "xsd:string") ++
    (← add s.enabled.isSome .wifiEnable "Wi-Fi enable" (wifiFlag (s.enabled.getD false))
      "xsd:boolean")

/-- A setting of a network of a TR-181 device, if it is asked for. -/
def networkWrite (n : WiFiNetwork) (wanted : Bool) (path : String) (writable : Bool)
    (what value type : String) : Except String (List ParameterInput) :=
  if wanted then
    if path = "" || !writable then
      .error (what ++ " of network " ++ toString n.instance_ ++ " is not writable")
    else .ok [{ name := path, value := value, type := type }]
  else .ok []

/-- The writes to one primary network of a TR-181 device. -/
def networkWrites (n : WiFiNetwork) : Except String (List ParameterInput) := do
  let add := networkWrite n
  return (← add (s.ssid ≠ "") n.namePath n.nameWritable "SSID name" s.ssid "xsd:string") ++
    (← add (s.password ≠ "") n.passphrasePath n.passphraseWrite "passphrase" s.password
      "xsd:string") ++
    (← add s.enabled.isSome n.enablePath n.enableWritable "enable flag"
      (wifiFlag (s.enabled.getD false)) "xsd:boolean")

def WiFiNetwork.label (n : WiFiNetwork) : String :=
  "SSID " ++ toString n.instance_ ++ if n.band ≠ "" then " (" ++ n.band ++ ")" else ""

/-- The end of `planWiFiWrites`. -/
def wifiPlanOf (detail : String) : Except String (List ParameterInput) → WifiPlan
  | .error err => .refused err
  | .ok writes =>
    match buildSetParameterPayload tables writes with
    | .error err => .refused err
    | .ok payload => .write payload detail

def planWiFiWrites : WifiPlan :=
  if root = dataModelRootIGD1 then
    wifiPlanOf tables "TR-098 WLANConfiguration.1" (igdWiFiWrites resolver root names s)
  else if (names.getD ∅).size = 0 then
    .refused "run parameter discovery first: Wi-Fi networks are resolved from the discovered tree"
  else
    let view := resolver.resolveWiFiNetworks (names.getD ∅) cache
    let primary := view.networks.filter (·.role = "primary")
    if view.networks = [] then
      .refused "device has no Device.WiFi.SSID networks (Wi-Fi may be managed by its gateway)"
    else if !view.complete then .unknown view.refreshPaths
    else if primary = [] then
      .refused "device has no primary (enabled, non-guest) Wi-Fi network"
    else
      wifiPlanOf tables (join (primary.map (·.label)) " + ")
        ((primary.mapM (networkWrites s)).map List.flatten)

/-! ### A ping of a device -/

def pingDefaultRepetitions : Int := 4
def pingDefaultTimeoutMS : Int := 5000
def pingDefaultBlockSize : Int := 64
def diagnosticsMaxAttempts : Nat := 40

def applyPingDefaults (p : DiagnosticsPingPayload) : DiagnosticsPingPayload :=
  { p with
    numberOfRepetitions :=
      if p.numberOfRepetitions = 0 then pingDefaultRepetitions else p.numberOfRepetitions
    timeout := if p.timeout = 0 then pingDefaultTimeoutMS else p.timeout
    dataBlockSize := if p.dataBlockSize = 0 then pingDefaultBlockSize else p.dataBlockSize }

structure DiagnosticsInput where
  (leaf value : String)
  required : Bool := false

def objectDiscovered (names : StringMap Bool) (pathPrefix : String) : Bool :=
  (names.lookup pathPrefix).isSome || (names.lookup (trimSuffix pathPrefix ".")).isSome ||
    names.keys.any (hasPrefix · pathPrefix)

/-- The writes of the inputs that discovery found writable. -/
def triggerWrites (names : StringMap Bool) (unsupported : String → String) (pathPrefix : String) :
    List DiagnosticsInput → Except String (List ParameterWrite)
  | [] =>
    if names.isSet (pathPrefix ++ "DiagnosticsState") then
      .ok [{ name := pathPrefix ++ "DiagnosticsState", value := "Requested",
             type := leafType "DiagnosticsState" }]
    else
      .error (unsupported (pathPrefix ++
        "DiagnosticsState is not a discovered writable parameter"))
  | input :: rest =>
    if names.isSet (pathPrefix ++ input.leaf) then
      (triggerWrites names unsupported pathPrefix rest).map
        ({ name := pathPrefix ++ input.leaf, value := input.value,
           type := leafType input.leaf } :: ·)
    else if input.required then
      .error (unsupported (pathPrefix ++ input.leaf ++ " is not a discovered writable parameter"))
    else triggerWrites names unsupported pathPrefix rest

/-- `PlanCWMP`.  A device with the USP form of the command gets an empty plan. -/
def planCWMP (diagnostic pathPrefix : String) (inputs : List DiagnosticsInput)
    (resultLeaves : List String) : Except String DiagnosticsPlan :=
  match names with
  | none =>
    .error "device parameters have not been discovered; run parameter discovery first"
  | some names =>
    let unsupported (reason : String) := "device does not support " ++ diagnostic ++ ": " ++ reason
    if (names.lookup (trimSuffix pathPrefix "." ++ "()")).isSome then .ok {}
    else if !objectDiscovered names pathPrefix then
      .error (unsupported (pathPrefix ++ " was not found by parameter discovery"))
    else do
      let trigger ← triggerWrites names unsupported pathPrefix inputs
      return {
        trigger
        pollPaths := (pathPrefix ++ "DiagnosticsState") ::
          (resultLeaves.map (pathPrefix ++ ·)).filter (names.lookup · |>.isSome) }

def pingResultLeaves : List String :=
  ["SuccessCount", "FailureCount", "AverageResponseTime", "MinimumResponseTime",
   "MaximumResponseTime"]

def planPing (p : DiagnosticsPingPayload) : Except String DiagnosticsPingPayload := do
  let plan ← planCWMP names "IPPing" p.pathPrefix
    [⟨"Host", p.host, true⟩,
     ⟨"NumberOfRepetitions", toString p.numberOfRepetitions, false⟩,
     ⟨"Timeout", toString p.timeout, false⟩,
     ⟨"DataBlockSize", toString p.dataBlockSize, false⟩,
     ⟨"DSCP", toString p.dscp, false⟩] pingResultLeaves
  return { p with toDiagnosticsPlan := plan }

/-- `DiagnosticsPrefix` of a ping. -/
def diagnosticsPingPrefix : String :=
  if root = dataModelRootIGD1 then "InternetGatewayDevice.IPPingDiagnostics."
  else pingPrefix

end

def scheduledPingPayload (p : DiagnosticsPingPayload) (dataModelRoot : String)
    (names : Option (StringMap Bool)) : Except String DiagnosticsPingPayload :=
  planPing names (applyPingDefaults
    { p with pathPrefix := diagnosticsPingPrefix dataModelRoot, toDiagnosticsPlan := {} })

end Acs
