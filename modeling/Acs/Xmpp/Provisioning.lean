/-
A provisioning of XMPP connection requests (`internal/xmppprov`).

A device has at most one row.  It is walked through its states by the driver of
`Acs.Xmpp.Provisioner`; what is written to the device in a state is planned here, from the
names that discovery has found and whether each can be written.

The row carries, beside its columns, the number of the run it belongs to: every `Start`
begins a new one.  Who asked for the run and when it was begun and completed is left out.
-/
import Acs.Auth.Credentials
import Acs.Jobs.Discovery

namespace Acs.Xmpp

open Text

inductive State where
  | addConnection | discoverConnection | addServer | discoverServer | configure | bind | verify
  | done | failed
  deriving DecidableEq

def State.text : State → String
  | .addConnection => "ADD_CONNECTION"
  | .discoverConnection => "DISCOVER_CONNECTION"
  | .addServer => "ADD_SERVER"
  | .discoverServer => "DISCOVER_SERVER"
  | .configure => "CONFIGURE"
  | .bind => "BIND"
  | .verify => "VERIFY"
  | .done => "DONE"
  | .failed => "FAILED"

def State.terminal (s : State) : Bool :=
  s = .done || s = .failed

def connectionTable : String := "Device.XMPP.Connection."
def managementServer : String := "Device.ManagementServer."
def xmppRoot : String := "Device.XMPP."

/-- A row of `device_xmpp_provisioning`.  A text column that is NULL is read as the empty
text. -/
structure Provisioning where
  deviceID : String
  state : State
  credentialID : String
  connectionPath : String := ""
  serverPath : String := ""
  jobID : Option Nat := none
  attempts : Nat := 0
  domain : String
  resource : String := ""
  serverAddress : String := ""
  serverPort : Nat := 5222
  keepAliveInterval : Nat := 0
  acsJID : String := ""
  relaxCertVerification : Bool := false
  bypassHostnameCheck : Bool := false
  jabberID : String := ""
  connectionStatus : String := ""
  lastError : String := ""
  updatedAt : Time := 0
  /-- The run the row belongs to. -/
  run : Nat := 0
  deriving DecidableEq

/-! ### Planning -/

/-- The discovered parameters of a device, and whether each can be written. -/
abbrev Names := StringMap Bool

def instancePath (object : String) (instanceNumber : Nat) : String :=
  object ++ toString instanceNumber ++ "."

/-- `strconv.Atoi` of a text, if the number is positive. -/
def positiveNumber (text : String) : Option Nat :=
  let digits := match text.toList with
    | '+' :: digits => digits
    | digits => digits
  if digits.isEmpty || !digits.all isDigit then none
  else (atoi digits).filter (0 < ·)

/-- The instance of `object` a name lies in. -/
def instanceUnder (object name : String) : Option Nat :=
  (cutPrefix name object).bind fun rest => positiveNumber (before rest '.')

/-- The lowest-numbered discovered instance of an object. -/
def firstInstance (names : Names) (object : String) : String :=
  match (names.keys.filterMap (instanceUnder object)).insertionSort (· ≤ ·) with
  | [] => ""
  | n :: _ => instancePath object n

def connectionReference (connectionPath : String) : String :=
  trimSuffix connectionPath "."

/-- The writes gathered so far, and the required names that cannot be written. -/
structure Writer where
  names : Names
  writes : List ParameterWrite := []
  missing : List String := []

namespace Writer

def set (w : Writer) (name value type : String) (required : Bool) : Writer :=
  if w.names.lookup name = some true then { w with writes := w.writes ++ [⟨name, value, type, ""⟩] }
  else if required then { w with missing := w.missing ++ [name] }
  else w

def lack (w : Writer) (name : String) : Writer :=
  { w with missing := w.missing ++ [name] }

def result (w : Writer) : Except String (List ParameterWrite) :=
  if w.missing.isEmpty then .ok w.writes
  else .error ("device does not expose these as writable parameters: " ++ join w.missing ", ")

end Writer

section

variable (names : Names) (p : Provisioning) (username password : String)

/-- The vendor's name for a leaf: the first of those below `under` that end in `suffix`. -/
def vendorParam (under suffix : String) : String :=
  let found := names.keys.filter fun name =>
    match cutPrefix name under with
    | some rest => hasPrefix rest "X_" && !contains rest "." && hasSuffix rest suffix
    | none => false
  (sortStrings found).headD ""

/-- Write a leaf of the vendor's, or report that there is none. -/
def Writer.setVendor (w : Writer) (suffix value : String) : Writer :=
  let name := vendorParam w.names xmppRoot suffix
  if name ≠ "" then w.set name value "xsd:boolean" true
  else w.lack (xmppRoot ++ "X_*_" ++ suffix)

def configureWrites : Except String (List ParameterWrite) :=
  let c := p.connectionPath
  let s := p.serverPath
  let w : Writer := { names }
  let w := w.set (c ++ "Username") username "xsd:string" true
  let w := w.set (c ++ "Password") password "xsd:string" true
  let w := w.set (c ++ "Domain") p.domain "xsd:string" true
  let w := w.set (c ++ "Resource") p.resource "xsd:string" false
  let w := w.set (c ++ "UseTLS") "true" "xsd:boolean" false
  let w := w.set (c ++ "KeepAliveInterval") (toString p.keepAliveInterval) "xsd:long" false
  let w := w.set (c ++ "ServerConnectAlgorithm") "ServerTable" "xsd:string" false
  let w :=
    if s = "" then w.lack (c ++ "Server.\x7bi\x7d.ServerAddress")
    else
      let w := w.set (s ++ "Enable") "true" "xsd:boolean" false
      let w := w.set (s ++ "ServerAddress") p.serverAddress "xsd:string" true
      w.set (s ++ "Port") (toString p.serverPort) "xsd:unsignedInt" false
  let w := if p.relaxCertVerification then w.setVendor "CertificateVerificationRequired" "false" else w
  let w := if p.bypassHostnameCheck then w.setVendor "BypassHostnameCheck" "true" else w
  let w := w.set (c ++ "Enable") "true" "xsd:boolean" false
  w.result

def bindWrites : Except String (List ParameterWrite) :=
  let w : Writer := { names }
  let w := w.set (managementServer ++ "ConnReqXMPPConnection")
    (connectionReference p.connectionPath) "xsd:string" true
  let w := w.set (managementServer ++ "ConnReqAllowedJabberIDs") p.acsJID "xsd:string" false
  let name := vendorParam names managementServer "XMPP_Enable"
  let w := if name ≠ "" then w.set name "true" "xsd:boolean" false else w
  w.result

def verifyPaths : List String :=
  (managementServer ++ "ConnReqJabberID") ::
    (["Status", "JabberID", "TLSEstablished"].map (p.connectionPath ++ ·)).filter
      fun name => (names.lookup name).isSome

/-! ### What discovery leads to -/

/-- What the names found in a state lead to: the instance is not there yet, the run fails,
or the row goes on as it is given, in another state. -/
inductive Discovered where
  | notYet
  | fails (text : String)
  | next (p : Provisioning) (state : State)

def discoverConnection (names : Names) : Discovered :=
  if (names.lookup (p.connectionPath ++ "Username")).isNone then .notYet
  else
    let srv := firstInstance names (p.connectionPath ++ "Server.")
    -- the CPE created one along with the connection
    if srv ≠ "" then .next { p with serverPath := srv } .configure
    else if (names.lookup (p.connectionPath ++ "Server.")).isSome then .next p .addServer
    else .fails (p.connectionPath ++
      "Server. is not exposed; the ACS cannot tell the CPE where its XMPP server is")

def discoverServer (names : Names) : Discovered :=
  if (names.lookup (p.serverPath ++ "ServerAddress")).isNone then .notYet
  else .next p .configure

end

end Acs.Xmpp
