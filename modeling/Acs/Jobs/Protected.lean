/-
Parameters that no operator may write (`internal/parameters/protected.go`,
`internal/jobs/protected.go`).

The list is written as regular expressions over names.  Every dot in them is an
escaped dot, no class contains one, and all of them are anchored at both ends, so an
expression matches a name exactly if its pieces match the segments of the name.  A
rule is given by its pieces; the comment beside it is the expression.
-/
import Acs.Jobs.Lifecycle

namespace Acs

/-- `[A-Za-z0-9_-]`. -/
def wordChar (c : Char) : Bool :=
  c.isAlphanum || c = '_' || c = '-'

/-- What an expression asks of one segment. -/
inductive SegmentPattern where
  /-- `(?:...|...)` of plain texts. -/
  | oneOf (words : List String)
  /-- `\d+`. -/
  | number
  /-- A start, `[A-Za-z0-9_-]+`, and one of some ends. -/
  | word (start : String) (ends : List String)

def SegmentPattern.matches : SegmentPattern → String → Bool
  | .oneOf words, s => s ∈ words
  | .number, s => s ≠ "" && s.toList.all Char.isDigit
  | .word start ends, s =>
    ends.any fun e =>
      Text.hasPrefix s start && Text.hasSuffix s e &&
        let middle := (s.toList.drop start.length).take (s.length - start.length - e.length)
        !middle.isEmpty && middle.all wordChar

/-- A piece of an expression. -/
inductive Piece where
  | segment (p : SegmentPattern)
  /-- `(?:...|...)` of runs of segments; the empty run stands for `?`. -/
  | group (runs : List (List SegmentPattern))
  /-- `(?:p\.)*`. -/
  | many (p : SegmentPattern)

/-- The pieces match the segments, all of them. -/
def matchesPieces : List Piece → List String → Bool
  | [], segments => segments.isEmpty
  | .segment _ :: _, [] => false
  | .segment p :: rest, s :: segments => p.matches s && matchesPieces rest segments
  | .group runs :: rest, segments => runs.any fun run =>
    run.length ≤ segments.length &&
      (run.zip segments).all (fun (p, s) => p.matches s) &&
      matchesPieces rest (segments.drop run.length)
  | .many p :: rest, segments => (List.range (segments.length + 1)).any fun n =>
    (segments.take n).all p.matches && matchesPieces rest (segments.drop n)

structure ProtectedRule where
  pieces : List Piece
  reason : String

/-- One segment with a fixed text. -/
def plain (s : String) : Piece := .segment (.oneOf [s])

/-- `^(?:Device|InternetGatewayDevice)\.`. -/
def rootPiece : Piece := .segment (.oneOf ["Device", "InternetGatewayDevice"])

def protectedRules : List ProtectedRule := [
  -- `ManagementServer\.URL$`
  ⟨[rootPiece, plain "ManagementServer", plain "URL"],
    "it points the CPE at an ACS; a wrong value cuts it off from this one"⟩,
  -- `ManagementServer\.(?:Username|Password)$`
  ⟨[rootPiece, plain "ManagementServer", .segment (.oneOf ["Username", "Password"])],
    "it is the CPE's own ACS credential, changed only by credential graduation and rotation"⟩,
  -- `ManagementServer\.ConnectionRequest(?:Username|Password)$`
  ⟨[rootPiece, plain "ManagementServer",
      .segment (.oneOf ["ConnectionRequestUsername", "ConnectionRequestPassword"])],
    "it is the Connection Request credential; use credential rotation"⟩,
  -- `ManagementServer\.EnableCWMP$`
  ⟨[rootPiece, plain "ManagementServer", plain "EnableCWMP"],
    "it switches TR-069 off on the CPE"⟩,
  -- `ManagementServer\.PeriodicInformEnable$`
  ⟨[rootPiece, plain "ManagementServer", plain "PeriodicInformEnable"],
    "disabling periodic Informs leaves a CPE behind CGNAT with no way to reach the ACS"⟩,
  -- `ManagementServer\.UpgradesManaged$`
  ⟨[rootPiece, plain "ManagementServer", plain "UpgradesManaged"],
    "it decides whether firmware may come from sources other than this ACS"⟩,
  -- `ManagementServer\.(?:ConnReqXMPPConnection|ConnReqAllowedJabberIDs|X_ALU_COM_XMPP_Enable)$`
  ⟨[rootPiece, plain "ManagementServer", .segment
      (.oneOf ["ConnReqXMPPConnection", "ConnReqAllowedJabberIDs", "X_ALU_COM_XMPP_Enable"])],
    "it is set by XMPP Connection Request provisioning"⟩,
  -- `ManagementServer\.X_[A-Za-z0-9_-]+_ACSIPv4List$`
  ⟨[rootPiece, plain "ManagementServer", .segment (.word "X_" ["_ACSIPv4List"])],
    "it restricts which addresses may act as ACS; a wrong value locks this ACS out"⟩,
  -- `(?:IP\.Interface\.\d+\.)?X_[A-Za-z0-9_-]+_(?:Wan|Lan)AccessCfg\.Tr69Disabled$`
  ⟨[rootPiece, .group [[.oneOf ["IP"], .oneOf ["Interface"], .number], []],
      .segment (.word "X_" ["_WanAccessCfg", "_LanAccessCfg"]), plain "Tr69Disabled"],
    "it blocks TR-069 on the CPE's interfaces"⟩,
  -- `X_ALU-COM_ModemDeviceInfo\.X_ALU-COM_(?:NokiaServerURL|ForceDownloadPreconfigFromServer|`
  -- `ForceDownloadDeltaConfigFromServer|DeltaConfig_Flag|ImageDownloadTimer)$`
  ⟨[rootPiece, plain "X_ALU-COM_ModemDeviceInfo", .segment
      (.oneOf ["X_ALU-COM_NokiaServerURL", "X_ALU-COM_ForceDownloadPreconfigFromServer",
        "X_ALU-COM_ForceDownloadDeltaConfigFromServer", "X_ALU-COM_DeltaConfig_Flag",
        "X_ALU-COM_ImageDownloadTimer"])],
    "it controls Nokia's pre-configuration and firmware source"⟩,
  -- `X_ALU-COM_ModemDeviceInfo\.X_ALU-COM_(?:BlockingTrafficByOperatorLock|`
  -- `QueryBOENGServerInOperatorLock|ObtainOPIDFromPLMN)$`
  ⟨[rootPiece, plain "X_ALU-COM_ModemDeviceInfo", .segment
      (.oneOf ["X_ALU-COM_BlockingTrafficByOperatorLock",
        "X_ALU-COM_QueryBOENGServerInOperatorLock", "X_ALU-COM_ObtainOPIDFromPLMN"])],
    "it is part of the Nokia operator (network) lock, set up with Nokia's pre-configuration"⟩,
  -- `X_ALU-COM_NWCC\.(?:[A-Za-z0-9_-]+\.)*URL$`
  ⟨[rootPiece, plain "X_ALU-COM_NWCC", .many (.word "" [""]), plain "URL"],
    "it points the CPE at Nokia's cloud controller; this ACS is the controller of record"⟩,
  -- `X_ALU-COM_FastmileController\.URL$`
  ⟨[rootPiece, plain "X_ALU-COM_FastmileController", plain "URL"],
    "it points the CPE at Nokia's cloud controller; this ACS is the controller of record"⟩,
  -- `X_ALU-COM_RemoteWebDebug\.[A-Za-z0-9_-]+$`
  ⟨[rootPiece, plain "X_ALU-COM_RemoteWebDebug", .segment (.word "" [""])],
    "it opens a remote debug channel on the CPE"⟩,
  -- `WiFi\.DataElements\.Network\.ControllerID$`
  ⟨[rootPiece, plain "WiFi", plain "DataElements", plain "Network", plain "ControllerID"],
    "it changes the EasyMesh controller identity"⟩,
  -- `(?:WiFi\.Radio\.\d+\.|LANDevice\.\d+\.WLANConfiguration\.\d+\.)RegulatoryDomain$`
  ⟨[rootPiece, .group [[.oneOf ["WiFi"], .oneOf ["Radio"], .number],
        [.oneOf ["LANDevice"], .number, .oneOf ["WLANConfiguration"], .number]],
      plain "RegulatoryDomain"],
    "it sets the country radio rules; a wrong value breaks spectrum regulation"⟩]

/-- `ProtectedReason`: the reason, if the parameter is protected. -/
def protectedReason (name : String) : Option String :=
  protectedRules.findSome? fun rule =>
    if matchesPieces rule.pieces (Text.split name '.') then some rule.reason else none

/-- `ProtectedParameterError`. -/
structure ProtectedParameterError where
  (name reason : String)

/-- `CheckProtected`: the first protected name. -/
def checkProtected (names : List String) : Option ProtectedParameterError :=
  names.findSome? fun name => (protectedReason name).map fun reason => ⟨name, reason⟩

/-- `checkProtectedWrite`; `allowed` is `AllowProtectedWrites`. -/
def checkProtectedWrite (allowed : Bool) (type : JobType) (payload : Payload) :
    Option ProtectedParameterError :=
  if type ≠ .setParameter || allowed then none
  else
    match payload.asSetParameter with
    | none => none
    | some p => checkProtected (p.parameters.map (·.name))

end Acs
