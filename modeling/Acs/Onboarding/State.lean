/-
The state machine of an onboarding (`internal/onboarding/state.go`, `types.go`).

`evaluate` is the whole of it: the next state of a sale, from its plan and what the
gateway knows about the device.  SIM identifiers and network codes are ASCII.
-/
import Acs.Lib.Text

namespace Acs

open Text

inductive OnboardingState where
  | planned | contacted | secured | discovered | configuring | inService
  | onHold | failed | cancelled | ended
  deriving DecidableEq

/-- `Open`: the onboarding can still progress or be retried. -/
def OnboardingState.isOpen : OnboardingState → Bool
  | .inService | .cancelled | .ended => false
  | _ => true

inductive ReasonCode where
  | deviceOtherCustomer | simMismatch | plmnNotAllowed | simUnreadable | configFailed
  | waitingSIMRead | waitingOwnCredential | waitingDiscovery | waitingConfig | ttlExpired
  deriving DecidableEq

structure CellularProfile where
  apn : String := ""
  dnn : String := ""
  mtu : Nat := 0
  bootstrapAPN : String := ""

def CellularProfile.empty (c : CellularProfile) : Bool :=
  c.apn = "" ∧ c.dnn = "" ∧ c.mtu = 0 ∧ c.bootstrapAPN = ""

/-- A row of `service_plans`. -/
structure ServicePlan where
  customerID : Option String := none
  code : String := ""
  templateIDs : List String := []
  cellular : CellularProfile := {}
  allowedPLMNs : List String := []
  requireDiscovery : Bool := true

def ServicePlan.hasConfiguration (p : ServicePlan) : Bool :=
  p.templateIDs ≠ [] ∨ !p.cellular.empty

/-- The home network of the SIM is one the plan allows; no list allows any. -/
def ServicePlan.allowsIMSI (p : ServicePlan) (imsi : String) : Bool :=
  p.allowedPLMNs = [] ∨ p.allowedPLMNs.any fun plmn =>
    trimSpace plmn ≠ "" ∧ hasPrefix imsi (trimSpace plmn)

/-- A row of `onboardings`, by its id.  NULL texts are empty. -/
structure Onboarding where
  customerID : Option String := none
  deviceID : Option String := none
  expectedOUI : String := ""
  expectedSerial : String
  expectedICCID : String := ""
  expectedIMSI : String := ""
  accountRef : String := ""
  siteID : Option String := none
  servicePlanID : Option String := none
  source : String := ""
  state : OnboardingState := .planned
  stateReason : String := ""
  stateCode : Option ReasonCode := none
  configJobs : List String := []
  bssRole : String := ""
  bssServicePlan : String := ""
  /-- The device it was recorded for.  For the proofs only. -/
  recordedFor : Option String := none
  /-- How often it was retried or given another plan.  For the proofs only. -/
  round : Nat := 0
  deriving DecidableEq

/-- `Facts`: what the gateway knows about the device. -/
structure OnboardingFacts where
  (informed secured discovered : Bool)
  (iccid imsi : String)
  configPending : Nat := 0
  configDone : Nat := 0
  configFailed : Nat := 0
  configError : String := ""

structure OnboardingDecision where
  state : OnboardingState
  reason : String := ""
  code : Option ReasonCode := none
  readSIM : Bool := false
  configure : Bool := false

section Evaluate

/-- `MaskSubscriberIdentifier` for the two kinds of identifier. -/
structure IdentifierMask where
  (iccid imsi : String → String)

variable (mask : IdentifierMask) (o : Onboarding) (plan : Option ServicePlan)
  (f : OnboardingFacts)

/-- `checkSIM`: the decision that stops the onboarding, if the SIM is not the one sold, not
on an allowed network, or not known yet. -/
def checkSIM : Option OnboardingDecision :=
  let iccid := trimSpace f.iccid
  let imsi := trimSpace f.imsi
  let plmns := (plan.map (·.allowedPLMNs)).getD []
  let needICCID := o.expectedICCID ≠ ""
  let needIMSI := o.expectedIMSI ≠ "" ∨ plmns ≠ []
  if needICCID ∧ iccid ≠ "" ∧ iccid ≠ trimSpace o.expectedICCID then
    some { state := .onHold, code := some .simMismatch,
           reason := "SIM does not match the sale: expected ICCID " ++ mask.iccid o.expectedICCID ++
             ", device reports " ++ mask.iccid iccid }
  else if o.expectedIMSI ≠ "" ∧ imsi ≠ "" ∧ imsi ≠ trimSpace o.expectedIMSI then
    some { state := .onHold, code := some .simMismatch,
           reason := "SIM does not match the sale: expected IMSI " ++ mask.imsi o.expectedIMSI ++
             ", device reports " ++ mask.imsi imsi }
  else if imsi ≠ "" ∧ plan.any fun p => p.allowedPLMNs ≠ [] ∧ !p.allowsIMSI imsi then
    some { state := .onHold, code := some .plmnNotAllowed,
           reason := "SIM belongs to network " ++ String.ofList (imsi.toList.take 5) ++
             "; the plan allows " ++ join plmns ", " }
  else if (needICCID ∧ iccid = "") ∨ (needIMSI ∧ imsi = "") then
    some { state := .contacted, reason := "waiting for the SIM identifiers",
           code := some .waitingSIMRead, readSIM := true }
  else none

def evaluateConfiguring : OnboardingDecision :=
  if 0 < f.configFailed then
    { state := .failed, reason := "configuration failed: " ++ f.configError,
      code := some .configFailed }
  else if 0 < f.configPending then
    { state := .configuring,
      reason := toString f.configPending ++ " configuration job(s) waiting for the device",
      code := some .waitingConfig }
  else { state := .inService }

def evaluateDiscovered : OnboardingDecision :=
  if plan.any (·.hasConfiguration) then { state := .configuring, configure := true }
  else { state := .inService }

def evaluateSecured : OnboardingDecision :=
  if plan.any (·.requireDiscovery) ∧ !f.discovered then
    { state := .secured, reason := "waiting for parameter discovery", code := some .waitingDiscovery }
  else evaluateDiscovered plan

def evaluateContacted : OnboardingDecision :=
  match checkSIM mask o plan f with
  | some d => d
  | none =>
    if !f.secured then
      { state := .contacted,
        reason := "waiting for the device to authenticate with its own credential",
        code := some .waitingOwnCredential }
    else evaluateSecured plan f

/-- `Evaluate`: advance an onboarding as far as the facts allow. -/
def evaluate : OnboardingDecision :=
  match o.state with
  -- terminal, or waiting for an operator
  | .inService | .cancelled | .ended | .failed | .onHold =>
    { state := o.state, reason := o.stateReason, code := o.stateCode }
  | .planned => if !f.informed then { state := .planned } else evaluateContacted mask o plan f
  | .contacted => evaluateContacted mask o plan f
  | .secured => evaluateSecured plan f
  | .discovered => evaluateDiscovered plan
  | .configuring => evaluateConfiguring f

end Evaluate

end Acs
