/-
The reconciler of the gateway (`cmd/acs/onboarding.go`) among the other operations on
sales, devices and jobs.

A pass loads the device and its open sale, gathers the facts statement by statement,
evaluates, queues what was decided and only then moves the sale.  What the parameter cache,
the credentials and the templates hold is decided by the environment.  Audit records, events
and the texts of errors are left out.
-/
import Acs.Onboarding.Store

namespace Acs

open Prog

/-- The discovered parameters of a device, and whether each can be written. -/
abbrev DiscoveredNames := List (String × Bool)

/-- Cached values by name. -/
abbrev CachedValues := List (String × String)

/-- Functions of the code that are not modelled: the masks of the identifiers, upper case
in Go and in the database, and what `cellular.go` finds among names by regular
expressions. -/
structure OnboardingEnv where
  mask : IdentifierMask
  (toUpper upper : String → String)
  simIdentifiers : CachedValues → String × String
  simReadPaths : DiscoveredNames → List String
  cellularWrites : CellularProfile → DiscoveredNames → CachedValues → List ParameterWrite

/-! ### Statements -/

/-- The statements of a pass that has loaded its sale. -/
inductive PassStmt where
  | getPlan (planID : String)
  | deviceSecured
  | getNames
  | getCache
  | configOutcome (keys : List String)
  | hasOpenJobByCreator (createdBy : String)
  | createSIMRead (createdBy : String) (paths : List String)
  | templateByID (id : String)
  | createConfigJob (createdBy : String) (part : ConfigPart) (writes : List ParameterWrite)
  | apply (d : OnboardingDecision) (bindTo : Option String) (configJobs : Option (List String))
  /-- The pass is done.  Nothing is executed. -/
  | returns

inductive OnboardingStmt where
  | getDevice (deviceID : String)
  | openForDevice (deviceID : String) (device : OnboardingDevice)
  /-- A statement of a pass on a device and a sale. -/
  | ofPass (deviceID saleID : String) (sale : Onboarding) (s : PassStmt)
  | create (o : Onboarding)
  | retry (saleID : String)
  | cancel (saleID : String)
  | cancelWithReason (saleID reason : String)
  | endService (saleID : String) (reason : UnassignReason)
  | swap (saleID : String) (reason : UnassignReason) (newSerial newOUI : String)
  | changePlan (saleID planID : String) (configures : Bool)
  | assignCustomer (deviceID : String) (customerID : Option String)
  | claimDevice (deviceID customerID : String)
  | setJobStatus (key : String) (status : Status) (fault : String)

open OnboardingWorld (ApplyResult ConfigOutcome LifecycleError EndResult)

/-- The answer to a statement of a pass; `none` is an error. -/
def PassStmt.Res : PassStmt → Type
  | .getPlan _ => Option ServicePlan
  | .deviceSecured => Bool
  | .getNames => Option DiscoveredNames
  | .getCache => Option CachedValues
  | .configOutcome _ => Option ConfigOutcome
  | .hasOpenJobByCreator _ => Option Bool
  | .createSIMRead .. | .createConfigJob .. => Option String
  | .templateByID _ => Option (List ParameterWrite)
  | .apply .. => Option ApplyResult
  | .returns => Unit

def OnboardingStmt.Res : OnboardingStmt → Type
  | .getDevice _ => Option OnboardingDevice
  | .openForDevice .. => Option (Option (String × Onboarding))
  | .ofPass _ _ _ s => s.Res
  | .create _ => Option Unit
  | .retry _ | .cancel _ | .cancelWithReason .. => Option Bool
  | .endService .. | .swap .. => Option (Except LifecycleError EndResult)
  | .changePlan .. => Option (Except LifecycleError Unit)
  | .assignCustomer .. | .claimDevice .. | .setJobStatus .. => Option Unit

/-- What the environment decides about a statement. -/
structure OnboardingChoice where
  delivery : Delivery := .executed
  now : Time := 0
  /-- A new id or command key. -/
  fresh : String := ""
  secured : Bool := true
  names : Option DiscoveredNames := some []
  cache : Option CachedValues := some []
  template : Option (List ParameterWrite) := none

/-- A transaction that is rolled back with an error, or commits. -/
def OnboardingWorld.commit {ε α : Type} (w : OnboardingWorld) :
    Except ε (α × OnboardingWorld) → Except ε α × OnboardingWorld
  | .error e => (.error e, w)
  | .ok (a, w') => (.ok a, w')

section Exec

variable (env : OnboardingEnv)

def PassStmt.exec (deviceID saleID : String) (sale : Onboarding) (s : PassStmt)
    (c : OnboardingChoice) (w : OnboardingWorld) : s.Res × OnboardingWorld :=
  match s with
  | .getPlan planID => ((c.delivery.deliver (w.plans planID) w w).1.join, w)
  | .deviceSecured => (c.secured, w)
  | .getNames => (c.names, w)
  | .getCache => (c.cache, w)
  | .configOutcome keys => c.delivery.deliver (w.configOutcome keys) w w
  | .hasOpenJobByCreator createdBy =>
    c.delivery.deliver (w.hasOpenJobByCreator deviceID createdBy) w w
  | .createSIMRead createdBy _ =>
    c.delivery.attempt w (w.createJob c.fresh
      { deviceID, type := .getParameter, createdBy, saleID, round := w.roundOf saleID })
  | .templateByID _ => (c.template, w)
  | .createConfigJob createdBy part _ =>
    c.delivery.attempt w (w.createJob c.fresh
      { deviceID, type := .setParameter, createdBy, part := some part, saleID,
        round := w.roundOf saleID })
  | .apply d bindTo configJobs =>
    c.delivery.deliver (w.apply saleID sale d bindTo configJobs).1 w
      (w.apply saleID sale d bindTo configJobs).2
  | .returns => ((), { w with underway := w.underway.erase saleID })

def OnboardingStmt.exec (s : OnboardingStmt) (c : OnboardingChoice) (w : OnboardingWorld) :
    s.Res × OnboardingWorld :=
  match s with
  | .getDevice deviceID => ((c.delivery.deliver (w.devices.lookup deviceID) w w).1.join, w)
  | .openForDevice deviceID device =>
    match (c.delivery.deliver (w.openForDevice env.upper deviceID device) w w).1 with
    | some (some (saleID, sale)) =>
      (some (some (saleID, sale)), { w with underway := saleID :: w.underway })
    | r => (r, w)
  | .ofPass deviceID saleID sale s => s.exec deviceID saleID sale c w
  | .create o => c.delivery.attempt w (w.create env.toUpper c.fresh o)
  | .retry saleID => c.delivery.attempt w (some (w.retry saleID))
  | .cancel saleID => c.delivery.attempt w (some (w.cancel saleID))
  | .cancelWithReason saleID reason => c.delivery.attempt w (some (w.cancelWithReason saleID reason))
  | .endService saleID reason =>
    c.delivery.attempt w (some (w.commit (w.endService saleID reason c.now)))
  | .swap saleID reason newSerial newOUI =>
    c.delivery.attempt w
      (some (w.commit (w.swap env.toUpper saleID c.fresh reason newSerial newOUI c.now)))
  | .changePlan saleID planID configures =>
    c.delivery.attempt w (some (w.commit (w.changePlan saleID planID configures)))
  | .assignCustomer deviceID customerID =>
    c.delivery.deliver () w (w.assignCustomer deviceID customerID)
  | .claimDevice deviceID customerID => c.delivery.deliver () w (w.claimDevice deviceID customerID)
  | .setJobStatus key status fault => c.delivery.deliver () w (w.setJobStatus key status fault)

end Exec

/-! ### The reconciler -/

abbrev OnboardingProg : Type → Type :=
  Prog OnboardingStmt.Res

section Pass

variable (env : OnboardingEnv) (deviceID saleID : String) (o : Onboarding)

def ofPass (s : PassStmt) : OnboardingProg s.Res :=
  perform (OnboardingStmt.ofPass deviceID saleID o s)

/-- `creator` -/
def onboardingCreator : String :=
  "onboarding:" ++ saleID

section

variable (device : OnboardingDevice) (onInform : Bool) (plan : Option ServicePlan)
  (names : DiscoveredNames) (cache : CachedValues) (facts : OnboardingFacts)

/-- `readSIMForOnboarding`, if the decision asks for it on an Inform: queue one read of the
SIM identifiers, and what becomes of the decision. -/
def readSIMForOnboarding (d : OnboardingDecision) : OnboardingProg OnboardingDecision :=
  let paths := env.simReadPaths names
  let creator := onboardingCreator saleID ++ ":sim"
  if !d.readSIM ∨ !onInform then return d
  else if names ≠ [] ∧ !paths.head?.any (fun p => (names.lookup p).isSome) then
    return { d with
      reason := "the device reports no SIM identifiers to check against the sale",
      code := some .simUnreadable }
  else do
    match ← ofPass deviceID saleID o (.hasOpenJobByCreator creator) with
    | some false => do
      let _ ← ofPass deviceID saleID o (.createSIMRead creator paths)
      return d
    | _ => return d

/-- The templates of a plan, each with what it writes, as long as they can be loaded. -/
def loadTemplates : List String → OnboardingProg (Option (List (ConfigPart × List ParameterWrite)))
  | [] => return some []
  | id :: rest => do
    match ← ofPass deviceID saleID o (.templateByID id) with
    | none => return none
    | some params => do
      let others ← loadTemplates rest
      return others.map ((.template id, params) :: ·)

/-- Queue what there is to write: the command keys, and whether all of it was queued. -/
def queueWrites :
    List (ConfigPart × List ParameterWrite) → List String → OnboardingProg (List String × Bool)
  | [], keys => return (keys, true)
  | (part, writes) :: rest, keys =>
    if writes = [] then queueWrites rest keys
    else do
      match ← ofPass deviceID saleID o (.createConfigJob (onboardingCreator saleID) part writes) with
      | none => return (keys, false)
      | some key => queueWrites rest (keys ++ [key])

/-- `queueOnboardingConfiguration`: the templates of the plan, then its cellular profile. -/
def queueOnboardingConfiguration (plan : ServicePlan) (names : DiscoveredNames)
    (cache : CachedValues) : OnboardingProg (List String × Bool) := do
  match ← loadTemplates deviceID saleID o plan.templateIDs with
  | none => return ([], false)
  | some writes =>
    queueWrites deviceID saleID o
      (writes ++ [(.cellular, env.cellularWrites plan.cellular names cache)]) []

/-- The plan of the sale: none, or an error. -/
def loadPlan : OnboardingProg (Option (Option ServicePlan)) :=
  match o.servicePlanID with
  | none => return some none
  | some planID => do
    let plan ← ofPass deviceID saleID o (.getPlan planID)
    return plan.map some

/-- The outcome of the configuration jobs, if the sale has some. -/
def loadOutcome : OnboardingProg (Option ConfigOutcome) :=
  if o.configJobs = [] then return some ⟨0, 0, 0, ""⟩
  else do
    match ← ofPass deviceID saleID o (.configOutcome o.configJobs) with
    | none => return none
    | some outcome => return some outcome

/-- The device belongs to another customer than a sale that is still to be bound. -/
def belongsToOther : Bool :=
  o.state = .planned ∧ device.customerID ≠ none ∧ o.customerID ≠ none ∧
    device.customerID ≠ o.customerID

/-- What is decided, and the device to bind. -/
def decideOnboarding : OnboardingDecision × Option String :=
  if belongsToOther o device then
    ({ state := .onHold, reason := "the device already belongs to another customer",
       code := some .deviceOtherCustomer }, none)
  else (evaluate env.mask o plan facts, some deviceID)

/-- Queue the configuration, if that was decided. -/
def configureOnboarding (d : OnboardingDecision) :
    OnboardingProg (OnboardingDecision × Option (List String)) :=
  match d.configure, plan with
  | true, some plan => do
    let queued ← queueOnboardingConfiguration env deviceID saleID o plan names cache
    if queued.2 then return (d, some queued.1)
    else return ({ state := .failed, reason := "configuration could not be queued: ",
                   code := some .configFailed }, some queued.1)
  | _, _ => return (d, none)

/-- Move the sale, unless nothing has changed. -/
def applyOnboarding (d : OnboardingDecision) (bindTo : Option String)
    (configJobs : Option (List String)) : OnboardingProg Unit :=
  if d.state = o.state ∧ d.reason = o.stateReason ∧ configJobs = none then return ()
  else do
    let _ ← ofPass deviceID saleID o (.apply d bindTo configJobs)
    return ()

/-- Carry out what the facts lead to. -/
def carryOut : OnboardingProg Unit := do
  let decided := decideOnboarding env deviceID o device plan facts
  let d ← readSIMForOnboarding env deviceID saleID o onInform names decided.1
  let configured ← configureOnboarding env deviceID saleID o plan names cache d
  applyOnboarding deviceID saleID o configured.1 decided.2 configured.2

/-- A pass from where its sale is loaded. -/
def reconcileSale : OnboardingProg Unit := do
  match ← loadPlan deviceID saleID o with
  | none => return ()
  | some plan => do
    let secured : Bool ← ofPass deviceID saleID o .deviceSecured
    let names : Option DiscoveredNames ← ofPass deviceID saleID o .getNames
    match ← ofPass deviceID saleID o .getCache with
    | none => return ()
    | some cache => do
      match ← loadOutcome deviceID saleID o with
      | none => return ()
      | some outcome =>
        carryOut env deviceID saleID o device onInform plan (names.getD []) cache
          { informed := true, secured, discovered := names.getD [] ≠ [],
            iccid := (env.simIdentifiers cache).1, imsi := (env.simIdentifiers cache).2,
            configPending := outcome.pending, configDone := outcome.done,
            configFailed := outcome.failed, configError := outcome.firstError }

end

end Pass

/-- `reconcileOnboarding`, on an Inform or at the end of a session. -/
def reconcileOnboarding (env : OnboardingEnv) (deviceID : String) (onInform : Bool) :
    OnboardingProg Unit := do
  match ← perform (OnboardingStmt.getDevice deviceID) with
  | none => return ()
  | some device => do
    match ← perform (OnboardingStmt.openForDevice deviceID device) with
    | some (some (saleID, o)) => do
      reconcileSale env deviceID saleID o device onInform
      ofPass deviceID saleID o .returns
    | _ => return ()

/-! ### The system -/

inductive OnboardingTask where
  | reconcile (deviceID : String) (onInform : Bool)
  | create (o : Onboarding)
  | retry (saleID : String)
  | cancel (saleID : String)
  | cancelWithReason (saleID reason : String)
  | endService (saleID : String) (reason : UnassignReason)
  | swap (saleID : String) (reason : UnassignReason) (newSerial newOUI : String)
  | changePlan (saleID planID : String) (configures : Bool)
  | assignCustomer (deviceID : String) (customerID : Option String)
  | claimDevice (deviceID customerID : String)
  | jobStatus (key : String) (status : Status) (fault : String)

def OnboardingTask.prog (env : OnboardingEnv) : OnboardingTask → OnboardingProg Unit
  | .reconcile deviceID onInform => reconcileOnboarding env deviceID onInform
  | .create o => do
    let _ ← perform (OnboardingStmt.create o)
    return ()
  | .retry saleID => do
    let _ ← perform (OnboardingStmt.retry saleID)
    return ()
  | .cancel saleID => do
    let _ ← perform (OnboardingStmt.cancel saleID)
    return ()
  | .cancelWithReason saleID reason => do
    let _ ← perform (OnboardingStmt.cancelWithReason saleID reason)
    return ()
  | .endService saleID reason => do
    let _ ← perform (OnboardingStmt.endService saleID reason)
    return ()
  | .swap saleID reason newSerial newOUI => do
    let _ ← perform (OnboardingStmt.swap saleID reason newSerial newOUI)
    return ()
  | .changePlan saleID planID configures => do
    let _ ← perform (OnboardingStmt.changePlan saleID planID configures)
    return ()
  | .assignCustomer deviceID customerID => do
    let _ ← perform (OnboardingStmt.assignCustomer deviceID customerID)
    return ()
  | .claimDevice deviceID customerID => do
    let _ ← perform (OnboardingStmt.claimDevice deviceID customerID)
    return ()
  | .jobStatus key status fault => do
    let _ ← perform (OnboardingStmt.setJobStatus key status fault)
    return ()

abbrev OnboardingEvent :=
  Pool.Event OnboardingStmt.Res OnboardingWorld

abbrev OnboardingAction :=
  Pool.Action OnboardingTask OnboardingChoice

end Acs
