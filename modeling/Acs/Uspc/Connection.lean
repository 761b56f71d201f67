/-
The life of a USP connection (`cmd/uspc/handler.go`, `cmd/uspc/identity.go`,
`internal/usp/mtp/registry.go`, `usp_agents` of `internal/devices/usp_agents.go`).

The handlers of one connection run one after the other, those of different connections at
the same time.  The registry and the identities are maps under locks of their own and the
agents are rows of a table, so each look at one of them and each change is a step of its
own.  `Phase` says which step of its handler a connection comes to next.
-/
import Acs.Lib.Assoc
import Acs.Lib.Prog

namespace Acs.Uspc

/-- `mtp.Kind` -/
inductive Kind where
  | webSocket
  | mqtt
  deriving DecidableEq

/-- A connection; connections of one endpoint differ in their number. -/
structure Conn where
  number : Nat
  endpoint : String
  kind : Kind := .webSocket
  deriving DecidableEq

/-! ### The table of agents -/

/-- A row of `usp_agents`. -/
structure UspAgent where
  (deviceID endpointID : String)
  mtpKind : Kind
  connected : Bool
  supportedProtocolVersions : List String

/-- The table, with its primary key and its unique column. -/
structure UspAgents where
  rows : List UspAgent
  device : (rows.map (·.deviceID)).Nodup
  endpoint : (rows.map (·.endpointID)).Nodup

namespace UspAgents

/-- A change of the table is refused if it breaks one of the constraints. -/
def ofRows (rows : List UspAgent) : Option UspAgents :=
  if h : (rows.map (·.deviceID)).Nodup ∧ (rows.map (·.endpointID)).Nodup then
    some ⟨rows, h.1, h.2⟩
  else none

variable (agents : UspAgents)

/-- `GetUspAgentByEndpointID` -/
def byEndpointID (endpointID : String) : Option UspAgent :=
  agents.rows.find? (·.endpointID = endpointID)

/-- `LinkUspAgent`; `none` if the endpoint is another device's. -/
def link (deviceID endpointID : String) (kind : Kind) (versions : List String) : Option UspAgents :=
  if agents.rows.any (·.deviceID = deviceID) then
    ofRows (agents.rows.map fun a => if a.deviceID = deviceID then
      { a with
        endpointID := endpointID, mtpKind := kind, connected := true
        supportedProtocolVersions :=
          if versions.isEmpty then a.supportedProtocolVersions else versions }
      else a)
  else ofRows (agents.rows ++ [⟨deviceID, endpointID, kind, true, versions⟩])

/-- Change rows, but not whose they are. -/
def mapConnected (connected : UspAgent → Bool) : UspAgents where
  rows := agents.rows.map fun a => { a with connected := connected a }
  device := by simpa [Function.comp_def] using agents.device
  endpoint := by simpa [Function.comp_def] using agents.endpoint

/-- `MarkUspAgentDisconnected` -/
def markDisconnected (deviceID endpointID : String) : UspAgents :=
  agents.mapConnected fun a =>
    if a.deviceID = deviceID ∧ a.endpointID = endpointID then false else a.connected

/-- `resetUspAgentsConnected` -/
def resetConnected : UspAgents :=
  agents.mapConnected fun _ => false

end UspAgents

/-! ### Handlers -/

/-- `connIdentity` -/
structure ConnIdentity where
  deviceID : String := ""
  reconciled : Bool := false

/-- A record that tells which device the agent is.  `device` is what
`ReconcileFromOnBoard` finds, after the check of the principal. -/
inductive IdentityRecord where
  | onBoardRequest (device : Option String) (versions : List String)
  | probeResponse (device : Option String)

/-- The next step of a connection. -/
inductive Phase where
  /-- `OnConnect` -/
  | identify
  | register
  /-- No handler is running. -/
  | idle
  /-- `onBoard`, `fromProbeFallback` -/
  | link (deviceID : String) (versions : List String)
  /-- `resolveAndMarkReconciled` -/
  | resolve
  | mark (deviceID : String)
  /-- `OnDisconnect` -/
  | remove
  | look
  | disconnect (deviceID : String)
  | forget
  /-- No handler will run. -/
  | closed
  deriving DecidableEq

def Phase.running (p : Phase) : Bool :=
  p ≠ .idle ∧ p ≠ .closed

/-- The registry, the agents' rows and the handlers under way. -/
structure Controller where
  registry : AList fun _ : String => Conn := ∅
  identities : AList fun _ : Conn => ConnIdentity := ∅
  agents : UspAgents
  phases : AList fun _ : Conn => Phase := ∅

namespace Controller

variable (s : Controller)

/-- The controller as it starts. -/
def start (agents : UspAgents) : Controller where
  agents := agents.resetConnected

section

variable (c : Conn) (p : Phase)

def goto : Controller :=
  { s with phases := s.phases.insert c p }

/-- `reconciledDeviceID` -/
def reconciledDeviceID : Option String :=
  (s.identities.lookup c).bind fun i => if i.reconciled then some i.deviceID else none

def isReconciled : Bool :=
  (s.reconciledDeviceID c).isSome

/-- `Registry.Add`; the connection it replaces is closed, which its own handler notices
later. -/
def add : Controller :=
  { s with registry := s.registry.insert c.endpoint c }

/-- The registry has `c`. -/
def current : Bool :=
  s.registry.lookup c.endpoint = some c

/-- `Registry.Remove` -/
def remove : Controller :=
  if s.current c then { s with registry := s.registry.erase c.endpoint } else s

/-- A record starts a handler, or the handler has nothing to do. -/
def receive : IdentityRecord → Controller
  | .onBoardRequest none _ => s
  | .onBoardRequest (some device) versions => s.goto c (.link device versions)
  | .probeResponse none => s
  | .probeResponse (some device) => if s.isReconciled c then s else s.goto c (.link device [])

/-- The next step of `c`, where a statement may fail or lose its answer. -/
def next (d : Delivery) : Phase → Controller
  | .identify => { s with identities := s.identities.insert c {} }.goto c .register
  | .register => (s.add c).goto c .idle
  | .idle => s
  | .link device versions =>
    match d.attempt s.agents ((s.agents.link device c.endpoint c.kind versions).map ((), ·)) with
    | (some (), agents) => { s with agents := agents }.goto c .resolve
    | (none, agents) => { s with agents := agents }.goto c .idle
  | .resolve =>
    match d.deliver (s.agents.byEndpointID c.endpoint) s s with
    | (some (some agent), _) => s.goto c (.mark agent.deviceID)
    | _ => s.goto c .idle
  | .mark device =>
    { s with identities := s.identities.insert c ⟨device, true⟩ }.goto c .idle
  | .remove => (s.remove c).goto c (if s.current c then .look else .forget)
  | .look =>
    match s.reconciledDeviceID c with
    | some device => s.goto c (.disconnect device)
    | none => s.goto c .forget
  | .disconnect device =>
    { s with agents := (d.deliver () s.agents (s.agents.markDisconnected device c.endpoint)).2 }.goto
      c .forget
  | .forget => { s with identities := s.identities.erase c }.goto c .closed
  | .closed => s

end

end Controller

/-- What happens to a connection. -/
inductive ConnAct where
  /-- A transport has a new connection. -/
  | accept (c : Conn)
  | receive (c : Conn) (r : IdentityRecord)
  /-- The connection ends. -/
  | close (c : Conn)
  | step (c : Conn) (d : Delivery)

def ConnAct.conn : ConnAct → Conn
  | .accept c | .receive c _ | .close c | .step c _ => c

namespace Controller

variable (s : Controller)

/-- An action that cannot be taken changes nothing. -/
def act : ConnAct → Controller
  | .accept c => if (s.phases.lookup c).isSome then s else s.goto c .identify
  | .receive c r => if s.phases.lookup c = some .idle then s.receive c r else s
  | .close c => if s.phases.lookup c = some .idle then s.goto c .remove else s
  | .step c d =>
    match s.phases.lookup c with
    | some p => s.next c d p
    | none => s

def run (acts : List ConnAct) : Controller :=
  acts.foldl act s

/-- No handler is running. -/
def quiet : Bool :=
  s.phases.entries.all fun e => !e.2.running

/-- `usp_agents.connected` of the endpoint. -/
def connected (endpoint : String) : Bool :=
  (s.agents.byEndpointID endpoint).any (·.connected)

/-- The registry has a reconciled connection of the endpoint. -/
def live (endpoint : String) : Bool :=
  (s.registry.lookup endpoint).any s.isReconciled

end Controller

end Acs.Uspc
