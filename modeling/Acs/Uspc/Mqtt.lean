/-
The MQTT transport (`internal/usp/mtp/mqtt.go`, `security.go`, `mqtt_topics.go`).

The broker knows its clients by the id they chose, and so does the transport its logical
connections.  A second client may take over an id while the first one's disconnect is still
to be reported, so the handlers of the two run at the same time: looking a client up, its
principal, and the connection of its id are steps of their own.

A client is told from another of the same id by its number, as the source does by its
pointer.  `publisher` in statements, `authenticated`, `latest` and `gone` are recorded for the
proofs only: who has published what is handled, every principal a client was ever given, the
client established last under an id, and the clients whose disconnect has been handled.
-/
import Acs.Lib.Assoc
import Acs.Lib.Growing
import Acs.Uspc.Endpoint

namespace Acs.Mqtt

open Prog Endpoint

/-- A client of the broker. -/
structure Client where
  number : Nat
  id : String
  deriving DecidableEq

/-- What the transport uses of `principal.Principal`. -/
structure Principal where
  endpointID : String
  mqttTopic : Bytes

/-- `mqttConn`, as far as it is fixed. -/
structure MqttConn where
  number : Nat
  client : Client
  endpoint : String
  deriving DecidableEq

/-- What `usp.DecodeRecord` makes of a payload. -/
inductive Decoded where
  | record (source : String)
  /-- `ErrNoPayload`, which comes with the record. -/
  | noPayload (source : String)
  | undecodable

/-- `Record.From` -/
def Decoded.source : Decoded → Option String
  | .record source | .noPayload source => some source
  | .undecodable => none

/-- A PUBLISH packet. -/
structure Packet where
  topicName : Bytes
  protocolVersion : Nat := 5
  responseTopic : Bytes := []
  payload : String

/-- What the transport is configured with. -/
structure Config where
  controllerTopic : Bytes
  /-- A `PrincipalAuthenticator` is configured. -/
  authenticates : Bool := true
  decodeRecord : String → Decoded

/-! ### Topics -/

/-- `mqttTopicAllowed` -/
def Principal.mayPublish (p : Principal) (controllerTopic topic : Bytes) : Bool :=
  topic = controllerTopic || topic = controllerTopic ++ replyToKey ++ escapeReplyTo p.mqttTopic

/-- Where the agent wants its answers; empty if the packet does not say. -/
def Packet.replyTopic (cfg : Config) (pk : Packet) : Bytes :=
  if pk.protocolVersion = 5 then pk.responseTopic
  else (replyToFromV311Topic pk.topicName cfg.controllerTopic).getD []

/-! ### The transport -/

/-- The broker and the transport. -/
structure Transport where
  /-- The broker's clients, by their ids. -/
  clients : AList fun _ : String => Client := ∅
  /-- `allowlistHook.principals` -/
  principals : AList fun _ : Client => Principal := ∅
  /-- `MQTT.conns` -/
  conns : AList fun _ : String => MqttConn := ∅
  replyStates : AList fun _ : MqttConn => Nat × Bytes := ∅
  nextClient : Nat := 0
  nextConn : Nat := 0
  authenticated : AList fun _ : Client => Principal := ∅
  latest : AList fun _ : String => Client := ∅
  gone : List Client := []

/-- What the hooks and the handlers do, one step each. -/
inductive Stmt where
  /-- A network connection: `OnConnectAuthenticate`, with the answer of the authenticator. -/
  | authenticate (id : String)
  /-- The broker puts the client in the place of the one it had under the id. -/
  | establish (c : Client)
  | principalFor (c : Client)
  /-- `server.Clients.Get(pk.Origin)` -/
  | getClient (publisher : Client)
  | disconnectClient (c : Client)
  /-- `connFor`, with its lock held. -/
  | connFor (c : Client) (endpoint : String)
  | setReplyState (conn : MqttConn) (protocolVersion : Nat) (replyTopic : Bytes)
  | onConnect (conn : MqttConn)
  | onRecord (conn : MqttConn) (record : String) (publisher : Client)
  | forgetPrincipal (c : Client)
  /-- `handleDisconnect`, with its lock held. -/
  | dropConn (c : Client)
  | onDisconnect (conn : MqttConn)
  /-- The broker forgets the client, if it still has it. -/
  | release (c : Client)

/-- The answer to a statement. -/
def Stmt.Res : Stmt → Type
  | .authenticate _ => Option Client
  | .principalFor _ => Option Principal
  | .getClient _ => Option Client
  | .connFor .. => MqttConn × Bool
  | .dropConn _ => Option MqttConn
  | _ => Unit

/-- What the environment decides: whether a client may connect, and as whom. -/
inductive Verdict where
  | refused
  | admitted (p : Option Principal)

namespace Transport

variable (m : Transport)

/-- `OnConnectAuthenticate`.  Without an authenticator no principal is remembered. -/
def authenticate (cfg : Config) (id : String) : Verdict → Option Client × Transport
  | .refused => (none, m)
  | .admitted p =>
    let c : Client := ⟨m.nextClient, id⟩
    let m := { m with nextClient := m.nextClient + 1 }
    match cfg.authenticates, p with
    | false, _ => (some c, m)
    | true, none => (none, m)
    | true, some p => (some c, { m with
        principals := m.principals.insert c p, authenticated := m.authenticated.insert c p })

/-- The connection of the client's id, or a new one. -/
def connFor (c : Client) (endpoint : String) : (MqttConn × Bool) × Transport :=
  match m.conns.lookup c.id with
  | some conn => ((conn, true), m)
  | none =>
    let conn : MqttConn := ⟨m.nextConn, c, endpoint⟩
    ((conn, false), { m with conns := m.conns.insert c.id conn, nextConn := m.nextConn + 1 })

/-- The connection of the client's id, if it is the client's. -/
def dropConn (c : Client) : Option MqttConn × Transport :=
  let m := { m with gone := c :: m.gone }
  match m.conns.lookup c.id with
  | some conn => if conn.client = c then (some conn, { m with conns := m.conns.erase c.id }) else (none, m)
  | none => (none, m)

end Transport

section

variable (cfg : Config) (publisher : Client) (pk : Packet)

def Stmt.exec : (s : Stmt) → Verdict → Transport → s.Res × Transport
  | .authenticate id, v, m => m.authenticate cfg id v
  | .establish c, _, m =>
    ((), { m with clients := m.clients.insert c.id c, latest := m.latest.insert c.id c })
  | .principalFor c, _, m => (m.principals.lookup c, m)
  | .getClient publisher, _, m => (m.clients.lookup publisher.id, m)
  | .disconnectClient _, _, m => ((), m)
  | .connFor c endpoint, _, m => m.connFor c endpoint
  | .setReplyState conn version topic, _, m =>
    ((), { m with replyStates := m.replyStates.insert conn (version, topic) })
  | .onConnect _, _, m => ((), m)
  | .onRecord .., _, m => ((), m)
  | .forgetPrincipal c, _, m => ((), { m with principals := m.principals.erase c })
  | .dropConn c, _, m => m.dropConn c
  | .onDisconnect _, _, m => ((), m)
  | .release c, _, m =>
    ((), if m.clients.lookup c.id = some c then { m with clients := m.clients.erase c.id } else m)

open Mqtt.Stmt

/-! ### Programs -/

abbrev MqttProg := Prog Res

/-- A client connects. -/
def connect (id : String) : MqttProg Unit := do
  match ← perform (authenticate id) with
  | none => pure ()
  | some c => perform (establish c)

/-- `OnACLCheck` for a publish. -/
def onACLCheck (c : Client) (topic : Bytes) : MqttProg Bool :=
  if cfg.authenticates then do
    match ← perform (principalFor c) with
    | none => pure false
    | some p => pure (p.mayPublish cfg.controllerTopic topic)
  else pure true

/-- `verifyEndpointPrincipal` and `verifyMQTTReplyTopic` -/
def verifies (p : Option Principal) (claimed : String) (replyTopic : Bytes) : Bool :=
  p.all fun p => p.endpointID = claimed && p.mqttTopic = replyTopic

/-- `connFor` -/
def connFor (c : Client) (endpoint : String) (version : Nat) (replyTopic : Bytes) :
    MqttProg MqttConn := do
  let (conn, found) ← perform (Stmt.connFor c endpoint)
  perform (setReplyState conn version replyTopic)
  if found then pure conn
  else do
    perform (onConnect conn)
    pure conn

/-- `onPublish`, from where the publisher has been looked up. -/
def publishAs (publisher c : Client) (pk : Packet) (claimed : String) : MqttProg Unit := do
  let p ← perform (principalFor c)
  if cfg.authenticates && p.isNone then perform (disconnectClient c)
  else if !verifies p claimed (pk.replyTopic cfg) then perform (disconnectClient c)
  else do
    let conn ← connFor c claimed pk.protocolVersion (pk.replyTopic cfg)
    perform (onRecord conn pk.payload publisher)

/-- `onPublish` -/
def onPublish : MqttProg Unit :=
  if pk.replyTopic cfg = [] then pure ()
  else match (cfg.decodeRecord pk.payload).source with
    | none => pure ()
    | some claimed => do
      match ← perform (getClient publisher) with
      | none => pure ()
      | some c => publishAs cfg publisher c pk claimed

/-- A client publishes to the controller. -/
def publish : MqttProg Unit := do
  if ← onACLCheck cfg publisher pk.topicName then onPublish cfg publisher pk else pure ()

/-- `handleDisconnect`, and the broker's own part. -/
def handleDisconnect (c : Client) : MqttProg Unit := do
  perform (forgetPrincipal c)
  let conn ← perform (dropConn c)
  match conn with
  | some conn => perform (onDisconnect conn)
  | none => pure ()
  perform (release c)

/-- What a client of the broker does. -/
inductive Task where
  | connect (id : String)
  | publish (publisher : Client) (pk : Packet)
  | disconnect (c : Client)

def Task.prog : Task → MqttProg Unit
  | .connect id => Mqtt.connect id
  | .publish publisher pk => Mqtt.publish cfg publisher pk
  | .disconnect c => handleDisconnect c

abbrev Action := Pool.Action Task Verdict

abbrev Event := Pool.Event Res Transport

/-- The statements of a run that starts with no client. -/
def trace (as : List Action) : List Event :=
  (Pool.run (Stmt.exec cfg) (Task.prog cfg) as ⟨{}, []⟩).1

end

end Acs.Mqtt
