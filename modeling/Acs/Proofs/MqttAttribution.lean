/-
Who a record over MQTT is taken to come from.

A client keeps the principal it was given for as long as it has one, so what is known of a
client's principal is never lost (`Transport.Grows`), and a connection has the endpoint of
its client's principal (`Transport.Sound`).  A record is checked against the principal of the
client that is found under the publisher's id.  As long as the clients of an id come one after
the other (`Event.inTurn`), the client and the connection that are found under an id are those
of the client established last, which is the publisher.
-/
import Acs.Uspc.Mqtt

namespace Acs.Mqtt

open Mqtt.Stmt Assoc Endpoint

/-! ### What is known of clients -/

/-- Principals are those of the clients, and what is kept under an id is of the client
established last. -/
structure Transport.Sound (m : Transport) : Prop where
  remembered : ∀ c p, m.principals.lookup c = some p → m.authenticated.lookup c = some p
  numbered : ∀ c p, m.authenticated.lookup c = some p → c.number < m.nextClient
  conns : ∀ id conn, m.conns.lookup id = some conn →
    ∃ p, m.authenticated.lookup conn.client = some p ∧ p.endpointID = conn.endpoint
  ids : ∀ id c, m.latest.lookup id = some c → c.id = id
  current : ∀ id conn, m.conns.lookup id = some conn →
    m.latest.lookup id = some conn.client ∧ conn.client ∉ m.gone
  clients : ∀ id c, m.clients.lookup id = some c → m.latest.lookup id = some c

/-- No principal is forgotten. -/
def Transport.Grows (a b : Transport) : Prop :=
  ∀ c p, a.authenticated.lookup c = some p → b.authenticated.lookup c = some p

/-- What an answer tells. -/
def Stmt.Tells (m : Transport) : (s : Stmt) → s.Res → Prop
  | .principalFor c, r => ∀ p, r = some p → m.authenticated.lookup c = some p
  | .getClient publisher, r => ∀ c, r = some c → c = publisher
  | .connFor c _, r =>
    r.1.client = c ∧ ∃ p, m.authenticated.lookup c = some p ∧ p.endpointID = r.1.endpoint
  | _, _ => True

/-- What a statement rests on. -/
def Stmt.Due (cfg : Config) (m : Transport) : Stmt → Prop
  | .connFor c endpoint => ∃ p, m.authenticated.lookup c = some p ∧ p.endpointID = endpoint
  | .onRecord conn record publisher =>
    (cfg.decodeRecord record).source = some conn.endpoint ∧ conn.client = publisher
  | _ => True

/-- The clients of an id come one after the other: one is established when the disconnect of
the one before it has been handled, and its publishes are handled after that and before its
own disconnect is. -/
def Event.inTurn (ev : Event) : Bool :=
  match ev.stmt with
  | .establish c => (ev.pre.latest.lookup c.id).all (· ∈ ev.pre.gone)
  | .getClient c | .connFor c _ => ev.pre.latest.lookup c.id = some c && c ∉ ev.pre.gone
  | _ => true

theorem Stmt.Tells.grows {a b : Transport} (h : a.Grows b) (s : Stmt) (r : s.Res)
    (hr : s.Tells a r) : s.Tells b r := by
  cases s with
  | principalFor c => exact fun p hp => h c p (hr p hp)
  | getClient => exact hr
  | connFor c endpoint =>
    obtain ⟨hclient, p, hp, hendpoint⟩ := hr
    exact ⟨hclient, p, h c p hp, hendpoint⟩
  | _ => trivial

/-! ### Statements -/

section Exec

variable {cfg : Config} {m : Transport}

theorem Transport.Sound.of_same {m' : Transport} (h : m.Sound)
    (hprincipals : ∀ c p, m'.principals.lookup c = some p → m.principals.lookup c = some p)
    (hauthenticated : m'.authenticated = m.authenticated) (hnext : m'.nextClient = m.nextClient)
    (hconns : m'.conns = m.conns) (hlatest : m'.latest = m.latest) (hgone : m'.gone = m.gone)
    (hclients : ∀ id c, m'.clients.lookup id = some c → m.clients.lookup id = some c) :
    m'.Sound where
  remembered c p hp := hauthenticated ▸ h.remembered c p (hprincipals c p hp)
  numbered c p hp := hnext ▸ h.numbered c p (hauthenticated ▸ hp)
  conns id conn hconn := hauthenticated ▸ h.conns id conn (hconns ▸ hconn)
  ids id c hc := h.ids id c (hlatest ▸ hc)
  current id conn hconn := hlatest ▸ hgone ▸ h.current id conn (hconns ▸ hconn)
  clients id c hc := hlatest ▸ h.clients id c (hclients id c hc)

theorem sound_authenticate (h : m.Sound) (id : String) (v : Verdict) :
    (m.authenticate cfg id v).2.Sound ∧ m.Grows (m.authenticate cfg id v).2 := by
  have hcounted : Transport.Sound { m with nextClient := m.nextClient + 1 } :=
    ⟨h.remembered, fun c p hp => Nat.lt_succ_of_lt (h.numbered c p hp), h.conns, h.ids, h.current,
      h.clients⟩
  have hnew : ∀ c p, m.authenticated.lookup c = some p → c ≠ ⟨m.nextClient, id⟩ := by
    rintro c p hp rfl
    exact Nat.lt_irrefl _ (h.numbered _ p hp)
  cases v with
  | refused => exact ⟨h, fun _ _ hp => hp⟩
  | admitted p =>
    unfold Transport.authenticate
    dsimp only
    split
    · exact ⟨hcounted, fun _ _ hp => hp⟩
    · exact ⟨hcounted, fun _ _ hp => hp⟩
    next p _ =>
      have hgrows : ∀ c q, m.authenticated.lookup c = some q →
          (m.authenticated.insert ⟨m.nextClient, id⟩ p).lookup c = some q := by
        intro c q hq
        rw [AList.lookup_insert_ne (hnew c q hq)]
        exact hq
      refine ⟨⟨?_, ?_, ?_, h.ids, h.current, h.clients⟩, hgrows⟩
      · intro c q hq
        have hq : (m.principals.insert ⟨m.nextClient, id⟩ p).lookup c = some q := hq
        rw [lookup_insert_if] at hq ⊢
        split at hq
        next heq => rw [if_pos heq]; exact hq
        next hne => rw [if_neg hne]; exact h.remembered c q hq
      · exact forall_lookup_insert (Nat.lt_succ_self _) fun c q hq =>
          Nat.lt_succ_of_lt (h.numbered c q hq)
      · intro id' conn hconn
        obtain ⟨q, hq, hendpoint⟩ := h.conns id' conn hconn
        exact ⟨q, hgrows _ q hq, hendpoint⟩

/-- The client of an id makes room for the next one when its disconnect has been handled. -/
theorem sound_establish (h : m.Sound) {c : Client}
    (hturn : (m.latest.lookup c.id).all (· ∈ m.gone)) :
    Transport.Sound
      { m with clients := m.clients.insert c.id c, latest := m.latest.insert c.id c } where
  remembered := h.remembered
  numbered := h.numbered
  conns := h.conns
  ids := forall_lookup_insert rfl h.ids
  current id conn hconn := by
    obtain ⟨hlatest, hgone⟩ := h.current id conn hconn
    refine ⟨?_, hgone⟩
    show (m.latest.insert c.id c).lookup id = _
    rw [AList.lookup_insert_ne]
    · exact hlatest
    · rintro rfl
      rw [hlatest] at hturn
      exact hgone (of_decide_eq_true hturn)
  clients id c' hc' := by
    show (m.latest.insert c.id c).lookup id = _
    have hc' : (m.clients.insert c.id c).lookup id = some c' := hc'
    rw [lookup_insert_if] at hc' ⊢
    split at hc'
    next heq => rw [if_pos heq]; exact hc'
    next hne => rw [if_neg hne]; exact h.clients id c' hc'

theorem sound_dropConn (h : m.Sound) (c : Client) :
    (m.dropConn c).2.Sound ∧ m.Grows (m.dropConn c).2 := by
  have hkept : ∀ id conn, m.conns.lookup id = some conn → conn.client ≠ c →
      m.latest.lookup id = some conn.client ∧ conn.client ∉ c :: m.gone := by
    intro id conn hconn hne
    obtain ⟨hlatest, hgone⟩ := h.current id conn hconn
    exact ⟨hlatest, List.not_mem_cons_of_ne_of_not_mem hne hgone⟩
  -- The connection of the client is under its id, if there is one.
  have hown : ∀ id conn, m.conns.lookup id = some conn → conn.client = c → id = c.id := by
    rintro id conn hconn rfl
    exact (h.ids id _ (h.current id conn hconn).1).symm
  unfold Transport.dropConn
  dsimp only
  split
  next conn hconn =>
    split
    · refine ⟨⟨h.remembered, h.numbered, fun id conn hq => h.conns id conn (lookup_of_erase hq).2,
        h.ids, fun id conn' hq => ?_, h.clients⟩, fun _ _ hp => hp⟩
      obtain ⟨hne, hq⟩ := lookup_of_erase hq
      exact hkept id conn' hq fun heq => hne (hown id conn' hq heq)
    next hother =>
      refine ⟨⟨h.remembered, h.numbered, h.conns, h.ids, fun id conn' hq => ?_, h.clients⟩,
        fun _ _ hp => hp⟩
      refine hkept id conn' hq fun heq => hother ?_
      obtain rfl := hown id conn' hq heq
      rwa [Option.some.inj (hconn.symm.trans hq)]
  next hnone =>
    refine ⟨⟨h.remembered, h.numbered, h.conns, h.ids, fun id conn' hq => ?_, h.clients⟩,
      fun _ _ hp => hp⟩
    refine hkept id conn' hq fun heq => ?_
    obtain rfl := hown id conn' hq heq
    cases hnone.symm.trans hq

theorem tells_exec (h : m.Sound) (s : Stmt) (v : Verdict) (hdue : s.Due cfg m)
    (hturn : Event.inTurn (Pool.fire (Stmt.exec cfg) s v m)) :
    s.Tells (s.exec cfg v m).2 (s.exec cfg v m).1 ∧ (s.exec cfg v m).2.Sound ∧
      m.Grows (s.exec cfg v m).2 := by
  have hsame : ∀ {m' : Transport}, m'.principals = m.principals → m'.authenticated = m.authenticated →
      m'.nextClient = m.nextClient → m'.conns = m.conns → m'.latest = m.latest → m'.gone = m.gone →
      (∀ id c, m'.clients.lookup id = some c → m.clients.lookup id = some c) →
      m'.Sound ∧ m.Grows m' := by
    intro m' hp ha hn hc hl hg hclients
    exact ⟨h.of_same (fun _ _ hq => hp ▸ hq) ha hn hc hl hg hclients, fun _ _ hq => ha ▸ hq⟩
  cases s with
  | authenticate id => exact ⟨trivial, sound_authenticate h id v⟩
  | establish c => exact ⟨trivial, sound_establish h hturn, fun _ _ hp => hp⟩
  | principalFor c => exact ⟨fun p hp => h.remembered c p hp, h, fun _ _ hp => hp⟩
  | getClient publisher =>
    refine ⟨?_, h, fun _ _ hp => hp⟩
    intro c hc
    obtain ⟨hlatest, -⟩ := Bool.and_eq_true_iff.mp hturn
    exact Option.some.inj ((h.clients _ c hc).symm.trans (of_decide_eq_true hlatest))
  | connFor c endpoint =>
    obtain ⟨hlatest, hgone⟩ := Bool.and_eq_true_iff.mp hturn
    have hlatest : m.latest.lookup c.id = some c := of_decide_eq_true hlatest
    have hgone : c ∉ m.gone := of_decide_eq_true hgone
    show Tells (m.connFor c endpoint).2 (.connFor c endpoint) (m.connFor c endpoint).1 ∧
      (m.connFor c endpoint).2.Sound ∧ m.Grows (m.connFor c endpoint).2
    unfold Transport.connFor
    split
    next conn hconn =>
      have hclient : conn.client = c :=
        Option.some.inj ((h.current c.id conn hconn).1.symm.trans hlatest)
      obtain ⟨p, hp, hendpoint⟩ := h.conns c.id conn hconn
      exact ⟨⟨hclient, p, hclient ▸ hp, hendpoint⟩, h, fun _ _ hp => hp⟩
    next =>
      refine ⟨⟨rfl, hdue⟩, ⟨h.remembered, h.numbered, ?_, h.ids, ?_, h.clients⟩, fun _ _ hp => hp⟩
      · exact forall_lookup_insert hdue h.conns
      · exact forall_lookup_insert ⟨hlatest, hgone⟩ h.current
  | forgetPrincipal c =>
    exact ⟨trivial, h.of_same (fun _ _ hq => (lookup_of_erase hq).2) rfl rfl rfl rfl rfl
      fun _ _ hq => hq, fun _ _ hp => hp⟩
  | dropConn c => exact ⟨trivial, sound_dropConn h c⟩
  | release c =>
    refine ⟨trivial, ?_⟩
    simp only [Stmt.exec]
    split
    · exact hsame rfl rfl rfl rfl rfl rfl fun _ _ hq => (lookup_of_erase hq).2
    · exact hsame rfl rfl rfl rfl rfl rfl fun _ _ hq => hq
  | _ => exact ⟨trivial, hsame rfl rfl rfl rfl rfl rfl fun _ _ hq => hq⟩

end Exec

/-! ### Programs -/

section Programs

variable {cfg : Config} (m : Transport)

theorem connFor_due {c : Client} {p : Principal} (hp : m.authenticated.lookup c = some p)
    (version : Nat) (replyTopic : Bytes) :
    (connFor c p.endpointID version replyTopic).All (Tells m) (Due cfg m)
      fun conn => conn.client = c ∧ conn.endpoint = p.endpointID := by
  refine ⟨⟨p, hp, rfl⟩, ?_⟩
  rintro ⟨conn, found⟩ ⟨hclient, q, hq, hendpoint⟩
  have hconn : conn.client = c ∧ conn.endpoint = p.endpointID := by
    refine ⟨hclient, ?_⟩
    rw [hp] at hq
    cases hq
    exact hendpoint.symm
  refine ⟨trivial, fun _ _ => ?_⟩
  split
  · exact hconn
  · exact ⟨trivial, fun _ _ => hconn⟩

theorem publishAs_due (hauth : cfg.authenticates) (c : Client) (pk : Packet) {claimed : String}
    (hclaimed : (cfg.decodeRecord pk.payload).source = some claimed) :
    (publishAs cfg c c pk claimed).Issues (Tells m) (Due cfg m) := by
  refine ⟨trivial, fun p hp => ?_⟩
  cases p with
  | none =>
    show Prog.All _ _ _ (if (cfg.authenticates && true) then _ else _)
    rw [hauth]
    exact ⟨trivial, fun _ _ => trivial⟩
  | some p =>
    show Prog.All _ _ _ (if (cfg.authenticates && false) then _ else _)
    rw [Bool.and_false]
    show Prog.All _ _ _ (if (!verifies (some p) _ _) then _ else _)
    cases hverified : verifies (some p) claimed (pk.replyTopic cfg) with
    | false => exact ⟨trivial, fun _ _ => trivial⟩
    | true =>
      obtain ⟨rfl, -⟩ : p.endpointID = claimed ∧ p.mqttTopic = pk.replyTopic cfg := by
        simpa [verifies] using hverified
      show Prog.All _ _ _ (connFor c p.endpointID _ _ >>= _)
      refine (connFor_due m (hp p rfl) _ _).bind ?_
      rintro conn ⟨hclient, hconn⟩
      exact ⟨⟨hclaimed.trans (congrArg some hconn.symm), hclient⟩, fun _ _ => trivial⟩

theorem publish_due (hauth : cfg.authenticates) (publisher : Client) (pk : Packet) :
    (publish cfg publisher pk).Issues (Tells m) (Due cfg m) := by
  have hacl : (onACLCheck cfg publisher pk.topicName).Issues (Tells m) (Due cfg m) := by
    unfold onACLCheck
    split
    · refine ⟨trivial, fun p _ => ?_⟩
      cases p with
      | none | some => trivial
    · trivial
  refine hacl.bind fun allowed _ => ?_
  split
  · unfold onPublish
    split
    · trivial
    split
    · trivial
    next claimed hclaimed =>
      refine ⟨trivial, fun found hfound => ?_⟩
      cases found with
      | none => trivial
      | some c =>
        obtain rfl := hfound c rfl
        exact publishAs_due m hauth c pk hclaimed
  · trivial

theorem task_due (hauth : cfg.authenticates) (t : Task) :
    (t.prog cfg).Issues (Tells m) (Due cfg m) := by
  cases t with
  | connect id =>
    refine ⟨trivial, fun c _ => ?_⟩
    cases c with
    | none => trivial
    | some c => exact ⟨trivial, fun _ _ => trivial⟩
  | publish publisher pk => exact publish_due m hauth publisher pk
  | disconnect c =>
    refine ⟨trivial, fun _ _ => ⟨trivial, fun conn _ => ?_⟩⟩
    cases conn with
    | none => exact ⟨trivial, fun _ _ => trivial⟩
    | some conn => exact ⟨trivial, fun _ _ => ⟨trivial, fun _ _ => trivial⟩⟩

end Programs

/-- In a run where the clients of an id come one after the other, every record that is handled is
from the endpoint of its connection, and was published by its client. -/
theorem record_attributed (cfg : Config) (hauth : cfg.authenticates = true) (as : List Action)
    (hturn : ∀ ev ∈ trace cfg as, ev.inTurn = true) :
    ∀ ev ∈ trace cfg as, ∀ conn record publisher, ev.stmt = .onRecord conn record publisher →
      (cfg.decodeRecord record).source = some conn.endpoint ∧ conn.client = publisher := by
  intro ev hev conn record publisher hstmt
  have hsound : Transport.Sound {} :=
    ⟨nofun, nofun, nofun, nofun, nofun, nofun⟩
  obtain ⟨t, hgrown⟩ := Pool.run_growing (R := Tells) (W := fun _ => Due cfg)
    (G := fun ev => Event.inTurn ev = true) (fun _ _ _ hp => hp)
    (fun _ _ _ h h' c p hp => h' c p (h c p hp)) (fun _ _ s r h => Tells.grows h s r)
    (fun _ s v m hG hdue hpre => tells_exec hpre s v hdue hG)
    hsound (fun t _ m => task_due m hauth t) hturn ev hev
  have hdue : (onRecord conn record publisher).Due cfg ev.pre := hstmt ▸ hgrown.stmt
  exact hdue

/-! ### Runs -/

def lab : Config where
  controllerTopic := ascii "usp/controller"
  decodeRecord payload := .record payload

section

variable (c : Client) (endpoint : String)

def agent : Principal := ⟨endpoint, ascii ("usp/" ++ endpoint)⟩

/-- Two clients with certificates of their own and one id. -/
def clientA : Client := ⟨0, "m"⟩

def clientB : Client := ⟨1, "m"⟩

def announces : Packet where
  topicName := ascii "usp/controller"
  responseTopic := ascii ("usp/" ++ endpoint)
  payload := endpoint

def connects : Action :=
  .atomic (.connect "m") fun _ => .admitted (some (agent endpoint))

def publishes : Action :=
  .atomic (.publish c (announces endpoint)) fun _ => .refused

def disconnects : Action :=
  .atomic (.disconnect c) fun _ => .refused

end

/-- Whom the records of a run are taken to come from, and who published them. -/
def handled (as : List Action) : List (String × Client × String × Client) :=
  (trace lab as).filterMap fun ev =>
    match ev.stmt with
    | .onRecord conn record publisher => some (conn.endpoint, conn.client, record, publisher)
    | _ => none

def oneByOne : List Action :=
  [connects "a", publishes clientA "a", disconnects clientA, connects "b", publishes clientB "b"]

/-- The disconnect of the client that was taken over is reported last. -/
def takenOver : List Action :=
  [connects "a", publishes clientA "a", connects "b", publishes clientB "b", disconnects clientA]

theorem record_attributed_oneByOne :
    handled oneByOne = [("a", clientA, "a", clientA), ("b", clientB, "b", clientB)] ∧
    ∀ ev ∈ trace lab oneByOne, ∀ conn record publisher, ev.stmt = .onRecord conn record publisher →
      (lab.decodeRecord record).source = some conn.endpoint ∧ conn.client = publisher :=
  ⟨by decide +kernel, record_attributed lab rfl oneByOne (by decide +kernel)⟩

/-- The record of `b` is handled on the connection of `a`. -/
theorem takenOver_misattributed :
    lab.authenticates = true ∧
    handled takenOver = [("a", clientA, "a", clientA), ("a", clientA, "b", clientB)] := by
  decide +kernel

end Acs.Mqtt
