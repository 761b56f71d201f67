/-
What the handlers of the site know when they write.

As in `Acs.Proofs.Knowledge`, a handler goes on with copies it read earlier.  What it may
rely on here is read off the site itself and never lost: the unchanging columns of a job,
what a discovery is for, the answers its walk was given, the device of a session, the
natural key of a device.  `Site.R` says what an answer tells in these terms, `Site.W` what
holds of a statement when a handler issues it.

`Site.W` has a parameter, the devices that the handler may act for.  A request whose
identity is bound to a device acts for that one only; other handlers act for all.
-/
import Acs.Site.System
import Acs.Proofs.DiscoveryStep

namespace Acs

/-! ### What is never lost -/

/-- What a discovery is for. -/
structure Aim where
  (deviceID firmware : String)
  merge : Bool

def Job.aim (j : Job) : Option Aim :=
  if j.type = .parameterDiscovery then
    j.payload.asDiscovery.map fun p => ⟨j.deviceID, p.firmware, p.merge⟩
  else none

theorem Job.aim_of_ne {j : Job} (h : j.type ≠ .parameterDiscovery) : j.aim = none :=
  if_neg h

theorem Job.aim_of_eq {j : Job} {p : ParameterDiscoveryPayload}
    (htype : j.type = .parameterDiscovery) (hpayload : j.payload.asDiscovery = some p) :
    j.aim = some ⟨j.deviceID, p.firmware, p.merge⟩ := by
  rw [Job.aim, if_pos htype, hpayload]
  rfl

namespace Site

variable (st : Site)

/-- The columns of a job that never change. -/
def spec (id : String) : Option JobSpec :=
  (st.queue.jobs.find id).map Job.toJobSpec

def aim (id : String) : Option Aim :=
  (st.queue.jobs.find id).bind Job.aim

/-- The device a session was opened for. -/
def owner (id : String) : Option String :=
  (st.queue.sessions.find? (·.id = id)).map (·.deviceID)

/-- The natural key of a device. -/
def serial (id : String) : Option String :=
  (st.devices.find id).map (·.ouiSerial)

/-- The name is from an answer that the walk of the job was given. -/
def Given (id name : String) : Prop :=
  ∃ r ∈ st.received, r.jobID = id ∧ name ∈ r.names

/-- The payload is a state of the walk of the job: it is for the same as the job, and all
its names are from answers. -/
structure Walk (deviceID id : String) (p : ParameterDiscoveryPayload) : Prop where
  aim : st.aim id = some ⟨deviceID, p.firmware, p.merge⟩
  names : ∀ name ∈ p.names, st.Given id name

/-- The copy is of a job in the table. -/
structure Copy (j : Job) : Prop where
  spec : st.spec j.id = some j.toJobSpec
  walk : j.type = .parameterDiscovery → ∀ p, j.payload.asDiscovery = some p →
    st.Walk j.deviceID j.id p

/-- The copy is of a job of a device that the handler may act for. -/
structure Mine (may : String → Prop) (j : Job) : Prop where
  copy : st.Copy j
  may : may j.deviceID

/-! ### Answers -/

/-- What an answer of the queue tells. -/
def queueR : (s : Stmt) → s.Res → Prop
  | .byID _ id, r => ∀ j, r = some j → j.id = id ∧ st.Copy j
  | .byCommandKey _ _, r => ∀ j, r = some j → st.Copy j
  | .lease d _ _ _ _, r => ∀ j, r = some (some j) → st.Copy j ∧ j.deviceID = d
  | .leaseNextByType _ _, r => ∀ j, r = some (some j) → st.Copy j
  | .inFlightDiscoveries d, r => ∀ l, r = some l → ∀ j ∈ l,
    st.Copy j ∧ j.deviceID = d ∧ j.type = .parameterDiscovery
  | .droppedSessionJobs d, r => ∀ l, r = some l → ∀ j ∈ l,
    st.Copy j ∧ j.deviceID = d ∧ j.type ≠ .parameterDiscovery
  | .getSession id, r => ∀ s, r = some s → s.id = id ∧ st.owner id = some s.deviceID
  | .pendingGet _, r => ∀ e, r = some e → st.Copy e.job
  | _, _ => True

/-- What an answer tells. -/
def R : (s : SiteStmt) → s.Res → Prop
  | .queue s, r => st.queueR s r
  | .getDevice id, r => ∀ row, r = some row → row.id = id ∧ st.serial id = some row.ouiSerial
  | .getByOUIserial key, r => ∀ row, r = some (some row) → st.serial row.id = some key
  | .upsertFromInform _ key, r => ∀ row, r = some row → st.serial row.id = some key
  | .received _ id names, _ => ∀ name ∈ names, st.Given id name
  | _, _ => True

/-! ### Statements -/

variable (may : String → Prop)

/-- What holds of an update when a handler issues it.  Only a requeued walk changes the
payload of a discovery, and nothing parks one. -/
def Allows : Update → Prop
  | .markSuccess j | .markSuccessWithDetail j _ | .markFailed j _ _ | .markTimeout j _
  | .requeue j | .recordDiscoveryFallback j _ => st.Mine may j
  | .markAwaitingTransferComplete j | .beginReadback j _ | .markAwaitingDiagnostics j _
  | .applyDroppedSessionAction j _ | .bindFirmware j _ =>
    st.Mine may j ∧ j.type ≠ .parameterDiscovery
  | .requeueDiscovery j p =>
    st.Mine may j ∧ j.type = .parameterDiscovery ∧ st.Walk j.deviceID j.id p
  | .releaseAwaitingDiagnostics d => may d
  | .failNonRepeatable | .failExhausted | .requeueExpired | .timeOutTransfers
  | .timeOutAwaitingDiagnostics => ∀ d, may d

/-- A new discovery has not found anything yet. -/
def NewWalk (spec : JobSpec) (payload : Payload) : Prop :=
  spec.type = .parameterDiscovery → ∃ p, payload = .parameterDiscovery p ∧ p.names = ∅

/-- What holds of a statement of the queue when a handler issues it. -/
def queueW : Stmt → Prop
  | .update _ u => st.Allows may u
  | .lease d _ _ _ _ | .openSession _ d => may d
  | .leaseNextByType type _ => type = .connectionRequest ∧ ∀ d, may d
  | .insert spec payload | .queueDiscoveryIfNeeded spec payload =>
    may spec.deviceID ∧ NewWalk spec payload
  | .setCurrentJob id _ | .closeSession id => ∃ d, st.owner id = some d ∧ may d
  | .pendingPut _ e => st.Copy e.job
  | _ => True

/-- What holds of a statement when a handler issues it. -/
def W : SiteStmt → Prop
  | .queue s => st.queueW may s
  | .updateDataModelRoot d _ | .upsert _ d _ | .queueDiscoveryIfNeeded _ d
  | .mergeDiscoveredSubtree d _ _ => may d
  | .saveDiscovery d s =>
    may d ∧ ∃ id p, st.Walk d id p ∧ p.names = s.names ∧ p.firmware = s.expectedFirmware
  | .received d id _ => ∃ a, st.aim id = some a ∧ a.deviceID = d
  | _ => True

/-- A handler of the queue that issues only such statements. -/
abbrev QueueChecks {α : Type} (p : Handler α) (Q : α → Prop) : Prop :=
  p.All st.queueR (st.queueW may) Q

/-- A handler of the site that issues only such statements. -/
abbrev Checks {α : Type} (p : SiteProg α) (Q : α → Prop) : Prop :=
  p.All st.R (st.W may) Q

/-- The same, with nothing to say about the result. -/
abbrev QueueOk {α : Type} (p : Handler α) : Prop :=
  st.QueueChecks may p fun _ => True

abbrev Ok {α : Type} (p : SiteProg α) : Prop :=
  st.Checks may p fun _ => True

variable {st may}

/-! ### Copies and walks -/

variable {j : Job} {d id : String} {p q : ParameterDiscoveryPayload}

theorem Copy.spec_eq {k : Job} (hj : st.Copy j) (hk : st.Copy k) (hid : j.id = k.id) :
    j.toJobSpec = k.toJobSpec := by
  have hspec : some j.toJobSpec = some k.toJobSpec := by rw [← hj.spec, ← hk.spec, hid]
  exact Option.some.inj hspec

theorem Copy.withPayload (hj : st.Copy j) (htype : j.type ≠ .parameterDiscovery) (payload : Payload) :
    st.Copy { j with payload := payload } where
  spec := hj.spec
  walk h := absurd h htype

theorem Mine.again {k : Job} (hj : st.Mine may j) (hk : st.Copy k) (hid : k.id = j.id) :
    st.Mine may k where
  copy := hk
  may := by
    have hdevice : k.deviceID = j.deviceID := congrArg JobSpec.deviceID (hk.spec_eq hj.copy hid)
    rw [hdevice]
    exact hj.may

theorem Walk.step (h : st.Walk d id p) (hfirmware : q.firmware = p.firmware)
    (hmerge : q.merge = p.merge) (hnames : ∀ name ∈ q.names, name ∈ p.names ∨ st.Given id name) :
    st.Walk d id q where
  aim := by rw [hfirmware, hmerge]; exact h.aim
  names name hname := (hnames name hname).elim (h.names name) fun hgiven => hgiven

theorem Walk.advance {names : StringMap Bool} {done : Bool} (h : st.Walk d id p)
    (hgiven : ∀ name ∈ names, st.Given id name)
    (hadvance : advanceDiscovery p names = .ok (done, q)) : st.Walk d id q := by
  obtain ⟨hfirmware, hmerge, hnames⟩ := advanceDiscovery_keeps hadvance
  refine h.step hfirmware hmerge ?_
  intro name hname
  rw [hnames] at hname
  rcases mem_recordNames hname with hold | hnew
  · exact .inl hold
  · exact .inr (hgiven name hnew)

theorem Walk.skip {done skipped : Bool} (h : st.Walk d id p)
    (hskip : skipDiscoveryCursor p = .ok (done, skipped, q)) :
    st.Walk d id q := by
  obtain ⟨hfirmware, hmerge, hnames⟩ := skipDiscoveryCursor_keeps hskip
  exact h.step hfirmware hmerge fun name hname => .inl (hnames ▸ hname)

theorem Walk.whole {names : StringMap Bool} (h : st.Walk d id p)
    (hgiven : ∀ name ∈ names, st.Given id name) :
    st.Walk d id { p with names := names } :=
  h.step rfl rfl fun name hname => .inr (hgiven name hname)

/-- No two devices have the same natural key. -/
theorem serial_inj {a b key : String} (ha : st.serial a = some key)
    (hb : st.serial b = some key) : a = b := by
  obtain ⟨row, hrow, hkey⟩ := Option.map_eq_some_iff.mp ha
  obtain ⟨row', hrow', hkey'⟩ := Option.map_eq_some_iff.mp hb
  have hmem := List.mem_of_find?_eq_some hrow
  have hmem' := List.mem_of_find?_eq_some hrow'
  have hrows : row = row' := by
    have hfind := Keyed.find_of_mem st.devices.keys hmem
    have hfind' := Keyed.find_of_mem st.devices.keys hmem'
    rw [hkey, ← hkey', hfind'] at hfind
    exact (Option.some.inj hfind).symm
  have hid : row.id = a := by simpa using List.find?_some hrow
  have hid' : row'.id = b := by simpa using List.find?_some hrow'
  rw [← hid, ← hid', hrows]

end Site

end Acs
