/-
What the handlers know when they write.

A handler works on copies it read earlier, while other handlers go on.  What stays
true of a copy whatever they do is little: the columns that never change, and the
facts about the run collected in `Facts`.  `Facts.R` says what the answer to a
statement tells a handler, `Facts.W` what holds of a statement when a handler
issues it.  That every handler issues only such statements is checked once, for any
facts (`Acs.Proofs.GatewayChecks`, `Acs.Proofs.UspcChecks`).
-/
import Acs.Proofs.Issued

namespace Acs

/-! ### Causes -/

/-- The attempt an answer replies to. -/
def Cause.attempt : Cause → Option Nat
  | .answer _ n | .operationComplete _ n => some n
  | _ => none

/-- The job is the one the cause is about. -/
def Cause.names : Cause → Job → Prop
  | .answer id _, j => j.id = id
  | .operationComplete key _, j | .transferComplete key, j => j.commandKey = key
  | _, _ => True

/-! ### Facts about a run -/

/-- What is known about a run. -/
structure Facts where
  /-- The columns of a job that never change, by its id. -/
  spec : String → Option JobSpec
  /-- Answers find the attempt they reply to, if they find the job RPC_SENT at all. -/
  fresh : Prop
  /-- Devices that open CWMP sessions. -/
  cwmp : String → Prop
  /-- Devices that jobs are sent to over USP. -/
  usp : String → Prop
  /-- Devices whose Informs recover jobs. -/
  informs : String → Prop
  /-- Copies leased for a CWMP session. -/
  sent : Job → Prop
  /-- The device had no outstanding request at this number of leases. -/
  clear : String → Nat → Prop

namespace Facts

variable (F : Facts)

/-- The copy has the job's unchanging columns. -/
def Copy (j : Job) : Prop :=
  F.spec j.id = some j.toJobSpec

/-- What a lookup for the given cause tells about the copy it returns. -/
structure Knows (c : Cause) (j : Job) : Prop where
  copy : F.Copy j
  current : F.fresh → j.status = .rpcSent → ∀ n, c.attempt = some n → j.attempts = n

/-- What holds of a copy when a handler writes through it. -/
structure Writes (c : Cause) (j : Job) : Prop where
  copy : F.Copy j
  named : c.names j
  answered : ∀ n, c.attempt = some n → j.status = .rpcSent ∧ (F.fresh → j.attempts = n)
  unfinished : j.status.finished = false ∨
    c = .transferComplete j.commandKey ∧ lateTransferReconcilable j

/-- The job was leased for a CWMP session. -/
def GatewayJob (id : String) : Prop :=
  ∃ j, F.sent j ∧ j.id = id

/-- What holds of an update when a handler issues it. -/
def Allows (c : Cause) : Update → Prop
  | .markSuccess j | .markSuccessWithDetail j _ | .markFailed j _ _ | .markTimeout j _
  | .markAwaitingTransferComplete j | .recordDiscoveryFallback j _ | .bindFirmware j _ =>
    F.Writes c j
  | .requeue j => F.Writes c j ∧ j.type ∉ nonRepeatableTypes ∧ F.usp j.deviceID
  | .beginReadback j _ => F.Writes c j ∧ j.type = .setParameter
  | .requeueDiscovery j _ => F.Writes c j ∧ j.type = .parameterDiscovery
  | .markAwaitingDiagnostics j _ =>
    F.Writes c j ∧ isCWMPDiagnosticType j.type = true ∧ F.GatewayJob j.id
  | .applyDroppedSessionAction j a =>
    F.Writes c j ∧ F.informs j.deviceID ∧
      ∃ keys complete, a = classifyDroppedSessionJob j keys complete
  | .releaseAwaitingDiagnostics d => F.informs d ∧ c.attempt = none
  | .failNonRepeatable | .failExhausted | .requeueExpired | .timeOutTransfers
  | .timeOutAwaitingDiagnostics => c.attempt = none

/-- A pending request is for a leased job of a device reached over USP. -/
structure Pending (e : PendingDispatch) : Prop where
  copy : F.Copy e.job
  status : e.job.status = .rpcSent
  device : F.usp e.job.deviceID

/-- A session belongs to a device that speaks CWMP, and waits for a job leased for
a session. -/
structure SessionOK (s : Session) : Prop where
  device : F.cwmp s.deviceID
  current : ∀ current, s.currentJob = some current → F.GatewayJob current.id

/-- What a lease tells about the copy it hands out. -/
structure Leased (d : String) (types : List JobType) (uspOnly : Bool) (j : Job) : Prop where
  copy : F.Copy j
  status : j.status = .rpcSent
  device : j.deviceID = d
  type : j.type ∈ types
  firmware : uspOnly → j.type = .firmwareDownload → j.payload.members.uspInstance ≠ ""
  sent : uspOnly = false → F.sent j

/-- What a query for unanswered jobs tells about the copies it returns. -/
structure Unanswered (d : String) (j : Job) : Prop where
  copy : F.Copy j
  status : j.status = .rpcSent
  device : j.deviceID = d

/-- What an answer tells. -/
def R : (s : Stmt) → s.Res → Prop
  | .byID c id, r => ∀ j, r = some j → j.id = id ∧ F.Knows c j
  | .byCommandKey c key, r => ∀ j, r = some j → j.commandKey = key ∧ F.Knows c j
  | .lease d types uspOnly _ _, r => ∀ j, r = some (some j) → F.Leased d types uspOnly j
  | .leaseNextByType _ _, r => ∀ j, r = some (some j) → F.Copy j ∧ j.status = .inProgress
  | .hasOutstandingRPC d, r => ∀ n, r = some (false, n) → F.clear d n
  | .inFlightDiscoveries d, r => ∀ l, r = some l → ∀ j ∈ l,
    F.Unanswered d j ∧ j.type = .parameterDiscovery
  | .droppedSessionJobs d, r => ∀ l, r = some l → ∀ j ∈ l, F.Unanswered d j
  | .getSession _, r => ∀ s, r = some s → F.SessionOK s
  | .pendingGet _, r => ∀ e, r = some e → F.Pending e
  | _, _ => True

/-- What holds of a lease when a handler asks for it. -/
def MayLease (d : String) (types : List JobType) (uspOnly : Bool) (owner : Owner)
    (seen : Option Nat) : Prop :=
  if uspOnly then
    F.usp d ∧ types = uspDispatchableTypes ∧ owner.process = .uspc ∧
      ∃ n, seen = some n ∧ F.clear d n
  else F.cwmp d ∧ types = sessionDispatchableTypes ∧ owner.process = .acs

/-- What holds of a statement when a handler issues it. -/
def W : Stmt → Prop
  | .update c u => F.Allows c u
  | .lease d types uspOnly owner seen => F.MayLease d types uspOnly owner seen
  | .leaseNextByType type owner => type = .connectionRequest ∧ owner.process = .api
  | .openSession _ d => F.cwmp d
  | .setCurrentJob _ job => ∀ current, job = some current → F.GatewayJob current.id
  | .pendingPut _ e => F.Pending e
  | .handOver j process =>
    F.Copy j ∧ (process = .acs → isCWMPDiagnosticType j.type = true → F.sent j)
  | _ => True

/-- A program that issues only such statements. -/
def Checks {α : Type} (p : Handler α) (Q : α → Prop) : Prop :=
  p.All F.R F.W Q

/-- The same, with nothing to say about the result. -/
abbrev Ok {α : Type} (p : Handler α) : Prop :=
  F.Checks p fun _ => True

end Facts

/-! ### Rules for single statements -/

namespace Facts

variable {F : Facts} {α β : Type}

theorem checks_pure {a : α} {Q : α → Prop} (h : Q a) : F.Checks (pure a) Q := h

theorem ok_pure (a : α) : F.Ok (pure a : Handler α) := trivial

theorem Checks.andThen {P : α → Prop} {Q : β → Prop} {p : Handler α} {q : Handler β}
    (hp : F.Checks p P) (hq : F.Checks q Q) : F.Checks (p >>= fun _ => q) Q :=
  Prog.All.bind hp fun _ _ => hq

theorem Checks.bind {P : α → Prop} {Q : β → Prop} {p : Handler α} {f : α → Handler β}
    (hp : F.Checks p P) (hf : ∀ a, P a → F.Checks (f a) Q) : F.Checks (p >>= f) Q :=
  Prog.All.bind hp hf

theorem ok_run {c : Cause} {u : Update} (h : F.Allows c u) : F.Ok (Db.run c u) :=
  ⟨h, fun _ _ => trivial⟩

theorem Copy.of_spec {j k : Job} (hj : F.Copy j) (h : k.toJobSpec = j.toJobSpec) : F.Copy k := by
  unfold Copy at hj ⊢
  rw [h]
  exact hj

end Facts

end Acs
