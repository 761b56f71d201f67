/-
What holds of every row of every state of a run.

`rows_keep` is the induction: to know something of every row of a run it is enough
to follow one row through the cases of `RowStep`.
-/
import Acs.Proofs.Runs

namespace Acs

open Option

/-! ### Following one row -/

/-- The rows of a state satisfy `P`. -/
def RowsSatisfy (P : World → Job → Prop) (w : World) : Prop :=
  ∀ id row, w.jobs.find id = some row → P w row

variable {as : List Action} {row j : Job} {u : Update} {id : String} {w : World} {ev : Event}

/-- The induction over the rows of a run. -/
theorem rows_keep {P : World → Job → Prop}
    (hstep : ∀ ev ∈ runTrace as, RowsSatisfy P ev.pre → ∀ id row,
      ev.post.jobs.find id = some row →
      RowStep ev (ev.pre.jobs.find id) (some row) → P ev.post row) :
    RowsSatisfy P (runEnd as).shared ∧
      ∀ ev ∈ runTrace as, RowsSatisfy P ev.pre ∧ RowsSatisfy P ev.post := by
  refine (runTrace_chain as).keeps (fun ev hev hpre id row hrow => ?_) ?_
  · have hcases := rowStep (runTrace_legal as ev hev) id
    rw [hrow] at hcases
    exact hstep ev hev hpre id row hrow hcases
  · intro id row hrow
    cases hrow

/-! ### The status an update leaves -/

def DroppedSessionAction.statusAfter : DroppedSessionAction → Status
  | .requeue | .diagnosticsTriggered => .queued
  | .succeeded => .success
  | .awaitTransfer => .awaitingTransferComplete
  | .failed => .failed

/-- The status a row has after an update of the given kind. -/
def Update.statusAfter (u : Update) (before : Status) : Status :=
  match u with
  | .markSuccess _ | .markSuccessWithDetail _ _ => .success
  | .markFailed _ _ _ | .failNonRepeatable | .failExhausted | .timeOutTransfers => .failed
  | .markTimeout _ _ | .timeOutAwaitingDiagnostics => .timeout
  | .markAwaitingTransferComplete _ => .awaitingTransferComplete
  | .requeue _ | .beginReadback _ _ | .requeueDiscovery _ _ | .requeueExpired
  | .releaseAwaitingDiagnostics _ => .queued
  | .markAwaitingDiagnostics _ _ => .awaitingDiagnosticsComplete
  | .applyDroppedSessionAction _ a => a.statusAfter
  | .recordDiscoveryFallback _ _ | .bindFirmware _ _ => before

theorem Update.sets_status (u : Update) (now : Time) (row : Job) :
    (u.sets now row).status = u.statusAfter row.status := by
  cases u with
  | applyDroppedSessionAction j a => cases a <;> rfl
  | _ => rfl

@[simp] theorem updated_status (u : Update) (now : Time) (row : Job) :
    (row.withState (redactFinished row.toJobState (u.sets now row))).status =
      u.statusAfter row.status := by
  show (redactFinished row.toJobState (u.sets now row)).status = _
  rw [redactFinished_status, Update.sets_status]

theorem Update.rpcSent_after (now : Time) (h : u.statusAfter row.status = .rpcSent) :
    row.status = .rpcSent ∧ (u.sets now row).leaseOwner = row.leaseOwner := by
  cases u with
  | applyDroppedSessionAction j a => cases a <;> cases h
  | recordDiscoveryFallback | bindFirmware => exact ⟨h, rfl⟩
  | _ => cases h

/-- Only an acknowledged diagnostic is parked. -/
theorem Update.parked_after {before : Status}
    (h : u.statusAfter before = .awaitingDiagnosticsComplete) :
    before = .awaitingDiagnosticsComplete ∨ ∃ j window, u = .markAwaitingDiagnostics j window := by
  cases u with
  | applyDroppedSessionAction j a => cases a <;> cases h
  | recordDiscoveryFallback | bindFirmware => exact .inl h
  | markAwaitingDiagnostics j window => exact .inr ⟨j, window, rfl⟩
  | _ => cases h

/-! ### Parked and sent jobs -/

/-- What holds of every row of a run. -/
structure RowInv (F : Facts) (row : Job) : Prop where
  /-- A parked job is a diagnostic that was sent in a CWMP session. -/
  parked : row.status = .awaitingDiagnosticsComplete →
    isCWMPDiagnosticType row.type ∧ F.GatewayJob row.id
  /-- A job that is RPC_SENT is held by the process that leased it. -/
  sent : row.status = .rpcSent → ∃ owner, row.leaseOwner = some owner ∧
    (owner.process = .acs ∧ F.GatewayJob row.id ∨
      owner.process = .uspc ∧ row.type ∈ uspDispatchableTypes)

variable {F : Facts}

theorem row_eq_of_id (hholds : F.Holds w) (hrow : w.jobs.find id = some row) (hj : F.Copy j)
    (hid : row.id = j.id) :
    row.toJobSpec = j.toJobSpec :=
  (hholds.rows row (JobTable.find_eq_some hrow).1).spec_eq hj hid

theorem spec_of_end {scope : Scope} (hholds : (runFacts as scope).Holds w) {job : Job}
    (hrow : w.jobs.find id = some row) (hjob : (runEnd as).shared.jobs.find id = some job) :
    row.toJobSpec = job.toJobSpec := by
  obtain ⟨hmem, hid⟩ := JobTable.find_eq_some hrow
  have hspec : ((runEnd as).shared.jobs.find row.id).map Job.toJobSpec = some row.toJobSpec :=
    hholds.rows row hmem
  rw [hid, hjob] at hspec
  exact (some.inj hspec).symm

theorem Facts.Allows.writes {c : Cause} (h : F.Allows c u) (hj : u.target = some j) :
    F.Writes c j := by
  cases u with
  | requeue | beginReadback | requeueDiscovery | markAwaitingDiagnostics
  | applyDroppedSessionAction =>
    rw [← some.inj hj]
    exact h.1
  | markSuccess | markSuccessWithDetail | markFailed | markTimeout
  | markAwaitingTransferComplete | recordDiscoveryFallback | bindFirmware =>
    rw [← some.inj hj]
    exact h
  | _ => cases hj

theorem Job.current_iff {copy : Job} : copy.current row ↔
    row.id = copy.id ∧ row.attempts = copy.attempts ∧ row.status = .rpcSent := by
  simp [Job.current, and_assoc]

theorem Update.id_of_selects {now : Time} (hj : u.target = some j) (h : u.selects now row) :
    row.id = j.id := by
  cases u with
  | beginReadback | requeueDiscovery | markAwaitingDiagnostics | applyDroppedSessionAction
  | bindFirmware =>
    rw [← some.inj hj]
    exact (Job.current_iff.mp h).1
  | recordDiscoveryFallback =>
    rw [← some.inj hj]
    exact of_decide_eq_true (Bool.and_eq_true_iff.mp h).1
  | markSuccess | markSuccessWithDetail | markFailed | markTimeout
  | markAwaitingTransferComplete | requeue =>
    rw [← some.inj hj]
    exact of_decide_eq_true h
  | _ => cases hj

theorem rowInv_leased (hrec : F.Records ev) (hw : F.W ev.stmt) {d : String} {types : List JobType}
    {uspOnly : Bool} {owner : Owner} {seen : Option Nat}
    (hstmt : ev.stmt = .lease d types uspOnly owner seen)
    (hsel : row.leasable d types uspOnly)
    (hcopy : leasedJob ev = some (row.leaseCopy .rpcSent)) (now : Time) :
    RowInv F (row.withState (row.leased .rpcSent owner sessionLease now)) := by
  refine ⟨nofun, fun _ => ⟨owner, rfl, ?_⟩⟩
  rw [hstmt] at hw
  cases uspOnly with
  | false =>
    -- The lease is recorded among the facts.
    refine .inl ⟨hw.2.2, row.leaseCopy .rpcSent, hrec.sent _ ?_, rfl⟩
    obtain ⟨s, r, pre, post⟩ := ev
    cases hstmt
    exact hcopy
  | true =>
    simp only [Job.leasable, Bool.and_eq_true, decide_eq_true_eq] at hsel
    refine .inr ⟨hw.2.2.1, ?_⟩
    rw [← hw.2.1]
    exact hsel.1.2

theorem rowInv_updated (hw : F.W ev.stmt) (hholds : F.Holds ev.pre) {cause : Cause}
    (hrow : ev.pre.jobs.find id = some row) (hpre : RowInv F row)
    (hstmt : ev.stmt = .update cause u) (hsel : u.selects ev.post.now row) :
    RowInv F (row.withState (redactFinished row.toJobState (u.sets ev.post.now row))) := by
  rw [hstmt] at hw
  constructor
  · intro hstatus
    rw [updated_status] at hstatus
    rcases Update.parked_after hstatus with hbefore | ⟨j, window, rfl⟩
    · exact hpre.parked hbefore
    · obtain ⟨hwrites, htype, hjob⟩ := hw
      have hid := (Job.current_iff.mp hsel).1
      have hspec := row_eq_of_id hholds hrow hwrites.copy hid
      have hrowtype : row.type = j.type := congrArg JobSpec.type hspec
      exact ⟨by show isCWMPDiagnosticType row.type; rw [hrowtype]; exact htype,
        by show F.GatewayJob row.id; rw [hid]; exact hjob⟩
  · intro hstatus
    rw [updated_status] at hstatus
    obtain ⟨hbefore, howner⟩ := Update.rpcSent_after ev.post.now hstatus
    obtain ⟨owner, hrowowner, hprocess⟩ := hpre.sent hbefore
    refine ⟨owner, ?_, hprocess⟩
    show (redactFinished row.toJobState (u.sets ev.post.now row)).leaseOwner = some owner
    rw [redactFinished_leaseOwner, howner, hrowowner]

theorem rowInv_step (hrec : F.Records ev) (hsound : ev.Sound F.R F.W F.Holds) {r : Option Job}
    {row' : Job} (hr : ev.pre.jobs.find id = r) (hpre : ∀ row, r = some row → RowInv F row)
    (h : RowStep ev r (some row')) : RowInv F row' := by
  generalize hr' : some row' = r' at h
  cases h with
  | same => exact hpre row' hr'.symm
  | leased hstmt hsel hcopy =>
    rw [some.inj hr']
    exact rowInv_leased hrec hsound.stmt hstmt hsel hcopy _
  | leasedByType hstmt hstatus htype hcopy =>
    rw [some.inj hr']
    exact ⟨nofun, nofun⟩
  | updated hstmt _ hsel =>
    rw [some.inj hr']
    exact rowInv_updated hsound.stmt hsound.pre hr (hpre _ rfl) hstmt hsel
  | inserted spec payload =>
    rw [some.inj hr']
    exact ⟨nofun, nofun⟩

/-- **Every row of a run is as `RowInv` says.** -/
theorem run_rowInv {scope : Scope} (hcovers : scope.Covers as)
    (hfresh : scope.fresh → AnswersCurrent (runTrace as)) :
    RowsSatisfy (fun _ => RowInv (runFacts as scope)) (runEnd as).shared ∧
      ∀ ev ∈ runTrace as, RowsSatisfy (fun _ => RowInv (runFacts as scope)) ev.pre ∧
        RowsSatisfy (fun _ => RowInv (runFacts as scope)) ev.post :=
  rows_keep fun ev hev hpre id _ _ hcases =>
    rowInv_step (runFacts_records hfresh ev hev) (run_sound hcovers hfresh ev hev).2 rfl
      (hpre id) hcases

/-! ### Out of the queue -/

/-- A job is put back to QUEUED by an update. -/
theorem RowStep.stays_out {row' : Job} (h : RowStep ev (some row) (some row'))
    (hstatus : row.status ≠ .queued)
    (hupdate : ∀ cause u, ev.stmt = .update cause u → executed ev = some u →
      u.selects ev.post.now row → u.statusAfter row.status ≠ .queued) :
    row'.status ≠ .queued := by
  generalize hr' : some row' = r' at h
  cases h with
  | same => rw [some.inj hr']; exact hstatus
  | leased | leasedByType => rw [some.inj hr']; nofun
  | updated hstmt hexec hsel =>
    rw [some.inj hr', updated_status]
    exact hupdate _ _ hstmt hexec hsel

/-- A job that nothing puts back is leased at most once. -/
theorem leased_once {w' : World} {evs : List Event} (hchain : Pool.Chain w evs w')
    (hlegal : ∀ ev ∈ evs, ev.Legal exec)
    (hstays : ∀ ev ∈ evs, ∀ row row', ev.pre.jobs.find id = some row →
      ev.post.jobs.find id = some row' → row.status ≠ .queued → row'.status ≠ .queued) :
    (evs.filter (leasesJob id)).length ≤ 1 := by
  -- the job is leased only where it is queued, and a job that is not there yet will be
  refine hchain.atMostOnce
    (I := fun w => ∀ row, w.jobs.find id = some row → row.status = .queued)
    (fun ev hev hlease => ?_) (fun ev hev hpre hpost => ?_)
  · obtain ⟨j, row, row', rfl, hstep⟩ := leasesJob_step (hlegal ev hev) hlease
    refine ⟨fun row₁ hrow₁ => ?_, fun hall => ?_⟩
    · rw [← some.inj (hstep.pre.symm.trans hrow₁)]
      exact hstep.queued
    · have hstatus := hall row' hstep.post
      rw [hstep.postStatus] at hstatus
      rcases hstep.status with hs | hs <;> rw [hs] at hstatus <;> cases hstatus
  · simp only [not_forall] at hpre
    obtain ⟨row, hrow, hstatus⟩ := hpre
    have hcases := rowStep (hlegal ev hev) id
    rw [hrow] at hcases
    obtain ⟨row', hrow', _⟩ := hcases.spec
    exact hstays ev hev row row' hrow hrow' hstatus (hpost row' hrow')

end Acs
