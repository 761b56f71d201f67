/-
One pass of the reaper gives every job one outcome.

The pass is five updates, and none of them looks for a status that one of them sets.  So
each row is changed at most once, by the first update that selects it (`appliedAll_eq`), and
a second pass at the same clock finds nothing to do.
-/
import Acs.Jobs.Repository

namespace Acs

open List Update Prog JobState

/-- Run alone, with no statement failing and the clock standing still. -/
abbrev runStill {α : Type} (p : Handler α) (w : World) : α × World :=
  p.run exec (fun _ => {}) w

/-! ### Updates one after the other -/

/-- The row after an update of the table. -/
def Update.applied (u : Update) (now : Time) (j : Job) : Job :=
  JobTable.apply (u.selects now) (u.sets now) j

def appliedAll (us : List Update) (now : Time) (j : Job) : Job :=
  us.foldl (fun j u => u.applied now j) j

/-- How many rows each of the updates changes. -/
def updateCounts (now : Time) : List Update → List Job → List Nat
  | [], _ => []
  | u :: us, rows => rows.countP (u.selects now) :: updateCounts now us (rows.map (u.applied now))

variable {u v : Update} {us : List Update} {now : Time} {j : Job}

theorem run_updates (us : List Update) (w : World) :
    (runStill (gather us (Db.update .worker)) w).1 =
        some (updateCounts w.now us w.jobs.rows) ∧
      (runStill (gather us (Db.update .worker)) w).2.jobs.rows =
        w.jobs.rows.map (appliedAll us w.now) ∧
      (runStill (gather us (Db.update .worker)) w).2.now = w.now ∧
      (runStill (untilFailure .worker us) w).2 =
        (runStill (gather us (Db.update .worker)) w).2 := by
  induction us generalizing w with
  | nil => exact ⟨rfl, (map_id _).symm, rfl, rfl⟩
  | cons u us ih =>
    obtain ⟨hcounts, hrows, hnow, hpass⟩ := ih { w with
      jobs := w.jobs.update (u.selects w.now) (u.sets w.now), reapedAt := u.reapedAt w }
    have hgather : runStill (gather (u :: us) (Db.update .worker)) w = runStill
        ((gather us (Db.update .worker)).bind fun as =>
          .done (as.map (w.jobs.rows.countP (u.selects w.now) :: ·)))
        { w with
          jobs := w.jobs.update (u.selects w.now) (u.sets w.now), reapedAt := u.reapedAt w } := rfl
    rw [hgather, runStill, run_bind_eq]
    refine ⟨?_, hrows.trans map_map, hnow, hpass⟩
    exact congrArg (Option.map _) hcounts

theorem applied_of_not (h : u.selects now j = false) : u.applied now j = j := by
  rw [applied, JobTable.apply, h]
  rfl

theorem applied_of_selects (h : u.selects now j) :
    u.applied now j = j.withState (redactFinished j.toJobState (u.sets now j)) := by
  rw [applied, JobTable.apply, h]
  rfl

theorem applied_status (h : u.selects now j) :
    (u.applied now j).status = (u.sets now j).status := by
  rw [applied_of_selects h]
  exact redactFinished_status _ _

theorem selects_applied (hu : u ∈ recoveryUpdates) (hv : v ∈ recoveryUpdates) :
    v.selects now (u.applied now j) = (v.selects now j && !u.selects now j) := by
  cases hsel : u.selects now j with
  | false => rw [applied_of_not hsel, Bool.not_false, Bool.and_true]
  | true =>
    have hstatus := applied_status hsel
    rw [Bool.not_true, Bool.and_false]
    simp only [recoveryUpdates, mem_cons, not_mem_nil, or_false] at hu hv
    rcases hu with rfl | rfl | rfl | rfl | rfl <;> rcases hv with rfl | rfl | rfl | rfl | rfl <;>
      simp [selects, Job.leaseExpired, hstatus, sets, finish, fault,
        noLease, moveTo]

/-- A row is changed by the first update that selects it. -/
theorem appliedAll_eq (hus : ∀ u ∈ us, u ∈ recoveryUpdates) :
    appliedAll us now j = (us.find? (·.selects now j)).elim j (·.applied now j) := by
  induction us generalizing j with
  | nil => rfl
  | cons u us ih =>
    have hrest := fun v hv => hus v (mem_cons_of_mem u hv)
    rw [appliedAll, foldl_cons, ← appliedAll, ih hrest, find?_cons]
    cases hsel : u.selects now j with
    | false => rw [applied_of_not hsel]
    | true =>
      have hnone : us.find? (·.selects now (u.applied now j)) = none := by
        rw [find?_eq_none]
        intro v hv
        rw [selects_applied (hus u mem_cons_self) (hrest v hv), hsel]
        simp
      rw [hnone]
      rfl

/-! ### What becomes of a row -/

/-- What one pass does with a job. -/
structure Job.Recovered (now : Time) (j j' : Job) : Prop where
  unsafeRetry : j.leaseExpired now → j.type ∈ nonRepeatableTypes →
    j'.status = .failed ∧ j'.faultCode = some "LEASE_EXPIRED_UNSAFE_RETRY"
  deadLettered : j.leaseExpired now → j.type ∉ nonRepeatableTypes →
    j.maxAttempts ≤ j.attempts → j'.status = .failed ∧ j'.faultCode = some "LEASE_EXPIRED"
  requeued : j.leaseExpired now → j.type ∉ nonRepeatableTypes →
    j.attempts < j.maxAttempts → j'.status = .queued ∧ j'.leaseOwner = none ∧ j'.leasedUntil = none
  timedOut : timeOutTransfers.selects now j →
    j'.status = .failed ∧ j'.faultCode = some "TRANSFER_TIMEOUT"
  diagnosticsTimedOut : timeOutAwaitingDiagnostics.selects now j →
    j'.status = .timeout ∧ j'.faultCode = some "DIAGNOSTICS_TIMEOUT"
  untouched : j.leaseExpired now = false → timeOutTransfers.selects now j = false →
    timeOutAwaitingDiagnostics.selects now j = false → j' = j

theorem taken (now : Time) (j : Job) (u : Update)
    (h : recoveryUpdates.find? (·.selects now j) = some u) :
    appliedAll recoveryUpdates now j = j.withState (redactFinished j.toJobState (u.sets now j)) := by
  have hsel := find?_some (p := fun u : Update => u.selects now j) h
  rw [appliedAll_eq fun _ h => h, h]
  exact applied_of_selects hsel

theorem recovered (now : Time) (j : Job) :
    j.Recovered now (appliedAll recoveryUpdates now j) := by
  have hfinished : ∀ u, recoveryUpdates.find? (·.selects now j) = some u →
      (appliedAll recoveryUpdates now j).status = (u.sets now j).status ∧
        (appliedAll recoveryUpdates now j).faultCode = (u.sets now j).faultCode := by
    intro u hu
    rw [taken now j u hu]
    exact ⟨redactFinished_status _ _, redactFinished_faultCode _ _⟩
  constructor
  · intro hexp htype
    exact hfinished .failNonRepeatable (by simp [recoveryUpdates, selects, hexp, htype])
  · intro hexp htype hmax
    exact hfinished .failExhausted (by simp [recoveryUpdates, selects, hexp, htype, hmax])
  · intro hexp htype hmax
    rw [taken now j .requeueExpired (by simp [recoveryUpdates, selects, hexp, htype, hmax]),
      redactFinished_of_not_finished rfl]
    exact ⟨rfl, rfl, rfl⟩
  · intro hsel
    refine hfinished .timeOutTransfers ?_
    simp only [selects, Bool.and_eq_true, decide_eq_true_eq] at hsel
    simp [recoveryUpdates, selects, Job.leaseExpired, hsel]
  · intro hsel
    refine hfinished .timeOutAwaitingDiagnostics ?_
    simp only [selects, Bool.and_eq_true, decide_eq_true_eq] at hsel
    simp [recoveryUpdates, selects, Job.leaseExpired, hsel]
  · intro hexp htransfer hdiagnostics
    rw [appliedAll_eq fun _ h => h]
    simp only [selects] at htransfer hdiagnostics
    simp [recoveryUpdates, selects, hexp, htransfer, hdiagnostics]

/-- Nothing is left for a second pass. -/
theorem selects_recovered (hv : v ∈ recoveryUpdates) :
    v.selects now (appliedAll recoveryUpdates now j) = false := by
  rw [appliedAll_eq fun _ h => h]
  cases hfind : recoveryUpdates.find? (·.selects now j) with
  | none => simpa using find?_eq_none.mp hfind v hv
  | some u =>
    have hsel := find?_some (p := fun u : Update => u.selects now j) hfind
    rw [Option.elim_some, selects_applied (mem_of_find?_eq_some hfind) hv]
    simp [hsel]

theorem updates_idle {rows : List Job} (h : ∀ j ∈ rows, ∀ u ∈ us, u.selects now j = false) :
    updateCounts now us rows = us.map (fun _ => 0) ∧ rows.map (appliedAll us now) = rows := by
  induction us with
  | nil => exact ⟨rfl, map_id _⟩
  | cons u us ih =>
    obtain ⟨hcounts, hrows⟩ := ih fun j hj v hv => h j hj v (mem_cons_of_mem u hv)
    have hcount : rows.countP (u.selects now) = 0 := by
      rw [countP_eq_zero]
      intro j hj
      simp [h j hj u mem_cons_self]
    have hsame : rows.map (u.applied now) = rows :=
      (map_congr_left fun j hj => applied_of_not (h j hj u mem_cons_self)).trans
        (map_id rows)
    refine ⟨by rw [updateCounts, hcount, hsame, hcounts]; rfl, ?_⟩
    show rows.map (appliedAll us now ∘ u.applied now) = rows
    rw [← map_map, hsame, hrows]

theorem updateCounts_recovery (now : Time) (rows : List Job) :
    updateCounts now recoveryUpdates rows =
      [rows.countP fun j => j.leaseExpired now && j.type ∈ nonRepeatableTypes,
       rows.countP fun j =>
        j.leaseExpired now && (j.type ∉ nonRepeatableTypes && j.maxAttempts ≤ j.attempts),
       rows.countP fun j =>
        j.leaseExpired now && (j.type ∉ nonRepeatableTypes && j.attempts < j.maxAttempts),
       rows.countP (timeOutTransfers.selects now),
       rows.countP (timeOutAwaitingDiagnostics.selects now)] := by
  have hafter : ∀ u ∈ recoveryUpdates, ∀ v ∈ recoveryUpdates, ∀ j,
      v.selects now (u.applied now j) = (v.selects now j && !u.selects now j) :=
    fun u hu v hv j => selects_applied hu hv
  simp only [recoveryUpdates, mem_cons, not_mem_nil, or_false, forall_eq_or_imp,
    forall_eq] at hafter
  simp only [recoveryUpdates, updateCounts, countP_map, Function.comp_def, hafter]
  clear hafter
  -- A job that waits has no lease that the first three updates look at.
  have hwaits : ∀ j : Job, j.status = .awaitingTransferComplete ∨
      j.status = .awaitingDiagnosticsComplete → j.leaseExpired now = false := by
    rintro j (h | h) <;> simp [Job.leaseExpired, h]
  simp only [List.cons.injEq, and_true]
  refine ⟨rfl, ?_, ?_, ?_, ?_⟩ <;> refine countP_congr fun j _ => ?_ <;>
    have hj := hwaits j <;> simp only [selects] <;> grind

/-- **Every job gets its one outcome, the counts are those of the outcomes, and a second
pass changes nothing.** -/
theorem expired_leases_recovered (w : World) :
    let pass := runStill recoveryCounts w
    let expired := fun p : Job → Bool => w.jobs.rows.countP fun j => j.leaseExpired w.now && p j
    List.Forall₂ (Job.Recovered w.now) w.jobs.rows pass.2.jobs.rows ∧
    pass.1 = some [expired (·.type ∈ nonRepeatableTypes),
      expired fun j => j.type ∉ nonRepeatableTypes && j.maxAttempts ≤ j.attempts,
      expired fun j => j.type ∉ nonRepeatableTypes && j.attempts < j.maxAttempts,
      w.jobs.rows.countP (timeOutTransfers.selects w.now),
      w.jobs.rows.countP (timeOutAwaitingDiagnostics.selects w.now)] ∧
    (runStill recoveryCounts pass.2).1 = some [0, 0, 0, 0, 0] ∧
    (runStill recoveryCounts pass.2).2.jobs.rows = pass.2.jobs.rows ∧
    (runStill recoverExpiredLeases w).2 = pass.2 := by
  intro pass expired
  obtain ⟨hcounts, hrows, hnow, hpass⟩ := run_updates recoveryUpdates w
  obtain ⟨hagain, hkept, -, -⟩ := run_updates recoveryUpdates pass.2
  change pass.2.jobs.rows = _ at hrows
  change pass.2.now = _ at hnow
  rw [hnow] at hagain hkept
  have hidle : ∀ j ∈ pass.2.jobs.rows, ∀ u ∈ recoveryUpdates, u.selects w.now j = false := by
    intro j hj u hu
    rw [hrows] at hj
    obtain ⟨j₀, -, rfl⟩ := mem_map.mp hj
    exact selects_recovered hu
  obtain ⟨hzero, hsame⟩ := updates_idle hidle
  refine ⟨?_, hcounts.trans (congrArg some (updateCounts_recovery w.now w.jobs.rows)),
    hagain.trans (congrArg some hzero), hkept.trans hsame, hpass⟩
  rw [hrows, forall₂_map_right_iff]
  exact forall₂_same.mpr fun j _ => recovered w.now j

end Acs
