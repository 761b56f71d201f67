/-
What every run of the queue keeps.

The attempts of a job are its leases, and what a finished job still holds has been redacted.
Nothing waits for ever: whoever takes a job leaves a date at which the reaper finds it, so that
nothing is under way after a pass that comes late enough.
-/
import Acs.Proofs.LeaseRecovery
import Acs.Proofs.NonRepeatable
import Acs.Proofs.SingleFlight
import Acs.Proofs.UspCompletion

namespace Acs

open List JobTable Update

variable {ev : Event} {row : Job} {w : World} {u : Update} {id : String}

/-! ### Attempts -/

def World.attempts (w : World) (id : String) : Nat :=
  (w.jobs.find id).elim 0 (·.attempts)

theorem attempts_step (hlegal : ev.Legal exec) :
    ev.post.attempts id = ev.pre.attempts id + if leasesJob id ev then 1 else 0 := by
  cases hlease : leasesJob id ev with
  | true =>
    obtain ⟨j, row, row', rfl, hstep⟩ := leasesJob_step hlegal hlease
    have hattempts : j.attempts = row.attempts + 1 := by rw [hstep.copy]; rfl
    simp [World.attempts, hstep.pre, hstep.post, hstep.postAttempts, hattempts]
  | false =>
    have hrow := rowStep hlegal id
    unfold World.attempts
    generalize hbefore : ev.pre.jobs.find id = before at hrow
    generalize ev.post.jobs.find id = after at hrow
    cases hrow with
    | same => rfl
    | leased hstmt hsel hcopy | leasedByType hstmt hstatus htype hcopy =>
      simp [leasesJob, hcopy, Job.leaseCopy, (find_eq_some hbefore).2] at hlease
    | @updated row _ u =>
      exact (redactFinished_attempts _ _).trans (u.sets_attempts _ row)
    | inserted => rfl

/-- The reaper has requeued the expired leases. -/
def requeuesExpired (ev : Event) : Bool :=
  match executed ev with
  | some .requeueExpired => true
  | _ => false

/-- A queued job has an attempt left, as long as only the reaper puts it back. -/
theorem attempts_bounded (as : List Action)
    (hreaper : ∀ ev ∈ runTrace as, requeuesJob id ev → requeuesExpired ev)
    (hrow : (runEnd as).shared.jobs.find id = some row) :
    row.attempts + (if row.status = .queued then 1 else 0) ≤ max 1 row.maxAttempts := by
  refine (rows_keep (P := fun _ row => row.id = id →
    row.attempts + (if row.status = .queued then 1 else 0) ≤ max 1 row.maxAttempts) ?_).1 id row hrow
      (find_eq_some hrow).2
  intro ev hev hpre id' row' hpost hstep hid
  obtain rfl : id' = id := (find_eq_some hpost).2.symm.trans hid
  generalize hbefore : ev.pre.jobs.find id' = before at hstep
  generalize hafter : some row' = after at hstep
  cases hstep with
  | same => exact hpre id' row' (hafter ▸ hbefore) hid
  | leased _ hsel =>
    cases hafter
    have hqueued := hpre id' _ hbefore hid
    rwa [if_pos (by simp_all [Job.leasable])] at hqueued
  | leasedByType _ hstatus =>
    cases hafter
    have hqueued := hpre id' _ hbefore hid
    rwa [if_pos hstatus] at hqueued
  | @updated row _ u _ hexec hsel =>
    have hold := hpre id' row hbefore (by cases hafter; exact hid)
    have hsame : row'.attempts = row.attempts ∧ row'.maxAttempts = row.maxAttempts := by
      cases hafter
      exact ⟨(redactFinished_attempts _ _).trans (u.sets_attempts _ row), rfl⟩
    rw [hsame.1, hsame.2]
    by_cases hback : row'.status = .queued ∧ row.status ≠ .queued
    · have hreaps := hreaper ev hev (by simp [requeuesJob, hbefore, hpost, hback])
      unfold requeuesExpired at hreaps
      split at hreaps
      next hreaped =>
        obtain rfl := Option.some.inj (hexec.symm.trans hreaped)
        simp only [selects, Bool.and_eq_true, decide_eq_true_eq] at hsel
        split <;> omega
      · cases hreaps
    · grind
  | inserted =>
    cases hafter
    exact Nat.le_max_left ..

/-- **The attempts of a job are its leases.**  One that only the reaper puts back is leased
`max_attempts` times at most. -/
theorem attempts_count_leases (as : List Action) (id : String) :
    (runEnd as).shared.attempts id = ((runTrace as).filter (leasesJob id)).length ∧
    ((∀ ev ∈ runTrace as, requeuesJob id ev = true → requeuesExpired ev = true) →
      ∀ row, (runEnd as).shared.jobs.find id = some row →
        ((runTrace as).filter (leasesJob id)).length ≤ max 1 row.maxAttempts) := by
  have hcount : ∀ {w w' evs}, Pool.Chain w evs w' → (∀ ev ∈ evs, ev.Legal exec) →
      w'.attempts id = w.attempts id + (evs.filter (leasesJob id)).length := by
    intro w w' evs hchain
    induction hchain with
    | nil => simp
    | @cons ev evs _ _ ih =>
      intro hlegal
      rw [ih fun e he => hlegal e (mem_cons_of_mem _ he), attempts_step (hlegal ev mem_cons_self),
        filter_cons]
      split <;> simp +arith
  have hleases : (runEnd as).shared.attempts id = ((runTrace as).filter (leasesJob id)).length := by
    rw [hcount (runTrace_chain as) (runTrace_legal as)]
    exact Nat.zero_add _
  refine ⟨hleases, ?_⟩
  intro hreaper row hrow
  rw [← hleases, World.attempts, hrow]
  exact (Nat.le_add_right ..).trans (attempts_bounded as hreaper hrow)

theorem attempts_count_leases_rebootRun :
    ∃ row, (runEnd (rebootRun (seconds 900))).shared.jobs.find "j" = some row ∧
      ((runTrace (rebootRun (seconds 900))).filter (leasesJob "j")).length ≤
        max 1 row.maxAttempts := by
  have hfound : ((runEnd (rebootRun (seconds 900))).shared.jobs.find "j").isSome := by
    decide +kernel
  obtain ⟨row, hrow⟩ := Option.isSome_iff_exists.mp hfound
  exact ⟨row, hrow, (attempts_count_leases _ _).2 (by decide +kernel) row hrow⟩

/-! ### Secrets -/

theorem redact_redact (p : Payload) :
    redactPayloadSecrets (redactPayloadSecrets p) = redactPayloadSecrets p := by
  have htext (s : String) : redactText (redactText s) = redactText s := by
    unfold redactText
    split <;> simp_all
  have hwrite (w : ParameterWrite) : redactWrite (redactWrite w) = redactWrite w := by
    cases h : secretName w.name <;> simp [redactWrite, htext, h]
  cases p <;> simp [redactPayloadSecrets, redactPlan, htext, Function.comp_def, hwrite]

/-- What finishes a job leaves its payload to the trigger. -/
theorem Update.sets_payload {now : Time} (hsel : u.selects now row)
    (hfinished : (u.statusAfter row.status).finished) : (u.sets now row).payload = row.payload := by
  cases u with
  | beginReadback | requeueDiscovery => cases hfinished
  | bindFirmware j payload =>
    simp only [selects, Job.current, Bool.and_eq_true, decide_eq_true_eq] at hsel
    simp [statusAfter, hsel.2, Status.finished] at hfinished
  | applyDroppedSessionAction j a => cases a <;> rfl
  | _ => rfl

/-- **What a finished job holds has been redacted.** -/
theorem finished_redacted (as : List Action) {id : String} {row : Job}
    (hrow : (runEnd as).shared.jobs.find id = some row) (hfinished : row.status.finished = true) :
    redactPayloadSecrets row.payload = row.payload := by
  refine (rows_keep (P := fun _ row => row.status.finished →
    redactPayloadSecrets row.payload = row.payload) ?_).1 id row hrow hfinished
  intro ev _ hpre id row _ hstep
  generalize hbefore : ev.pre.jobs.find id = before at hstep
  cases hstep with
  | same => exact hpre id row hbefore
  | leased | leasedByType | inserted =>
    intro hfinished
    cases hfinished
  | @updated before _ u _ _ hsel =>
    rw [updated_status]
    intro hfinished
    show redactPayloadSecrets (redactFinished _ _).payload = (redactFinished _ _).payload
    unfold redactFinished
    split
    · exact redact_redact _
    next hkept =>
      -- The trigger has not fired: the job was finished before.
      rw [u.sets_status] at hkept
      have hsame : before.status = u.statusAfter before.status :=
        Classical.not_not.mp fun hne => hkept ⟨hfinished, hne⟩
      rw [u.sets_payload hsel hfinished]
      exact hpre id before hbefore ((congrArg Status.finished hsame).trans hfinished)

theorem finished_redacted_passphraseWritten :
    ∃ row, (runEnd passphraseWritten).shared.jobs.find "j" = some row ∧ row.status = .success ∧
      redactPayloadSecrets row.payload = row.payload := by
  have hfound : ((runEnd passphraseWritten).shared.jobs.find "j").any
      (·.status = .success) = true := by
    decide +kernel
  obtain ⟨row, hrow, hstatus⟩ := (Option.any_eq_true _ _).mp hfound
  have hstatus := of_decide_eq_true hstatus
  exact ⟨row, hrow, hstatus, finished_redacted _ hrow (by rw [hstatus]; rfl)⟩

/-! ### Dates -/

/-- The date from which on the reaper takes the job. -/
def Job.due (j : Job) : Option Time :=
  match j.status with
  | .rpcSent | .inProgress => j.leaseEnd
  | .awaitingTransferComplete =>
    some (j.startedAt.getD j.createdAt + seconds (3600 * transferDeadlineHours))
  | .awaitingDiagnosticsComplete => j.diagnosticsDeadline
  | _ => none

def Status.underWay : Status → Bool
  | .rpcSent | .inProgress | .awaitingTransferComplete | .awaitingDiagnosticsComplete => true
  | _ => false

theorem due_updated (h : row.status.underWay → row.due.isSome) (u : Update) (now : Time) :
    let row' := row.withState (redactFinished row.toJobState (u.sets now row))
    row'.status.underWay → row'.due.isSome := by
  intro row' hway
  have hdue : row'.due = (row.withState (u.sets now row)).due := by
    unfold row' redactFinished
    split <;> rfl
  rw [updated_status] at hway
  rw [hdue]
  cases u with
  | recordDiscoveryFallback | bindFirmware => exact h hway
  | markAwaitingDiagnostics j window =>
    show (row.diagnosticsDeadline.or (some _)).isSome
    simp
  | markAwaitingTransferComplete => rfl
  | applyDroppedSessionAction j a =>
    cases a with
    | awaitTransfer => rfl
    | _ => cases hway
  | _ => cases hway

theorem run_due (as : List Action) :
    ∀ row ∈ (runEnd as).shared.jobs.rows, row.status.underWay → row.due.isSome := by
  intro row hrow
  refine (rows_keep (P := fun _ row => row.status.underWay → row.due.isSome) ?_).1 _ _
    (find_of_mem hrow)
  intro ev _ hpre id row _ hstep
  generalize hbefore : ev.pre.jobs.find id = before at hstep
  cases hstep with
  | same => exact hpre id row hbefore
  | leased | leasedByType => exact fun _ => rfl
  | updated => exact due_updated (hpre id _ hbefore) _ _
  | inserted =>
    intro hway
    cases hway

theorem selected_of_due {t d : Time} {j : Job} (hd : j.due = some d) (hpast : d < t) :
    (recoveryUpdates.find? (·.selects t j)).isSome := by
  rw [find?_isSome]
  unfold Job.due at hd
  split at hd
  iterate 2
    next hstatus =>
      have hexp : j.leaseExpired t := by simp [Job.leaseExpired, hstatus, hd, hpast]
      rcases Nat.lt_or_ge j.attempts j.maxAttempts with hmax | hmax
      · exact ⟨.requeueExpired, by simp [recoveryUpdates], by simp [selects, hexp, hmax]⟩
      · exact ⟨.failExhausted, by simp [recoveryUpdates], by simp [selects, hexp, hmax]⟩
  next hstatus =>
    cases hd
    exact ⟨.timeOutTransfers, by simp [recoveryUpdates], by simp [selects, hstatus, hpast]⟩
  next hstatus =>
    exact ⟨.timeOutAwaitingDiagnostics, by simp [recoveryUpdates],
      by simp [selects, hstatus, hd, hpast]⟩
  · cases hd

theorem settled_of_due {t : Time} {j : Job} (h : j.status.underWay → j.due.isSome)
    (hlate : ∀ d ∈ j.due, d < t) :
    (appliedAll recoveryUpdates t j).status.underWay = false := by
  cases hfind : recoveryUpdates.find? (·.selects t j) with
  | none =>
    rw [appliedAll_eq fun _ h => h, hfind]
    by_contra hway
    obtain ⟨d, hd⟩ := Option.isSome_iff_exists.mp (h (by simpa using hway))
    simpa [hfind] using selected_of_due hd (hlate d hd)
  | some u =>
    rw [taken t j u hfind, updated_status]
    have hu := mem_of_find?_eq_some hfind
    simp only [recoveryUpdates, mem_cons, not_mem_nil, or_false] at hu
    rcases hu with rfl | rfl | rfl | rfl | rfl <;> rfl

/-- **No job waits for ever.** -/
theorem late_pass_settles (as : List Action) :
    (∀ row ∈ (runEnd as).shared.jobs.rows, row.status.underWay = true → row.due.isSome = true) ∧
    ∀ t, (∀ row ∈ (runEnd as).shared.jobs.rows, ∀ d ∈ row.due, d < t) →
      ∀ row ∈ (runStill recoverExpiredLeases { (runEnd as).shared with now := t }).2.jobs.rows,
        row.status.underWay = false := by
  refine ⟨run_due as, ?_⟩
  intro t hlate row (hrow : row ∈ (runStill (untilFailure .worker recoveryUpdates) _).2.jobs.rows)
  obtain ⟨-, hrows, -, hpass⟩ := run_updates recoveryUpdates { (runEnd as).shared with now := t }
  rw [hpass, hrows] at hrow
  obtain ⟨j, hj, rfl⟩ := mem_map.mp hrow
  exact settled_of_due (run_due as j hj) (hlate j hj)

theorem late_pass_settles_rebootRun :
    (runEnd (rebootRun (seconds 900))).shared.jobs.rows.map (·.status) = [.rpcSent] ∧
    ∀ row ∈ (runStill recoverExpiredLeases { (runEnd (rebootRun (seconds 900))).shared with
        now := seconds 100000 }).2.jobs.rows, row.status.underWay = false :=
  ⟨by decide +kernel, (late_pass_settles _).2 _ (by decide +kernel)⟩

end Acs
