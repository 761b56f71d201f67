/-
Jobs that must not be sent twice.

Seven statements put a job back to QUEUED.  All but one of them leave the types of
`nonRepeatableTypes` alone; the third statement of a reaper pass does not look at
the type, and relies on the first statement having dead-lettered such jobs.  The
two read the clock at different times, so a lease that ends in between is missed by
the first and requeued by the third.  In runs without such a lease, a job of these
types is leased at most once.
-/
import Acs.Proofs.Invariants

namespace Acs

open Update Job JobTable List

/-! ### The reaper's clock -/

variable {ev : Event} {row : Job} {id : String}

/-- The last dead-lettering is unchanged, or it is this statement and it left no
job behind. -/
theorem reaped_step (hlegal : ev.Legal exec) :
    ev.post.reapedAt = ev.pre.reapedAt ∨
      ev.post.reapedAt = ev.post.now ∧ ∀ id row, ev.post.jobs.find id = some row →
        row.type ∈ nonRepeatableTypes → row.leaseExpired ev.post.now = false := by
  obtain ⟨s, c, w, rfl⟩ := hlegal.eq_fire
  show (exec s c w).2.reapedAt = w.reapedAt ∨ (exec s c w).2.reapedAt = (exec s c w).2.now ∧
    ∀ id row, (exec s c w).2.jobs.find id = some row → row.type ∈ nonRepeatableTypes →
      row.leaseExpired (exec s c w).2.now = false
  cases s with
  | lease d types uspOnly owner seen => exact .inl (exec_lease_frame ..).2.2
  | leaseNextByType type owner => exact .inl (exec_leaseNextByType_frame ..).2.2
  | insert | queueDiscoveryIfNeeded | openSession | setCurrentJob | closeSession =>
    refine .inl ?_
    simp only [exec, Stmt.effect]
    repeat' split
    all_goals rfl
  | update cause u =>
    by_cases hfails : c.fails
    · exact .inl (by simp [exec, Stmt.effect, hfails, World.tick])
    · rw [exec_update hfails]
      cases u with
      | failNonRepeatable =>
        refine .inr ⟨rfl, ?_⟩
        intro id row hrow htype
        rw [find_update] at hrow
        obtain ⟨before, _, rfl⟩ := Option.map_eq_some_iff.mp hrow
        unfold apply
        split
        · simp [leaseExpired, withState, sets, JobState.fault, JobState.noLease,
            JobState.finish]
        next hsel =>
          rw [apply, if_neg hsel] at htype
          simpa [selects, htype] using hsel
      | _ => exact .inl rfl
  | _ => exact .inl rfl

theorem now_step (hlegal : ev.Legal exec) : ev.pre.now ≤ ev.post.now := by
  obtain ⟨s, c, w, rfl⟩ := hlegal.eq_fire
  show w.now ≤ (exec s c w).2.now
  rw [exec_now]
  exact Nat.le_add_right _ _

theorem reapedAt_le_now (as : List Action) :
    ∀ ev ∈ runTrace as, ev.pre.reapedAt ≤ ev.pre.now := by
  have hkept := (runTrace_chain as).keeps (I := fun w => w.reapedAt ≤ w.now)
    (fun ev hev hpre => ?_) (Nat.le_refl 0)
  · exact fun ev hev => (hkept.2 ev hev).1
  · have hlegal := runTrace_legal as ev hev
    rcases reaped_step hlegal with hsame | ⟨hnow, _⟩
    · rw [hsame]
      exact Nat.le_trans hpre (now_step hlegal)
    · rw [hnow]

/-! ### Leases of such jobs -/

/-- The job was handed out and its lease has not been given back. -/
def Job.handedOut (j : Job) : Prop :=
  j.status = .rpcSent ∨ j.status = .inProgress

/-- The lease ends no earlier than the given time. -/
def Job.leaseEndsFrom (j : Job) (t : Time) : Prop :=
  ∃ e, j.leaseEnd = some e ∧ t ≤ e

/-- An update that leaves a job handed out does not touch its lease. -/
theorem Update.handedOut_after {u : Update} {now : Time}
    (h : (row.withState (redactFinished row.toJobState (u.sets now row))).handedOut) :
    row.handedOut ∧
      (row.withState (redactFinished row.toJobState (u.sets now row))).leaseEnd = row.leaseEnd := by
  simp only [handedOut, updated_status] at h
  have hopen : (u.sets now row).status.finished = false := by
    rw [sets_status]
    rcases h with h | h <;> rw [h] <;> rfl
  rw [redactFinished_of_not_finished hopen]
  cases u with
  | applyDroppedSessionAction j a => cases a <;> rcases h with h | h <;> cases h
  | recordDiscoveryFallback | bindFirmware => exact ⟨h, rfl⟩
  | _ => rcases h with h | h <;> cases h

/-- A lease outlives the last dead-lettering, whatever one statement does. -/
theorem leaseEndsFrom_step {r : Option Job} {row' : Job}
    (hpre : ∀ row, r = some row → row.handedOut → row.leaseEndsFrom ev.pre.reapedAt)
    (hnow : ev.pre.reapedAt ≤ ev.post.now) (h : RowStep ev r (some row')) :
    row'.handedOut → row'.leaseEndsFrom ev.pre.reapedAt := by
  intro hout
  generalize hr' : some row' = r' at h
  cases h with
  | same => exact hpre row' hr'.symm hout
  | leased | leasedByType =>
    rw [Option.some.inj hr']
    exact ⟨_, rfl, le_trans hnow (Nat.le_add_right _ _)⟩
  | @updated row cause u hstmt hexec hsel =>
    rw [Option.some.inj hr'] at hout ⊢
    obtain ⟨hbefore, hend⟩ := handedOut_after hout
    obtain ⟨e, he, hle⟩ := hpre row rfl hbefore
    exact ⟨e, hend.trans he, hle⟩
  | inserted spec payload =>
    rw [Option.some.inj hr'] at hout
    simp [handedOut, newJob] at hout

/-- Leases of jobs that must not be repeated end after the last dead-lettering. -/
def HeldFrom (w : World) (row : Job) : Prop :=
  row.type ∈ nonRepeatableTypes → row.handedOut → row.leaseEndsFrom w.reapedAt

theorem heldFrom_step (hlegal : ev.Legal exec) (hnow : ev.pre.reapedAt ≤ ev.pre.now) {row' : Job}
    (hpre : ∀ row, ev.pre.jobs.find id = some row → HeldFrom ev.pre row)
    (hrow : ev.post.jobs.find id = some row') (h : RowStep ev (ev.pre.jobs.find id) (some row')) :
    HeldFrom ev.post row' := by
  intro htype hout
  have hbefore : ∀ row, ev.pre.jobs.find id = some row → row.handedOut →
      row.leaseEndsFrom ev.pre.reapedAt := by
    intro row hfind
    rw [hfind] at h
    obtain ⟨_, hsome, hspec⟩ := h.spec
    rw [← Option.some.inj hsome] at hspec
    exact hpre row hfind (by rw [← hspec]; exact htype)
  have hlate := le_trans hnow (now_step hlegal)
  obtain ⟨e, he, hle⟩ := leaseEndsFrom_step hbefore hlate h hout
  rcases reaped_step hlegal with hsame | ⟨hreaped, hnone⟩
  · exact ⟨e, he, hsame ▸ hle⟩
  · -- the statement dead-lettered every such job whose lease had ended
    refine ⟨e, he, ?_⟩
    have hexpired := hnone id row' hrow htype
    rw [hreaped]
    rcases hout with hs | hs <;>
      simpa [leaseExpired, hs, he] using hexpired

theorem run_heldFrom (as : List Action) :
    ∀ ev ∈ runTrace as, RowsSatisfy HeldFrom ev.pre := fun ev hev =>
  ((rows_keep fun ev hev hpre id _ hrow hcases =>
    heldFrom_step (runTrace_legal as ev hev) (reapedAt_le_now as ev hev) (hpre id) hrow
      hcases).2 ev hev).1

/-! ### Nothing puts such a job back -/

theorem not_diagnostic_of_nonRepeatable {t : JobType} (h : t ∈ nonRepeatableTypes) :
    isCWMPDiagnosticType t = false := by
  simp only [nonRepeatableTypes, mem_cons, not_mem_nil, or_false] at h
  rcases h with rfl | rfl | rfl | rfl | rfl | rfl <;> rfl

theorem classified_status_ne_queued {j : Job} (h : j.type ∈ nonRepeatableTypes)
    (keys : List (String × String)) (complete : Bool) :
    (classifyDroppedSessionJob j keys complete).statusAfter ≠ .queued := by
  unfold classifyDroppedSessionJob
  simp only [nonRepeatableTypes, mem_cons, not_mem_nil, or_false] at h
  rcases h with h | h | h | h | h | h <;> rw [h] <;>
    simp only [isCWMPDiagnosticType, Bool.and_false, Bool.false_and, Bool.false_eq_true, if_false] <;>
    (try split) <;> decide

/-- One update leaves such a job out of the queue, the reaper's requeueing apart. -/
theorem nonRepeatable_update {F : Facts} {w : World} (hholds : F.Holds w) {now : Time}
    {cause : Cause} {u : Update} (hrow : w.jobs.find id = some row) (hinv : RowInv F row)
    (htype : row.type ∈ nonRepeatableTypes) (hallows : F.Allows cause u)
    (hsel : u.selects now row) (hne : u ≠ .requeueExpired) (hstatus : row.status ≠ .queued) :
    u.statusAfter row.status ≠ .queued := by
  have hcopy : ∀ {j : Job}, F.Copy j → row.id = j.id → j.type ∈ nonRepeatableTypes := by
    intro j hj hid
    rw [← congrArg JobSpec.type (row_eq_of_id hholds hrow hj hid)]
    exact htype
  cases u with
  | requeue j =>
    exact absurd (hcopy hallows.1.copy (of_decide_eq_true hsel)) hallows.2.1
  | beginReadback | requeueDiscovery =>
    have hj := hcopy hallows.1.copy (current_iff.mp hsel).1
    rw [hallows.2] at hj
    exact absurd hj (by decide)
  | applyDroppedSessionAction j a =>
    obtain ⟨hwrites, _, keys, complete, rfl⟩ := hallows
    exact classified_status_ne_queued
      (hcopy hwrites.copy (current_iff.mp hsel).1) keys complete
  | releaseAwaitingDiagnostics d =>
    -- only diagnostics are parked
    have hparked : row.status = .awaitingDiagnosticsComplete := by
      simp only [selects, Bool.and_eq_true, decide_eq_true_eq] at hsel
      exact hsel.2
    have hdiag := (hinv.parked hparked).1
    rw [not_diagnostic_of_nonRepeatable htype] at hdiag
    cases hdiag
  | requeueExpired => exact absurd rfl hne
  | recordDiscoveryFallback | bindFirmware => exact hstatus
  | _ => nofun

/-! ### Runs -/

/-- No lease of a job that must not be repeated ends between the reaper's last
dead-lettering and its requeueing of expired leases. -/
def NoLeaseEndsInPass (evs : List Event) : Prop :=
  ∀ ev ∈ evs, executed ev = some .requeueExpired → ∀ row ∈ ev.pre.jobs.rows,
    row.type ∈ nonRepeatableTypes → row.handedOut → row.attempts < row.maxAttempts →
    ∀ e, row.leaseEnd = some e → ¬ (ev.pre.reapedAt ≤ e ∧ e < ev.post.now)

/-- Without such a lease the reaper's requeueing passes these jobs by. -/
theorem requeueExpired_passes {as : List Action} (h : NoLeaseEndsInPass (runTrace as))
    (hev : ev ∈ runTrace as) (hrow : ev.pre.jobs.find id = some row)
    (htype : row.type ∈ nonRepeatableTypes) (hexec : executed ev = some .requeueExpired) :
    requeueExpired.selects ev.post.now row = false := by
  by_contra hsel
  simp only [selects, leaseExpired, Bool.not_eq_false, Bool.and_eq_true,
    Bool.or_eq_true, decide_eq_true_eq] at hsel
  obtain ⟨⟨hout, hend⟩, hattempts⟩ := hsel
  obtain ⟨e, he, hfrom⟩ := run_heldFrom as ev hev id row hrow htype hout
  rw [he] at hend
  have hmem := (find_eq_some hrow).1
  exact h ev hev hexec row hmem htype hout hattempts e he ⟨hfrom, by simpa using hend⟩

/-- **A job that must not be repeated is leased at most once, and never put back**, in
every run in which no lease of such a job ends while a reaper pass is under way. -/
theorem nonRepeatable_leased_once (as : List Action) (h : NoLeaseEndsInPass (runTrace as))
    {id : String} {job : Job} (hjob : (runEnd as).shared.jobs.find id = some job)
    (htype : job.type ∈ nonRepeatableTypes) :
    (∀ ev ∈ runTrace as, requeuesJob id ev = false) ∧
      ((runTrace as).filter (leasesJob id)).length ≤ 1 := by
  have hcovers := Scope.covers_all False as
  have hsound := run_sound hcovers nofun
  have hinv := run_rowInv hcovers nofun
  -- the row of the job has its type in every state, so one statement keeps it out of the queue
  have hstays : ∀ ev ∈ runTrace as, ∀ row row', ev.pre.jobs.find id = some row →
      ev.post.jobs.find id = some row' → row.status ≠ .queued → row'.status ≠ .queued := by
    intro ev hev row row' hrow hrow'
    have hrowtype : row.type ∈ nonRepeatableTypes := by
      rw [congrArg JobSpec.type (spec_of_end (hsound ev hev).2.pre hrow hjob)]
      exact htype
    have hcases := rowStep (hsound ev hev).1 id
    rw [hrow, hrow'] at hcases
    intro hstatus
    refine hcases.stays_out hstatus ?_
    intro cause u hstmt hexec hsel
    have hallows := (hsound ev hev).2.stmt
    rw [hstmt] at hallows
    refine nonRepeatable_update (hsound ev hev).2.pre hrow ((hinv.2 ev hev).1 id row hrow) hrowtype
      hallows hsel ?_ hstatus
    rintro rfl
    rw [requeueExpired_passes h hev hrow hrowtype hexec] at hsel
    cases hsel
  refine ⟨?_, ?_⟩
  · intro ev hev
    by_contra hrequeues
    simp only [requeuesJob, Bool.not_eq_false, Bool.and_eq_true, Option.any_eq_true,
      decide_eq_true_eq] at hrequeues
    obtain ⟨⟨row, hrow, hstatus⟩, row', hrow', hqueued⟩ := hrequeues
    exact hstays ev hev row row' hrow hrow' hstatus hqueued
  · exact leased_once (runTrace_chain as) (runTrace_legal as) hstays

/-- A reboot is queued, leased in a session and left unanswered.  After some time the
reaper passes, one tick of the clock between its statements; then the device asks
for work again. -/
def rebootRun (wait : Time) : List Action :=
  [.atomic (.create { id := "j", commandKey := "k", deviceID := "d", type := .reboot } .reboot)
      fun _ => {},
    .atomic (.inform {} "d" "s" []) fun _ => {},
    .atomic (.post {} "s" {}) fun _ => {},
    .atomic .reaperPass fun n => { elapsed := if n = 0 then wait else 1 },
    .atomic (.post {} "s" {}) fun _ => {}]

/-- The same as a check on one event, for the leases of any job. -/
def leasesEndOutside (ev : Event) : Bool :=
  match executed ev with
  | some .requeueExpired => ev.pre.jobs.rows.all fun row => row.leaseEnd.all fun e =>
    !(decide (ev.pre.reapedAt ≤ e) && decide (e < ev.post.now))
  | _ => true

theorem noLeaseEndsInPass_of_all {evs : List Event} (h : evs.all leasesEndOutside) :
    NoLeaseEndsInPass evs := by
  intro ev hev hexec row hrow _ _ _ e he hin
  have hrows := all_eq_true.mp h ev hev
  rw [leasesEndOutside, hexec] at hrows
  have hout := all_eq_true.mp hrows row hrow
  rw [he] at hout
  simp [hin] at hout

/-- The lease ends before the pass, which dead-letters the job. -/
theorem nonRepeatable_leased_once_rebootRun :
    (∀ ev ∈ runTrace (rebootRun (seconds 901)), requeuesJob "j" ev = false) ∧
      ((runTrace (rebootRun (seconds 901))).filter (leasesJob "j")).length ≤ 1 := by
  have hfound : ((runEnd (rebootRun (seconds 901))).shared.jobs.find "j").any
      (·.type ∈ nonRepeatableTypes) = true := by
    decide +kernel
  obtain ⟨job, hjob, htype⟩ := (Option.any_eq_true _ _).mp hfound
  exact nonRepeatable_leased_once _ (noLeaseEndsInPass_of_all (by decide +kernel)) hjob
    (of_decide_eq_true htype)

/-- The lease ends between two statements of the pass: the job is put back, and the
device is told to reboot a second time. -/
theorem rebootRun_leases_twice :
    ((runEnd (rebootRun (seconds 900))).shared.jobs.find "j").any
        (·.type ∈ nonRepeatableTypes) = true ∧
      (runTrace (rebootRun (seconds 900))).any (requeuesJob "j") = true ∧
      ((runTrace (rebootRun (seconds 900))).filter (leasesJob "j")).length = 2 ∧
      ((runTrace (rebootRun (seconds 900))).filterMap handedOver).map (·.id) = ["j", "j"] := by
  decide +kernel

end Acs
