/-
Writing through a copy.

A handler reads a job, decides, and writes.  The statements that end a job find
its row by the id alone, so they overwrite whatever happened to it in between.
The two results of this file say what is lost by that and nothing more: where each
such statement finds the row as its copy was read, a finished job stays finished,
and an answer changes only the attempt it replies to.
-/
import Acs.Proofs.Invariants

namespace Acs

variable {F : Facts}

/-! ### Finished jobs -/

/-- The copy of a statement that finds its row by the id alone, and writes the status. -/
def Update.byIDAlone : Update → Option Job
  | .markSuccess j | .markSuccessWithDetail j _ | .markFailed j _ _ | .markTimeout j _
  | .markAwaitingTransferComplete j | .requeue j => some j
  | _ => none

theorem row_of_target {ev : Event} (hsound : ev.Sound F.R F.W F.Holds) {c : Cause} {u : Update}
    {j row : Job} {id : String} (hstmt : ev.stmt = .update c u) (hj : u.target = some j)
    (hsel : u.selects ev.post.now row) (hrow : ev.pre.jobs.find id = some row) :
    F.Writes c j ∧ row.toJobSpec = j.toJobSpec ∧ ev.pre.jobs.find j.id = some row := by
  have hallows := hsound.stmt
  rw [hstmt] at hallows
  have hwrites := Facts.Allows.writes hallows hj
  have hid := Update.id_of_selects hj hsel
  refine ⟨hwrites, row_eq_of_id hsound.pre hrow hwrites.copy hid, ?_⟩
  rw [← hid, (JobTable.find_eq_some hrow).2, hrow]

theorem Job.not_finished_of_leaseExpired {row : Job} {now : Time}
    (h : row.leaseExpired now) : row.status.finished = false := by
  simp only [Job.leaseExpired, Bool.and_eq_true, Bool.or_eq_true, decide_eq_true_eq] at h
  rcases h.1 with hs | hs <;> rw [hs] <;> rfl

theorem Update.finished_kept {u : Update} {now : Time} {row : Job} (h : u.byIDAlone = none)
    (hfinished : row.status.finished) (hsel : u.selects now row) :
    (u.sets now row).status = row.status ∧ (u.sets now row).faultCode = row.faultCode := by
  have hopen : ¬ row.status.finished = false := by simp [hfinished]
  cases u with
  | recordDiscoveryFallback => exact ⟨rfl, rfl⟩
  | beginReadback | requeueDiscovery | markAwaitingDiagnostics | applyDroppedSessionAction
  | bindFirmware => exact absurd (by rw [(Job.current_iff.mp hsel).2.2]; rfl) hopen
  | failNonRepeatable | failExhausted | requeueExpired =>
    exact absurd (Job.not_finished_of_leaseExpired (Bool.and_eq_true_iff.mp hsel).1) hopen
  | timeOutTransfers | timeOutAwaitingDiagnostics =>
    have hstatus := of_decide_eq_true (Bool.and_eq_true_iff.mp hsel).1
    exact absurd (by rw [hstatus]; rfl) hopen
  | releaseAwaitingDiagnostics =>
    have hstatus := of_decide_eq_true (Bool.and_eq_true_iff.mp hsel).2
    exact absurd (by rw [hstatus]; rfl) hopen
  | _ => cases h

/-- A statement that finds its row by the id alone finds a finished job only if its
copy shows it: the same status and fault code. -/
def finishedAsRead (ev : Event) : Bool :=
  ((executed ev).bind Update.byIDAlone).all fun j => (ev.pre.jobs.find j.id).all fun row =>
    !row.status.finished || (row.status = j.status && row.faultCode = j.faultCode)

/-- The status and fault code that are to be kept. -/
def Job.Keeps (row row' : Job) : Prop :=
  row'.status = row.status ∧ row'.faultCode = row.faultCode

theorem finished_step {ev : Event} (hsound : ev.Sound F.R F.W F.Holds)
    (hread : finishedAsRead ev) {id : String} {row row' : Job}
    (hrow : ev.pre.jobs.find id = some row) (hfinished : row.status.finished)
    (h : RowStep ev (some row) (some row')) :
    row.Keeps row' ∨ lateTransferReconcilable row ∧
      ∃ u, ev.stmt = .update (.transferComplete row.commandKey) u := by
  generalize hr' : some row' = r' at h
  cases h with
  | same => rw [Option.some.inj hr']; exact .inl ⟨rfl, rfl⟩
  | leased hstmt hsel hcopy =>
    simp only [Job.leasable, Bool.and_eq_true, decide_eq_true_eq] at hsel
    rw [hsel.1.1.2] at hfinished
    cases hfinished
  | leasedByType hstmt hstatus htype hcopy =>
    rw [hstatus] at hfinished
    cases hfinished
  | @updated _ cause u hstmt hexec hsel =>
    rw [Option.some.inj hr']
    cases hj : u.byIDAlone with
    | none =>
      obtain ⟨hstatus, hfault⟩ := Update.finished_kept hj hfinished hsel
      refine .inl ⟨?_, ?_⟩
      · show (redactFinished row.toJobState (u.sets ev.post.now row)).status = _
        rw [redactFinished_status, hstatus]
      · show (redactFinished row.toJobState (u.sets ev.post.now row)).faultCode = _
        rw [redactFinished_faultCode, hfault]
    | some j =>
      -- the copy shows the job finished, so only a TransferComplete writes through it
      have htarget : u.target = some j := by cases u <;> first | exact hj | cases hj
      obtain ⟨hwrites, hspec, hfind⟩ := row_of_target hsound hstmt htarget hsel hrow
      have hsame : row.status = j.status ∧ row.faultCode = j.faultCode := by
        simpa [finishedAsRead, hexec, hj, hfind, hfinished] using hread
      rcases hwrites.unfinished with hopen | ⟨hcause, hlate⟩
      · rw [← hsame.1, hfinished] at hopen
        cases hopen
      · refine .inr ⟨?_, u, ?_⟩
        · unfold lateTransferReconcilable at hlate ⊢
          rw [hsame.1, hsame.2, show row.type = j.type from congrArg JobSpec.type hspec]
          exact hlate
        · rw [hstmt, hcause, show row.commandKey = j.commandKey from
            congrArg JobSpec.commandKey hspec]

/-- **A finished job keeps its status and fault code**, in every run in which the
statements that find their row by the id alone find finished jobs as they read
them.  Only a TransferComplete with the job's own command key can move it, and only
a failed transfer that may still be reconciled. -/
theorem finished_job_kept (as bs : List Action)
    (hread : ∀ ev ∈ runTrace (as ++ bs), finishedAsRead ev = true) {id : String} {row : Job}
    (hrow : (runEnd as).shared.jobs.find id = some row)
    (hfinished : row.status.finished = true) :
    (∃ row', (runEnd (as ++ bs)).shared.jobs.find id = some row' ∧ row.Keeps row') ∨
      lateTransferReconcilable row = true ∧ ∃ ev ∈ (runFrom bs (runEnd as)).1,
        ∃ u, ev.stmt = .update (.transferComplete row.commandKey) u := by
  have hsound := run_sound (Scope.covers_all False (as ++ bs)) nofun
  rw [runTrace_append] at hread hsound
  by_cases hmoved : lateTransferReconcilable row = true ∧ ∃ ev ∈ (runFrom bs (runEnd as)).1,
      ∃ u, ev.stmt = .update (.transferComplete row.commandKey) u
  · exact .inr hmoved
  · refine .inl ?_
    have hchain := Pool.run_chain exec Task.prog bs (runEnd as)
    have hkept := hchain.keeps (I := fun w => ∃ row', w.jobs.find id = some row' ∧
      row'.toJobSpec = row.toJobSpec ∧ row.Keeps row') (fun ev hev hpre => ?_)
      ⟨row, hrow, rfl, rfl, rfl⟩
    · obtain ⟨row', hrow', _, hkeeps⟩ := hkept.1
      exact ⟨row', by rw [runEnd_append]; exact hrow', hkeeps⟩
    · obtain ⟨before, hbefore, hspec, hstatus, hfault⟩ := hpre
      have hmem := List.mem_append_right (runTrace as) hev
      have hcases := rowStep (hsound ev hmem).1 id
      rw [hbefore] at hcases
      obtain ⟨after, hafter, hspec'⟩ := hcases.spec
      rw [hafter] at hcases
      have hstep := finished_step (hsound ev hmem).2 (hread ev hmem) hbefore
        (by rw [hstatus]; exact hfinished) hcases
      rcases hstep with hkeeps | ⟨hlate, u, hstmt⟩
      · exact ⟨after, hafter, hspec'.trans hspec, hkeeps.1.trans hstatus,
          hkeeps.2.trans hfault⟩
      · -- the row still looks as it did at first, so this is the exception
        refine absurd ⟨?_, ev, hev, u, ?_⟩ hmoved
        · unfold lateTransferReconcilable at hlate ⊢
          rw [hstatus, hfault, show before.type = row.type from congrArg JobSpec.type hspec]
            at hlate
          exact hlate
        · rw [hstmt, show before.commandKey = row.commandKey from
            congrArg JobSpec.commandKey hspec]

/-- A reboot is leased in a session, and the device acknowledges it; the handler of the
answer has read the job when the reaper finds its lease ended `wait` later. -/
def answeredLate (wait : Time) : List Action :=
  [.atomic (.create { id := "j", commandKey := "k", deviceID := "d", type := .reboot } .reboot)
      fun _ => {},
    .atomic (.inform {} "d" "s" []) fun _ => {},
    .atomic (.post {} "s" {}) fun _ => {},
    .spawn (.post {} "s" { rebootResponse := some () }),
    .step 0 {},
    .step 0 {},
    .atomic .reaperPass fun n => { elapsed := if n = 0 then wait else 0 }]

/-- When the answer is written first, the reaper leaves it. -/
theorem finished_job_kept_answeredLate :
    ∃ row, (runEnd (answeredLate 0 ++ [.step 0 {}])).shared.jobs.find "j" = some row ∧
      row.status = .success ∧
      ((∃ row', (runEnd (answeredLate 0 ++ [.step 0 {}] ++
          [.atomic .reaperPass fun _ => { elapsed := seconds 901 }])).shared.jobs.find "j" =
            some row' ∧ row.Keeps row') ∨
        lateTransferReconcilable row = true ∧
          ∃ ev ∈ (runFrom [.atomic .reaperPass fun _ => { elapsed := seconds 901 }]
            (runEnd (answeredLate 0 ++ [.step 0 {}]))).1,
            ∃ u, ev.stmt = .update (.transferComplete row.commandKey) u) := by
  have hfound : ((runEnd (answeredLate 0 ++ [.step 0 {}])).shared.jobs.find "j").any
      (·.status = .success) = true := by
    decide +kernel
  obtain ⟨row, hrow, hstatus⟩ := (Option.any_eq_true _ _).mp hfound
  have hsuccess : row.status = .success := of_decide_eq_true hstatus
  exact ⟨row, hrow, hsuccess, finished_job_kept _ _ (by decide +kernel) hrow
    (by rw [hsuccess]; rfl)⟩

/-- The reaper has failed the job; the handler of the answer then makes it a success. -/
theorem answeredLate_failed_then_success :
    ((runEnd (answeredLate (seconds 901))).shared.jobs.find "j").any (fun row =>
        row.status = .failed && !lateTransferReconcilable row) = true ∧
      ((runEnd (answeredLate (seconds 901) ++ [.step 0 {}])).shared.jobs.find "j").any
        (·.status = .success) = true := by
  decide +kernel

/-! ### Answers -/

/-- An update for an answer finds its row as its copy was read.  The note of a second
discovery is written after the answer has failed the first. -/
def answerAsRead : Event → Bool
  | ⟨.update c u, some _, pre, post⟩ => c.attempt.isNone || u.target.all fun j =>
    (pre.jobs.find j.id).all fun row => !u.selects post.now row ||
      (row.attempts = j.attempts && (row.status = j.status ||
        (u matches .recordDiscoveryFallback ..) && row.status = .failed))
  | _ => true

theorem Facts.Allows.target_of_attempt {c : Cause} {u : Update} {n : Nat} (h : F.Allows c u)
    (hn : c.attempt = some n) : ∃ j, u.target = some j := by
  cases u with
  | releaseAwaitingDiagnostics => rw [h.2] at hn; cases hn
  | failNonRepeatable | failExhausted | requeueExpired | timeOutTransfers
  | timeOutAwaitingDiagnostics => rw [show c.attempt = none from h] at hn; cases hn
  | _ => exact ⟨_, rfl⟩

/-- **An answer changes only the attempt it replies to**, in every run in which the
lookups for an answer do not find a later attempt under way, and its updates find
the row as it was read. -/
theorem answer_changes_own_attempt (as : List Action)
    (hcurrent : ∀ ev ∈ runTrace as, answerCurrent ev = true)
    (hread : ∀ ev ∈ runTrace as, answerAsRead ev = true) :
    ∀ ev ∈ runTrace as, ∀ c u n, ev.stmt = .update c u → c.attempt = some n →
      ∀ id row, ev.pre.jobs.find id = some row → ev.post.jobs.find id ≠ some row →
        c.names row ∧ row.attempts = n ∧
          (row.status = .rpcSent ∨
            row.status = .failed ∧ ∃ j key, u = .recordDiscoveryFallback j key) := by
  intro ev hev c u n hstmt hn id row hrow hchanged
  obtain ⟨hlegal, hsound⟩ := run_sound (Scope.covers_all True as) (fun _ => hcurrent) ev hev
  have hcases := rowStep hlegal id
  rw [hrow] at hcases
  generalize ev.post.jobs.find id = r at hcases hchanged
  cases hcases with
  | same => exact absurd rfl hchanged
  | leased hlease | leasedByType hlease => rw [hstmt] at hlease; cases hlease
  | updated hstmt' hexec hsel =>
    rw [hstmt] at hstmt'
    cases hstmt'
    have hallows := hsound.stmt
    rw [hstmt] at hallows
    obtain ⟨j, hj⟩ := Facts.Allows.target_of_attempt hallows hn
    obtain ⟨hwrites, hspec, hfind⟩ := row_of_target hsound hstmt hj hsel hrow
    obtain ⟨hsent, hattempts⟩ := hwrites.answered n hn
    have hasRead := hread ev hev
    obtain ⟨s, r, pre, post⟩ := ev
    cases hstmt
    cases r with
    | none => cases hexec
    | some count =>
      simp only [answerAsRead, hn, hj, hfind, hsel, Option.all_some, Option.isNone_some,
        Bool.false_or, Bool.not_true, Bool.and_eq_true, Bool.or_eq_true, decide_eq_true_eq] at hasRead
      refine ⟨Cause.names_of_spec hspec.symm hwrites.named, hasRead.1.trans (hattempts trivial),
        hasRead.2.imp (·.trans hsent) fun hnote => ⟨hnote.2, ?_⟩⟩
      cases u with
      | recordDiscoveryFallback j key => exact ⟨j, key, rfl⟩
      | _ => cases hnote.1

/-- A discovery is sent over USP and left unanswered; the reaper puts it back `wait`
later and it is sent again, if it was.  Then an error arrives in answer to the first
request. -/
def answeredAgain (wait : Time) : List Action :=
  [.atomic (.queueDiscovery ("j", "k") "d" {}) fun _ => {},
    .atomic (.tryDispatch [{ conn := some ⟨1, "agent"⟩, msgID := "m1" }] "d") fun _ => {},
    .atomic .reaperPass fun n => { elapsed := if n = 0 then wait else 0 },
    .atomic (.tryDispatch [{ conn := some ⟨1, "agent"⟩, msgID := "m2" }] "d") fun _ => {},
    .atomic (.response {} [] "agent"
      { msgID := "m1", msgType := "ERROR", body := .error { code := 7000, message := "busy" } })
      fun _ => {}]

/-- The first request is still the one under way when it is answered. -/
theorem answer_changes_own_attempt_answeredAgain :
    ((runEnd (answeredAgain 0)).shared.jobs.find "j").any (fun row =>
        row.status = .failed && row.attempts = 1) = true ∧
      ∀ ev ∈ runTrace (answeredAgain 0), ∀ c u n, ev.stmt = .update c u → c.attempt = some n →
        ∀ id row, ev.pre.jobs.find id = some row → ev.post.jobs.find id ≠ some row →
          c.names row ∧ row.attempts = n ∧
            (row.status = .rpcSent ∨
              row.status = .failed ∧ ∃ j key, u = .recordDiscoveryFallback j key) :=
  ⟨by decide +kernel, answer_changes_own_attempt _ (by decide +kernel) (by decide +kernel)⟩

/-- The error in answer to the first attempt fails the second. -/
theorem answeredAgain_fails_second_attempt :
    (runTrace (answeredAgain (seconds 901))).any (fun ev =>
      match ev.stmt with
      | .update (.answer id n) _ => id = "j" && n = 1 &&
          (ev.pre.jobs.find "j").any (fun row => row.status = .rpcSent && row.attempts = 2) &&
          (ev.post.jobs.find "j").any (fun row => row.status = .failed && row.attempts = 2)
      | _ => false) = true := by
  decide +kernel

end Acs
