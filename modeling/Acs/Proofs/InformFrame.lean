/-
What an Inform does to the jobs of its device.

Recovery takes every job of the device that is RPC_SENT for one that an earlier CWMP
session left unanswered.  It does not look at who leased it, so it also takes jobs
that the USP dispatcher has sent and still waits for.  The rows it leaves alone are
exactly those `caughtBy` does not name: a job outstanding over USP is left alone
when it is a discovery whose walk has not got past its root, and in no other case.
-/
import Acs.Proofs.Invariants

namespace Acs

open Prog JobTable Job Update

/-! ### The rows an Inform takes -/

/-- A walk that is past its root. -/
def Job.openWalk (j : Job) : Bool :=
  j.payload.asDiscovery.any fun p => p.incremental && p.cursor ≠ ""

/-- The row is one that an Inform of the device recovers or releases. -/
def Job.caughtBy (row : Job) (d : String) : Bool :=
  row.deviceID = d &&
    match row.status with
    | .rpcSent =>
      if row.type = .parameterDiscovery then row.openWalk
      else row.type ∈ sessionDispatchableTypes
    | .awaitingDiagnosticsComplete => true
    | _ => false

/-- The update leaves its row neither sent nor parked. -/
def Update.Ends (u : Update) : Prop :=
  ∀ s, u.statusAfter s ≠ .rpcSent ∧ u.statusAfter s ≠ .awaitingDiagnosticsComplete

section

variable (w : World) (d : String)

/-- The job, if it was there at first, is one the Inform takes. -/
def Caught (id : String) : Prop :=
  ∀ row, w.jobs.find id = some row → row.caughtBy d = true

/-- A statement of recovery. -/
def Recovers : Stmt → Prop
  | .update _ u => u.Ends ∧
    (u = .releaseAwaitingDiagnostics d ∨ ∃ j, u.target = some j ∧ Caught w d j.id)
  | .lease .. | .leaseNextByType .. => False
  | _ => True

/-- What the queries of recovery return. -/
def Recovered : (s : Stmt) → s.Res → Prop
  | .inFlightDiscoveries d', r => d' = d → ∀ l, r = some l → ∀ j ∈ l,
    j.openWalk = true → Caught w d j.id
  | .droppedSessionJobs d', r => d' = d → ∀ l, r = some l → ∀ j ∈ l, Caught w d j.id
  | _, _ => True

/-- The state during recovery that began in `w`. -/
structure Recovering (v : World) : Prop where
  /-- The rows that are not taken are as they were. -/
  frame : ∀ id row, w.jobs.find id = some row → row.caughtBy d = false →
    v.jobs.find id = some row
  /-- So are those that are still sent or parked. -/
  rest : ∀ id row, v.jobs.find id = some row →
    row.status = .rpcSent ∨ row.status = .awaitingDiagnosticsComplete →
    w.jobs.find id = some row

end

variable {w v : World} {d : String}

theorem caught_of_mem (h : Recovering w d v) {j : Job} (hj : j ∈ v.jobs.rows)
    (hstatus : j.status = .rpcSent) (hcaught : j.caughtBy d) : Caught w d j.id := by
  intro row hrow
  have hsame := h.rest j.id j (find_of_mem hj) (.inl hstatus)
  rw [← Option.some.inj (hsame.symm.trans hrow)]
  exact hcaught

theorem recovered_step {s : Stmt} {c : Choice} (h : Recovering w d v) :
    Recovered w d s (exec s c v).1 := by
  have hanswer := exec_answered s c v
  cases s with
  | inFlightDiscoveries d' =>
    rintro rfl l hl j hj hopen
    obtain ⟨hmem, ⟨hd, htype⟩, hstatus⟩ := hanswer l hl j hj
    exact caught_of_mem h hmem hstatus (by simp [caughtBy, hd, hstatus, htype, hopen])
  | droppedSessionJobs d' =>
    rintro rfl l hl j hj
    obtain ⟨hmem, ⟨⟨hd, hstatus⟩, htype⟩, hne⟩ := hanswer l hl j hj
    exact caught_of_mem h hmem hstatus (by simp [caughtBy, hd, hstatus, htype, hne])
  | _ => trivial

theorem recovering_step {s : Stmt} {c : Choice} (hs : Recovers w d s) (h : Recovering w d v) :
    Recovering w d (exec s c v).2 := by
  constructor
  · intro id row hrow hfree
    have hcases := exec_rowStep s c v id
    rw [h.frame id row hrow hfree] at hcases
    generalize (exec s c v).2.jobs.find id = r at hcases ⊢
    cases hcases with
    | same => rfl
    | leased hstmt | leasedByType hstmt => rw [show s = _ from hstmt] at hs; exact hs.elim
    | updated hstmt hexec hsel =>
      rw [show s = _ from hstmt] at hs
      rcases hs.2 with rfl | ⟨j, hj, hcaught⟩
      · -- the released rows are parked rows of the device
        simp only [selects, Bool.and_eq_true, decide_eq_true_eq] at hsel
        simp [caughtBy, hsel] at hfree
      · have hid := id_of_selects hj hsel
        rw [hcaught row (by rw [← hid, (find_eq_some hrow).2, hrow])] at hfree
        cases hfree
  · intro id row' hrow' hstatus
    have hcases := exec_rowStep s c v id
    rw [hrow'] at hcases
    generalize hr : v.jobs.find id = r at hcases
    generalize hr' : some row' = r' at hcases
    cases hcases with
    | same =>
      rw [← hr'] at hr ⊢
      exact h.rest id row' hr hstatus
    | leased hstmt | leasedByType hstmt => rw [show s = _ from hstmt] at hs; exact hs.elim
    | @updated row cause u hstmt hexec hsel =>
      rw [show s = _ from hstmt] at hs
      rw [Option.some.inj hr', updated_status] at hstatus
      exact (hstatus.elim (hs.1 row.status).1 (hs.1 row.status).2).elim
    | inserted =>
      rw [Option.some.inj hr'] at hstatus
      rcases hstatus with hstatus | hstatus <;> cases hstatus

/-! ### The statements of recovery -/

section

variable {R : (s : Stmt) → s.Res → Prop} {W : Stmt → Prop} {env : GatewayEnv} {c : Cause}
  {job : Job}

theorem Update.Ends.of_status {u : Update} {status : Status} (h : ∀ s, u.statusAfter s = status)
    (hsent : status ≠ .rpcSent) (hparked : status ≠ .awaitingDiagnosticsComplete) : u.Ends :=
  fun s => by rw [h s]; exact ⟨hsent, hparked⟩

theorem ends_applyDroppedSessionAction (j : Job) (a : DroppedSessionAction) :
    (applyDroppedSessionAction j a).Ends := by
  intro s
  cases a <;> exact ⟨nofun, nofun⟩

/-- Leaving an object of a walk ends the job or requeues it, and may queue others. -/
theorem skipDiscoveryObject_ends
    (hupdate : ∀ u, u.target = some job → u.Ends → W (.update c u))
    (hinsert : ∀ spec payload, W (.insert spec payload))
    (hqueue : ∀ spec payload, W (.queueDiscoveryIfNeeded spec payload))
    (payload : ParameterDiscoveryPayload) :
    (skipDiscoveryObject env c d job payload).Issues R W := by
  refine all_skipDiscoveryObject env (fun s hs => ?_)
    (fun _ => hupdate _ rfl (.of_status (fun _ => rfl) nofun nofun)) payload
  cases hs with
  | success | detail | failed | timeout =>
    exact hupdate _ rfl (.of_status (fun _ => rfl) nofun nofun)
  | creates => exact hinsert _ _
  | rediscovers => exact hqueue _ _

theorem all_recoverAbandonedDiscovery
    (hquery : W (.inFlightDiscoveries d))
    (hupdate : ∀ l, R (.inFlightDiscoveries d) (some l) → ∀ job ∈ l, job.openWalk →
      ∀ u, u.target = some job → u.Ends → W (.update .recovery u))
    (hinsert : ∀ spec payload, W (.insert spec payload))
    (hqueue : ∀ spec payload, W (.queueDiscoveryIfNeeded spec payload)) :
    (recoverAbandonedDiscovery env d).Issues R W := by
  refine ⟨hquery, ?_⟩
  intro r hr
  cases r with
  | none => trivial
  | some l =>
    refine all_each ?_
    intro job hjob
    cases hp : job.payload.asDiscovery with
    | none => trivial
    | some payload =>
      show All R W _ (if _ then _ else _)
      split
      · trivial
      next hopen =>
        have hwalk : job.openWalk := by simpa [openWalk, hp] using hopen
        exact skipDiscoveryObject_ends (hupdate l hr job hjob hwalk) hinsert hqueue payload

theorem all_recoverDroppedSessionJobs (events : List EventStruct)
    (hquery : W (.droppedSessionJobs d))
    (hupdate : ∀ l, R (.droppedSessionJobs d) (some l) → ∀ job ∈ l,
      ∀ u, u.target = some job → u.Ends → W (.update .recovery u)) :
    (recoverDroppedSessionJobs d events).Issues R W := by
  refine ⟨hquery, ?_⟩
  intro r hr
  cases r with
  | none => trivial
  | some l =>
    exact all_each fun job hjob =>
      ⟨hupdate l hr job hjob _ rfl (ends_applyDroppedSessionAction _ _), fun _ _ => trivial⟩

end

theorem all_recoverOnInform (w : World) (env : GatewayEnv) (events : List EventStruct) :
    (recoverOnInform env d events).Issues (Recovered w d) (Recovers w d) := by
  refine (all_recoverAbandonedDiscovery trivial (fun l hl job hjob hopen u hu hends => ?_)
    (fun _ _ => trivial) (fun _ _ => trivial)).bind fun _ _ =>
    (all_recoverDroppedSessionJobs events trivial (fun l hl job hjob u hu hends => ?_)).bind
      fun _ _ => ⟨⟨.of_status (fun _ => rfl) nofun nofun, .inl rfl⟩, fun _ _ => trivial⟩
  · exact ⟨hends, .inr ⟨job, hu, hl rfl l rfl job hjob hopen⟩⟩
  · exact ⟨hends, .inr ⟨job, hu, hl rfl l rfl job hjob⟩⟩

variable {id : String} {row : Job}

/-- **An Inform leaves every other row as it is.** -/
theorem recoverOnInform_frame (w : World) (env : GatewayEnv) (events : List EventStruct)
    (cs : Nat → Choice) (hrow : w.jobs.find id = some row) (hfree : row.caughtBy d = false) :
    ((recoverOnInform env d events).after exec cs w).jobs.find id = some row := by
  have hrun : True ∧ Recovering w d ((recoverOnInform env d events).run exec cs w).2 :=
    run_keeps (I := Recovering w d) (R := Recovered w d) (W := Recovers w d)
      (fun s c v hs hv => ⟨recovered_step hv, recovering_step hs hv⟩)
      (all_recoverOnInform w env events) ⟨fun _ _ h _ => h, fun _ _ h _ => h⟩
  exact hrun.2.frame id row hrow hfree

/-! ### The rows it takes do change -/

/-- The job is not RPC_SENT. -/
def NotSent (id : String) (v : World) : Prop :=
  ∀ row, v.jobs.find id = some row → row.status ≠ .rpcSent

/-- The row is as it was, or has been taken. -/
def SameOrNotSent (id : String) (row : Job) (v : World) : Prop :=
  v.jobs.find id = some row ∨ NotSent id v

/-- A statement after which no row is RPC_SENT that was not before, or was changed. -/
def NoSend : Stmt → Prop
  | .update _ u => ∀ s, u.statusAfter s ≠ .rpcSent
  | .lease .. | .leaseNextByType .. => False
  | _ => True

theorem notSent_step (s : Stmt) (c : Choice) (v : World) (hs : NoSend s) (h : NotSent id v) :
    NotSent id (exec s c v).2 := by
  intro row' hrow' hstatus
  have hcases := exec_rowStep s c v id
  rw [hrow'] at hcases
  generalize hr : v.jobs.find id = r at hcases
  generalize hr' : some row' = r' at hcases
  cases hcases with
  | same => rw [← hr'] at hr; exact h row' hr hstatus
  | leased hstmt | leasedByType hstmt => rw [show s = _ from hstmt] at hs; exact hs
  | updated hstmt =>
    rw [show s = _ from hstmt] at hs
    rw [Option.some.inj hr', updated_status] at hstatus
    exact hs _ hstatus
  | inserted => rw [Option.some.inj hr'] at hstatus; cases hstatus

theorem sameOrNotSent_step (s : Stmt) (c : Choice) (v : World) (hs : NoSend s)
    (h : SameOrNotSent id row v) : SameOrNotSent id row (exec s c v).2 := by
  rcases h with hrow | h
  · have hcases := exec_rowStep s c v id
    rw [hrow] at hcases
    generalize hr' : (exec s c v).2.jobs.find id = r' at hcases
    cases hcases with
    | same => exact .inl hr'
    | leased hstmt | leasedByType hstmt => rw [show s = _ from hstmt] at hs; exact hs.elim
    | updated hstmt =>
      rw [show s = _ from hstmt] at hs
      refine .inr ?_
      intro row' hrow'
      rw [hr'] at hrow'
      rw [← Option.some.inj hrow', updated_status]
      exact hs _
  · exact .inr (notSent_step s c v hs h)

theorem notSent_of_update (cause : Cause) {u : Update} {v : World} (hends : u.Ends)
    (hsel : ∀ now, u.selects now row) (h : SameOrNotSent id row v) :
    NotSent id (exec (.update cause u) {} v).2 := by
  rcases h with hrow | h
  · intro row' hrow'
    rw [exec_update (by decide)] at hrow'
    replace hrow' : ((v.tick {}).jobs.update (u.selects (v.tick {}).now)
      (u.sets (v.tick {}).now)).find id = some row' := hrow'
    rw [find_update, show (v.tick {}).jobs.find id = some row from hrow] at hrow'
    rw [← Option.some.inj hrow', apply, if_pos (hsel _), updated_status]
    exact (hends _).1
  · exact notSent_step _ _ _ (fun s => (hends s).1) h

section

variable {env : GatewayEnv} {events : List EventStruct} {row : Job}

theorem Update.Ends.noSend {u : Update} (h : u.Ends) (c : Cause) : NoSend (.update c u) :=
  fun s => (h s).1

theorem skipDiscoveryObject_writes (env : GatewayEnv) (c : Cause) (d : String)
    (hstatus : row.status = .rpcSent) (payload : ParameterDiscoveryPayload) :
    ∃ u k, skipDiscoveryObject env c d row payload = .stmt (.update c u) k ∧ u.Ends ∧
      ∀ now, u.selects now row := by
  have hcurrent : row.current row := current_iff.mpr ⟨rfl, rfl, hstatus⟩
  unfold skipDiscoveryObject finishParameterDiscovery
  split
  · exact ⟨_, _, rfl, .of_status (fun _ => rfl) nofun nofun, fun _ => by simp [selects]⟩
  · cases env.saveDiscovery <;>
      exact ⟨_, _, rfl, .of_status (fun _ => rfl) nofun nofun, fun _ => by simp [selects]⟩
  · exact ⟨_, _, rfl, .of_status (fun _ => rfl) nofun nofun, fun _ => hcurrent⟩

theorem noSend_skipDiscoveryObject (env : GatewayEnv) (d : String) (job : Job)
    (payload : ParameterDiscoveryPayload) :
    (skipDiscoveryObject env .recovery d job payload).Issues (fun _ _ => True) NoSend :=
  skipDiscoveryObject_ends (fun _ _ hends => hends.noSend _) (fun _ _ => trivial)
    (fun _ _ => trivial) payload

theorem skipDiscoveryObject_takes {v : World} (hstatus : row.status = .rpcSent)
    (payload : ParameterDiscoveryPayload) (h : SameOrNotSent row.id row v) :
    NotSent row.id ((skipDiscoveryObject env .recovery d row payload).after exec
      (fun _ => {}) v) := by
  obtain ⟨u, k, hprog, hends, hsel⟩ := skipDiscoveryObject_writes env .recovery d hstatus payload
  have hall := noSend_skipDiscoveryObject env d row payload
  rw [hprog] at hall ⊢
  show NotSent row.id ((k (exec (.update .recovery u) {} v).1).after exec (fun _ => {})
    (exec (.update .recovery u) {} v).2)
  exact after_keeps notSent_step (hall.2 _ trivial) (notSent_of_update _ hends hsel h)

theorem noSend_recoverAbandonedDiscovery (env : GatewayEnv) :
    (recoverAbandonedDiscovery env d).Issues (fun _ _ => True) NoSend :=
  all_recoverAbandonedDiscovery trivial (fun _ _ _ _ _ _ _ hends => hends.noSend _)
    (fun _ _ => trivial) (fun _ _ => trivial)

theorem noSend_recoverDroppedSessionJobs (events : List EventStruct) :
    (recoverDroppedSessionJobs d events).Issues (fun _ _ => True) NoSend :=
  all_recoverDroppedSessionJobs events trivial fun _ _ _ _ _ _ hends => hends.noSend _

theorem noSend_recoverWalk (job : Job) : Issues (fun _ _ => True) NoSend
    (match job.payload.asDiscovery with
      | none => pure ()
      | some payload =>
        if !payload.incremental || payload.cursor = "" then pure ()
        else skipDiscoveryObject env .recovery d job payload) := by
  split
  · trivial
  · split
    · trivial
    · exact noSend_skipDiscoveryObject env d _ _

theorem recoverAbandonedDiscovery_takes {v : World} (hrow : row ∈ v.jobs.rows)
    (hd : row.deviceID = d) (hstatus : row.status = .rpcSent)
    (htype : row.type = .parameterDiscovery) (hopen : row.openWalk) :
    NotSent row.id ((recoverAbandonedDiscovery env d).after exec (fun _ => {}) v) := by
  obtain ⟨payload, hp, hwalk⟩ := (Option.any_eq_true _ _).mp hopen
  have hmem : row ∈ byCreation (v.jobs.rows.filter fun j =>
      j.deviceID = d && j.type = .parameterDiscovery && j.status = .rpcSent) := by
    rw [mem_byCreation, List.mem_filter]
    exact ⟨hrow, by simp [hd, hstatus, htype]⟩
  refine after_each (P := SameOrNotSent row.id row) (fun job _ st h => ?_)
    (fun job _ st h => ?_) (fun st h => ?_) hmem (.inl (find_of_mem hrow))
  · exact after_keeps sameOrNotSent_step (noSend_recoverWalk job) h
  · exact after_keeps notSent_step (noSend_recoverWalk job) h
  · simp only [hp]
    rw [if_neg (by simpa using hwalk)]
    exact skipDiscoveryObject_takes hstatus payload h

theorem recoverDroppedSessionJobs_takes {v : World} (h : SameOrNotSent row.id row v)
    (hd : row.deviceID = d) (hstatus : row.status = .rpcSent)
    (htype : row.type ∈ sessionDispatchableTypes) (hne : row.type ≠ .parameterDiscovery) :
    NotSent row.id ((recoverDroppedSessionJobs d events).after exec (fun _ => {}) v) := by
  rcases h with hrow | h
  · have hmem : row ∈ byCreation (v.jobs.rows.filter fun j =>
        j.deviceID = d && j.status = .rpcSent && j.type ∈ sessionDispatchableTypes &&
          j.type ≠ .parameterDiscovery) := by
      rw [mem_byCreation, List.mem_filter]
      exact ⟨(find_eq_some hrow).1, by simp [hd, hstatus, htype, hne]⟩
    have hround : ∀ job : Job, Issues (fun _ _ => True) NoSend
        (Db.run .recovery (.applyDroppedSessionAction job
          (classifyDroppedSessionJob job (methodKeys events)
            (hasEventCode events eventDiagnosticsComplete)))) :=
      fun job => ⟨(ends_applyDroppedSessionAction job _).noSend _, fun _ _ => trivial⟩
    refine after_each (P := SameOrNotSent row.id row) (fun job _ st h => ?_)
      (fun job _ st h => ?_) (fun st h => ?_) hmem (.inl hrow)
    · exact after_keeps sameOrNotSent_step (hround job) h
    · exact after_keeps notSent_step (hround job) h
    · exact notSent_of_update .recovery (ends_applyDroppedSessionAction row _)
        (fun _ => current_iff.mpr ⟨rfl, rfl, hstatus⟩) h
  · exact after_keeps notSent_step (noSend_recoverDroppedSessionJobs events) h

theorem recoverOnInform_takes {v : World} (hrow : row ∈ v.jobs.rows)
    (hstatus : row.status = .rpcSent) (hcaught : row.caughtBy d) :
    NotSent row.id ((recoverOnInform env d events).after exec (fun _ => {}) v) := by
  simp only [caughtBy, hstatus, Bool.and_eq_true, decide_eq_true_eq] at hcaught
  obtain ⟨hd, hkind⟩ := hcaught
  have hrelease : ∀ {v : World}, NotSent row.id v →
      NotSent row.id ((Db.run .recovery (.releaseAwaitingDiagnostics d)).after exec
        (fun _ => {}) v) := fun h =>
    after_keeps notSent_step ⟨fun _ => nofun, fun _ _ => trivial⟩ h
  unfold recoverOnInform
  rw [after_bind, after_bind]
  refine hrelease ?_
  by_cases htype : row.type = .parameterDiscovery
  · rw [if_pos htype] at hkind
    exact after_keeps notSent_step (noSend_recoverDroppedSessionJobs events)
      (recoverAbandonedDiscovery_takes hrow hd hstatus htype hkind)
  · rw [if_neg htype] at hkind
    refine recoverDroppedSessionJobs_takes ?_ hd hstatus (of_decide_eq_true hkind) htype
    exact after_keeps sameOrNotSent_step (noSend_recoverAbandonedDiscovery env)
      (.inl (find_of_mem hrow))

end

/-! ### Jobs outstanding over USP -/

/-- The USP dispatcher leased the job and waits for its answer. -/
def Job.uspOutstanding (row : Job) (d : String) : Bool :=
  row.deviceID = d && row.status = .rpcSent && row.leaseOwner.any (·.process = .uspc)

theorem uspOutstanding_iff : row.uspOutstanding d ↔
    row.deviceID = d ∧ row.status = .rpcSent ∧ row.leaseOwner.any (·.process = .uspc) := by
  simp [uspOutstanding, and_assoc]

theorem session_of_usp {t : JobType} (h : t ∈ uspDispatchableTypes) :
    t ∈ sessionDispatchableTypes := by
  cases t <;> first | decide | (revert h; decide)

theorem device_of_caught (h : row.caughtBy d) : row.deviceID = d := by
  rw [caughtBy, Bool.and_eq_true, decide_eq_true_eq] at h
  exact h.1

theorem status_of_caught (h : row.caughtBy d) :
    row.status = .rpcSent ∨ row.status = .awaitingDiagnosticsComplete := by
  rw [caughtBy, Bool.and_eq_true] at h
  cases hstatus : row.status with
  | rpcSent => exact .inl rfl
  | awaitingDiagnosticsComplete => exact .inr rfl
  | _ => simp [hstatus] at h

/-- An Inform changes only jobs that were leased for a CWMP session, and keeps those
that are outstanding over USP. -/
def InformKeepsUsp (as : List Action) (d : String) (w' : World) : Prop :=
  (∀ id row, (runEnd as).shared.jobs.find id = some row → w'.jobs.find id ≠ some row →
    ∃ ev ∈ runTrace as, ∃ j, gatewayLease ev = some j ∧ j.id = id) ∧
  ∀ id row, (runEnd as).shared.jobs.find id = some row → row.uspOutstanding d = true →
    ∃ row', w'.jobs.find id = some row' ∧ row'.status = row.status ∧
      row'.attempts = row.attempts ∧ row'.payload = row.payload

/-- **An Inform leaves the jobs outstanding over USP alone exactly when each of them is
a discovery whose walk is not past its root**, in every state that a run reaches. -/
theorem inform_keeps_usp_iff (as : List Action) (d : String) :
    (∀ env events cs, InformKeepsUsp as d
      ((recoverOnInform env d events).after exec cs (runEnd as).shared)) ↔
    ∀ row ∈ (runEnd as).shared.jobs.rows, row.uspOutstanding d = true →
      row.type = .parameterDiscovery ∧ row.openWalk = false := by
  have hinv := (run_rowInv (Scope.covers_all False as) nofun).1
  constructor
  · intro hkeeps row hrow husp
    have hfind := find_of_mem hrow
    obtain ⟨hd, hstatus, howner⟩ := uspOutstanding_iff.mp husp
    by_contra hcaught
    obtain ⟨owner, hrow', ⟨hprocess, _⟩ | ⟨_, htype⟩⟩ := (hinv row.id row hfind).sent hstatus
    · simp [hrow', hprocess] at howner
    have htaken : row.caughtBy d = true := by
      by_cases hdisc : row.type = .parameterDiscovery
      · have hopen : row.openWalk = true := by simpa [hdisc] using hcaught
        simp [caughtBy, hd, hstatus, hdisc, hopen]
      · simp [caughtBy, hd, hstatus, hdisc, session_of_usp htype]
    obtain ⟨row', hrow', hsame, _⟩ := (hkeeps {} [] (fun _ => {})).2 row.id row hfind husp
    exact recoverOnInform_takes hrow hstatus htaken row' hrow' (hsame.trans hstatus)
  · intro hcond env events cs
    have hfree : ∀ id row, (runEnd as).shared.jobs.find id = some row →
        row.uspOutstanding d = true → row.caughtBy d = false := by
      intro id row hrow husp
      obtain ⟨hd, hstatus, _⟩ := uspOutstanding_iff.mp husp
      obtain ⟨htype, hopen⟩ := hcond row (find_eq_some hrow).1 husp
      simp [caughtBy, hd, hstatus, htype, hopen]
    refine ⟨?_, ?_⟩
    · intro id row hrow hchanged
      have htaken : row.caughtBy d = true := by
        by_contra hnot
        exact hchanged (recoverOnInform_frame _ env events cs hrow (by simpa using hnot))
      have hjob : (runFacts as {}).GatewayJob row.id := by
        rcases status_of_caught htaken with hstatus | hstatus
        · obtain ⟨owner, howner, ⟨_, hjob⟩ | ⟨hprocess, _⟩⟩ := (hinv id row hrow).sent hstatus
          · exact hjob
          · have husp : row.uspOutstanding d = true := uspOutstanding_iff.mpr
              ⟨device_of_caught htaken, hstatus, by simp [howner, hprocess]⟩
            rw [hfree id row hrow husp] at htaken
            cases htaken
        · exact ((hinv id row hrow).parked hstatus).2
      obtain ⟨j, ⟨ev, hev, hlease⟩, hid⟩ := hjob
      exact ⟨ev, hev, j, hlease, hid.trans (find_eq_some hrow).2⟩
    · intro id row hrow husp
      exact ⟨row, recoverOnInform_frame _ env events cs hrow (hfree id row hrow husp), rfl, rfl, rfl⟩

/-- A reboot is sent over USP and not yet answered. -/
def rebootOverUsp : List Action :=
  [.atomic (.create { id := "j", commandKey := "k", deviceID := "d", type := .reboot } .reboot)
      fun _ => {},
    .atomic (.tryDispatch [{ conn := some ⟨1, "agent"⟩, msgID := "m" }] "d") fun _ => {}]

/-- A CWMP Inform of the device fails it. -/
theorem rebootOverUsp_failed_by_inform :
    ((runEnd rebootOverUsp).shared.jobs.find "j").any (·.uspOutstanding "d") = true ∧
      (((recoverOnInform {} "d" []).after exec (fun _ => {})
        (runEnd rebootOverUsp).shared).jobs.find "j").any (·.status = .failed) = true ∧
      (runTrace rebootOverUsp).all (fun ev => (gatewayLease ev).isNone) = true := by
  decide +kernel

end Acs
