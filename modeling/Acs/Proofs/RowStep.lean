/-
What one statement can do to one row.

`rowStep` is the only place where the statements are taken apart.  A statement
leaves the row of a job as it is, leases it, updates it because the row meets the
update's condition, or inserts it; every invariant of the queue is proved from
these cases.
-/
import Acs.Queue.System

namespace Acs

open JobTable Option Stmt Pool List

/-! ### Rows after an update and after a lease -/

variable {t : JobTable} {ev : Event} {duration : Time} {owner : Owner} {status : Status}
variable {taken : Option Job} {w : World} {j : Job}

theorem JobTable.oldest_some {locked : List String} {sel : Job → Bool} {row : Job}
    (h : t.oldest locked sel = some row) : row ∈ t.rows ∧ sel row := by
  have hmem := argmin_mem h
  rw [mem_filter, Bool.and_eq_true] at hmem
  exact ⟨hmem.1, hmem.2.1⟩

theorem JobTable.find_lease {row : Job} (hrow : row ∈ t.rows) {f : Job → JobState}
    (hf : (f row).status.finished = false) (id : String) :
    (t.update (·.id = row.id) f).find id =
      if id = row.id then some (row.withState (f row)) else t.find id := by
  rw [find_update]
  by_cases hid : id = row.id
  · rw [if_pos hid, hid, find_of_mem hrow]
    simp [apply, redactFinished_of_not_finished hf]
  · rw [if_neg hid]
    cases hfind : t.find id with
    | none => rfl
    | some other =>
      have hother := (find_eq_some hfind).2
      have hne : ¬ other.id = row.id := by rw [hother]; exact hid
      simp [apply, hne]

/-! ### The cases of a step -/

/-- What one statement does to the row of one job. -/
inductive RowStep (ev : Event) : Option Job → Option Job → Prop
  | same (r : Option Job) : RowStep ev r r
  | leased {row : Job} {d : String} {types : List JobType} {uspOnly : Bool} {owner : Owner}
      {seen : Option Nat} (hstmt : ev.stmt = .lease d types uspOnly owner seen)
      (hsel : row.leasable d types uspOnly = true)
      (hcopy : leasedJob ev = some (row.leaseCopy .rpcSent)) :
      RowStep ev (some row)
        (some (row.withState (row.leased .rpcSent owner sessionLease ev.post.now)))
  | leasedByType {row : Job} {type : JobType} {owner : Owner}
      (hstmt : ev.stmt = .leaseNextByType type owner) (hstatus : row.status = .queued)
      (htype : row.type = type) (hcopy : leasedJob ev = some (row.leaseCopy .inProgress)) :
      RowStep ev (some row)
        (some (row.withState (row.leased .inProgress owner workerLease ev.post.now)))
  | updated {row : Job} {cause : Cause} {u : Update} (hstmt : ev.stmt = .update cause u)
      (hexec : executed ev = some u) (hsel : u.selects ev.post.now row = true) :
      RowStep ev (some row)
        (some (row.withState (redactFinished row.toJobState (u.sets ev.post.now row))))
  | inserted (spec : JobSpec) (payload : Payload)
      (hstmt : ev.stmt = .insert spec payload ∨ ev.stmt = .queueDiscoveryIfNeeded spec payload) :
      RowStep ev none (some (newJob spec payload ev.post.now))

theorem insert_rowStep {t' : JobTable} {spec : JobSpec} {payload : Payload}
    (hstmt : ev.stmt = .insert spec payload ∨ ev.stmt = .queueDiscoveryIfNeeded spec payload)
    (h : t.insert (newJob spec payload ev.post.now) = some t') (id : String) :
    RowStep ev (t.find id) (t'.find id) := by
  rw [find_insert h]
  by_cases hid : id = (newJob spec payload ev.post.now).id
  · rw [if_pos hid, find_none_of_insert h hid]
    exact .inserted spec payload hstmt
  · rw [if_neg hid]
    exact .same _

theorem takeLease_rowStep (hmem : ∀ row, taken = some row → row ∈ w.jobs.rows)
    (hstatus : status.finished = false)
    (hleased : ∀ row, taken = some row →
      RowStep ev (some row) (some (row.withState (row.leased status owner duration w.now))))
    (id : String) :
    RowStep ev (w.jobs.find id) ((w.takeLease taken status owner duration).2.jobs.find id) := by
  cases htaken : taken with
  | none => exact .same _
  | some row =>
    have hrow := hmem row htaken
    show RowStep ev _ ((w.jobs.update _ _).find id)
    rw [find_lease hrow (by simpa [Job.leased] using hstatus)]
    by_cases hid : id = row.id
    · rw [if_pos hid, hid, find_of_mem hrow]
      exact hleased row htaken
    · rw [if_neg hid]
      exact .same _

/-- Statements read the clock that they leave behind. -/
theorem exec_now (s : Stmt) (c : Choice) (w : World) :
    (exec s c w).2.now = (w.tick c).now := by
  cases s with
  | lease | leaseNextByType =>
    by_cases hfails : c.fails
    · simp [exec, effect, hfails]
    · simp [exec, effect, hfails, World.takeLease]
      split <;> rfl
  | insert | queueDiscoveryIfNeeded | update | openSession | setCurrentJob | closeSession =>
    simp only [exec, effect]
    repeat' split
    all_goals rfl
  | _ => rfl

theorem exec_lease_failed {c : Choice} (hfails : c.fails) (w : World) (d : String)
    (types : List JobType) (uspOnly : Bool) (owner : Owner) (seen : Option Nat) :
    exec (.lease d types uspOnly owner seen) c w = (none, w.tick c) :=
  if_pos hfails

theorem exec_leaseNextByType_failed {c : Choice} (hfails : c.fails) (w : World)
    (type : JobType) (owner : Owner) :
    exec (.leaseNextByType type owner) c w = (none, w.tick c) :=
  if_pos hfails

section NotFailing

variable {c : Choice} (hfails : ¬ c.fails) (w : World)
include hfails

theorem exec_lease (d : String) (types : List JobType) (uspOnly : Bool) (owner : Owner)
    (seen : Option Nat) :
    exec (.lease d types uspOnly owner seen) c w =
      (w.tick c).takeLease ((w.tick c).jobs.oldest c.locked (Job.leasable d types uspOnly))
        .rpcSent owner sessionLease :=
  if_neg hfails

theorem exec_leaseNextByType (type : JobType) (owner : Owner) :
    exec (.leaseNextByType type owner) c w =
      (w.tick c).takeLease
        ((w.tick c).jobs.oldest c.locked fun j => j.status = .queued && j.type = type)
        .inProgress owner workerLease :=
  if_neg hfails

theorem exec_update (cause : Cause) (u : Update) :
    exec (.update cause u) c w =
      (some ((w.tick c).jobs.count (u.selects (w.tick c).now)),
        { w.tick c with
          jobs := (w.tick c).jobs.update (u.selects (w.tick c).now) (u.sets (w.tick c).now)
          reapedAt := u.reapedAt (w.tick c) }) :=
  if_neg hfails

end NotFailing

/-- **The cases of a step.** -/
theorem rowStep (h : ev.Legal exec) (id : String) :
    RowStep ev (ev.pre.jobs.find id) (ev.post.jobs.find id) := by
  obtain ⟨s, c, w, rfl⟩ := h.eq_fire
  have hnow : (fire exec s c w).post.now = (w.tick c).now := exec_now s c w
  show RowStep _ ((w.tick c).jobs.find id) ((exec s c w).2.jobs.find id)
  by_cases hfails : c.fails
  · cases s with
    | lease | leaseNextByType | update | insert | queueDiscoveryIfNeeded | openSession
    | setCurrentJob | closeSession =>
      simp only [exec, effect, hfails, Bool.true_or, if_true]
      exact .same _
    | _ => exact .same _
  · cases s with
    | lease d types uspOnly owner seen =>
      have hexec := exec_lease hfails w d types uspOnly owner seen
      rw [hexec]
      refine takeLease_rowStep (fun row htaken => (oldest_some htaken).1) rfl
        (fun row htaken => ?_) id
      have hcopy : leasedJob (fire exec (.lease d types uspOnly owner seen) c w) =
          some (row.leaseCopy .rpcSent) := by
        show join (exec (.lease d types uspOnly owner seen) c w).1 = _
        rw [hexec, htaken]
        rfl
      rw [← hnow]
      exact .leased rfl (oldest_some htaken).2 hcopy
    | leaseNextByType type owner =>
      have hexec := exec_leaseNextByType hfails w type owner
      rw [hexec]
      refine takeLease_rowStep (fun row htaken => (oldest_some htaken).1) rfl
        (fun row htaken => ?_) id
      have hcopy : leasedJob (fire exec (.leaseNextByType type owner) c w) =
          some (row.leaseCopy .inProgress) := by
        show join (exec (.leaseNextByType type owner) c w).1 = _
        rw [hexec, htaken]
        rfl
      have hsel := (oldest_some htaken).2
      simp only [Bool.and_eq_true, decide_eq_true_eq] at hsel
      rw [← hnow]
      exact .leasedByType rfl hsel.1 hsel.2 hcopy
    | update cause u =>
      have hexec : executed (fire exec (.update cause u) c w) = some u := by
        show executed ⟨.update cause u, (exec (.update cause u) c w).1, w, _⟩ = _
        rw [exec_update hfails]
        rfl
      rw [exec_update hfails, ← hnow]
      rw [JobTable.find_update]
      cases (w.tick c).jobs.find id with
      | none => exact .same _
      | some row =>
        by_cases hsel : u.selects (fire exec (.update cause u) c w).post.now row
        · rw [Option.map_some, apply, if_pos hsel]
          exact .updated rfl hexec hsel
        · rw [Option.map_some, apply, if_neg hsel]
          exact .same _
    | insert spec payload =>
      simp only [exec, effect, hfails]
      split
      · exact .same _
      next jobs hinsert =>
        rw [← hnow] at hinsert
        exact insert_rowStep (.inl rfl) hinsert id
    | queueDiscoveryIfNeeded spec payload =>
      simp only [exec, effect]
      split
      · exact .same _
      · split
        · exact .same _
        next jobs hinsert =>
          rw [← hnow] at hinsert
          exact insert_rowStep (.inr rfl) hinsert id
    | openSession | setCurrentJob | closeSession =>
      simp only [exec, effect]
      split <;> exact .same _
    | _ => exact .same _

/-- The same for a statement executed alone. -/
theorem exec_rowStep (s : Stmt) (c : Choice) (w : World) (id : String) :
    RowStep (fire exec s c w) (w.jobs.find id) ((exec s c w).2.jobs.find id) :=
  rowStep (fire_legal exec s c w) id

/-! ### The step of a lease -/

/-- The event leased the row whose copy it handed out. -/
structure LeaseStep (ev : Event) (j row row' : Job) : Prop where
  pre : ev.pre.jobs.find j.id = some row
  queued : row.status = .queued
  copy : j = row.leaseCopy j.status
  status : j.status = .rpcSent ∨ j.status = .inProgress
  post : ev.post.jobs.find j.id = some row'
  postStatus : row'.status = j.status
  postAttempts : row'.attempts = j.attempts

/-- A lease hands out a copy of the row it takes. -/
theorem takeLease_copy (h : (w.takeLease taken status owner duration).1 = some (some j)) :
    ∃ row, taken = some row ∧ row.leaseCopy status = j := by
  cases taken with
  | none => cases h
  | some row => exact ⟨row, rfl, some.inj (some.inj h)⟩

/-! ### What the queries answer -/

/-- What an answer says about the rows it was read from. -/
def Stmt.Answered (w : World) : (s : Stmt) → s.Res → Prop
  | .byID _ id, r => ∀ j, r = some j → j ∈ w.jobs.rows ∧ j.id = id
  | .byCommandKey _ key, r => ∀ j, r = some j → j ∈ w.jobs.rows ∧ j.commandKey = key
  | .lease d types uspOnly _ _, r => ∀ j, r = some (some j) →
    ∃ row ∈ w.jobs.rows, row.leasable d types uspOnly = true ∧ row.leaseCopy .rpcSent = j
  | .leaseNextByType .., r => ∀ j, r = some (some j) →
    ∃ row ∈ w.jobs.rows, row.leaseCopy .inProgress = j
  | .inFlightDiscoveries d, r => ∀ l, r = some l → ∀ j ∈ l, j ∈ w.jobs.rows ∧
    (j.deviceID = d ∧ j.type = .parameterDiscovery) ∧ j.status = .rpcSent
  | .droppedSessionJobs d, r => ∀ l, r = some l → ∀ j ∈ l, j ∈ w.jobs.rows ∧
    ((j.deviceID = d ∧ j.status = .rpcSent) ∧ j.type ∈ sessionDispatchableTypes) ∧
      j.type ≠ .parameterDiscovery
  | _, _ => True

theorem mem_byCreation {l : List Job} : j ∈ byCreation l ↔ j ∈ l :=
  (perm_insertionSort _ l).mem_iff

theorem exec_answered (s : Stmt) (c : Choice) (w : World) : s.Answered w (exec s c w).1 := by
  cases s with
  | byID cause id => exact fun j hj => find_eq_some (ite_none_left_eq_some.mp hj).2
  | byCommandKey cause key =>
    intro j hj
    have hfind := (ite_none_left_eq_some.mp hj).2
    exact ⟨mem_of_find?_eq_some hfind, by simpa using find?_some hfind⟩
  | lease d types uspOnly owner seen =>
    intro j hj
    by_cases hfails : c.fails
    · rw [exec_lease_failed hfails] at hj
      cases hj
    · rw [exec_lease hfails] at hj
      obtain ⟨row, htaken, rfl⟩ := takeLease_copy hj
      obtain ⟨hrow, hsel⟩ := oldest_some htaken
      exact ⟨row, hrow, hsel, rfl⟩
  | leaseNextByType type owner =>
    intro j hj
    by_cases hfails : c.fails
    · rw [exec_leaseNextByType_failed hfails] at hj
      cases hj
    · rw [exec_leaseNextByType hfails] at hj
      obtain ⟨row, htaken, rfl⟩ := takeLease_copy hj
      exact ⟨row, (oldest_some htaken).1, rfl⟩
  | inFlightDiscoveries d | droppedSessionJobs d =>
    intro l hl j hj
    have hl' := (ite_none_left_eq_some.mp hl).2
    rw [← some.inj hl', mem_byCreation, mem_filter] at hj
    simp only [Bool.and_eq_true, decide_eq_true_eq] at hj
    exact hj
  | _ => trivial

theorem takeLease_inv (hmem : ∀ row, taken = some row → row ∈ w.jobs.rows ∧ row.status = .queued)
    (hstatus : status = .rpcSent ∨ status = .inProgress)
    (h : (w.takeLease taken status owner duration).1 = some (some j)) :
    ∃ row row', w.jobs.find j.id = some row ∧ row.status = .queued ∧
      j = row.leaseCopy j.status ∧ (j.status = .rpcSent ∨ j.status = .inProgress) ∧
      (w.takeLease taken status owner duration).2.jobs.find j.id = some row' ∧
      row'.status = j.status ∧ row'.attempts = j.attempts := by
  cases htaken : taken with
  | none => rw [htaken] at h; cases h
  | some row =>
    rw [htaken] at h
    have hj : row.leaseCopy status = j := some.inj (some.inj h)
    obtain ⟨hrow, hqueued⟩ := hmem row htaken
    subst hj
    refine ⟨row, row.withState (row.leased status owner duration w.now),
      find_of_mem hrow, hqueued, rfl, hstatus, ?_, rfl, rfl⟩
    show (w.jobs.update _ _).find row.id = _
    rw [find_lease hrow ?_, if_pos rfl]
    rcases hstatus with rfl | rfl <;> rfl

theorem leaseStep (hlegal : ev.Legal exec) (h : leasedJob ev = some j) :
    ∃ row row', LeaseStep ev j row row' := by
  obtain ⟨s, c, w, rfl⟩ := hlegal.eq_fire
  have hres : ∀ {r : Option (Option Job)}, join r = some j → r = some (some j) :=
    fun hr => join_eq_some_iff.mp hr
  by_cases hfails : c.fails
  · cases s with
    | lease d types uspOnly owner seen =>
      have hj := hres (r := (exec (.lease d types uspOnly owner seen) c w).1) h
      rw [exec_lease_failed hfails] at hj
      cases hj
    | leaseNextByType type owner =>
      have hj := hres (r := (exec (.leaseNextByType type owner) c w).1) h
      rw [exec_leaseNextByType_failed hfails] at hj
      cases hj
    | _ => cases h
  · cases s with
    | lease d types uspOnly owner seen =>
      have hexec := exec_lease hfails w d types uspOnly owner seen
      have hj := hres (r := (exec (.lease d types uspOnly owner seen) c w).1) h
      rw [hexec] at hj
      obtain ⟨row, row', hpre, hq, hcopy, hstatus, hpost, hs, ha⟩ := takeLease_inv
        (fun row htaken => by
          obtain ⟨hmem, hsel⟩ := oldest_some htaken
          simp only [Job.leasable, Bool.and_eq_true, decide_eq_true_eq] at hsel
          exact ⟨hmem, hsel.1.1.2⟩) (.inl rfl) hj
      exact ⟨row, row', hpre, hq, hcopy, hstatus, by rw [← hpost, ← hexec]; rfl, hs, ha⟩
    | leaseNextByType type owner =>
      have hexec := exec_leaseNextByType hfails w type owner
      have hj := hres (r := (exec (.leaseNextByType type owner) c w).1) h
      rw [hexec] at hj
      obtain ⟨row, row', hpre, hq, hcopy, hstatus, hpost, hs, ha⟩ := takeLease_inv
        (fun row htaken => by
          obtain ⟨hmem, hsel⟩ := oldest_some htaken
          simp only [Bool.and_eq_true, decide_eq_true_eq] at hsel
          exact ⟨hmem, hsel.1⟩) (.inr rfl) hj
      exact ⟨row, row', hpre, hq, hcopy, hstatus, by rw [← hpost, ← hexec]; rfl, hs, ha⟩
    | _ => cases h

theorem leasesJob_step (hlegal : ev.Legal exec) {id : String} (h : leasesJob id ev) :
    ∃ j row row', j.id = id ∧ LeaseStep ev j row row' := by
  cases hj : leasedJob ev with
  | none => simp [leasesJob, hj] at h
  | some j =>
    have hid : j.id = id := by simpa [leasesJob, hj] using h
    obtain ⟨row, row', hstep⟩ := leaseStep hlegal hj
    exact ⟨j, row, row', hid, hstep⟩

end Acs
