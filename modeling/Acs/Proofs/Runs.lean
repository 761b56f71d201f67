/-
Every statement of every run is issued knowing what it should.

The facts of a run are read off the run itself: the unchanging columns of each job
from the table it ends with, the leases and queries from its trace.  A handler's
knowledge is stated in these terms, so it never goes stale; `run_sound` puts the
checks of the handlers and the rule for pools together.
-/
import Acs.Proofs.UspcChecks
import Acs.Proofs.RowStep

namespace Acs

open Pool World List

/-! ### What the shared state and a step must show -/

/-- The shared state agrees with the facts. -/
structure Facts.Holds (F : Facts) (w : World) : Prop where
  rows : ∀ row ∈ w.jobs.rows, F.Copy row
  pending : ∀ e ∈ w.pending.entries, F.Pending e.2
  sessions : ∀ s ∈ w.sessions, F.SessionOK s

/-- The event is among those the facts were collected from. -/
structure Facts.Records (F : Facts) (ev : Event) : Prop where
  rows : ∀ row ∈ ev.post.jobs.rows, F.Copy row
  fresh : F.fresh → ∀ c j, lookedUp ev = some (c, j) → j.status = .rpcSent →
    ∀ n, c.attempt = some n → j.attempts = n
  sent : ∀ j, gatewayLease ev = some j → F.sent j
  clear : ∀ d n, foundClear ev = some (d, n) → F.clear d n

variable {F : Facts}

/-! ### Answers tell what they should -/

variable {c : Choice} {j : Job} {w : World} {ev : Event}

theorem Facts.Copy.leased {d : String} {types : List JobType} {uspOnly : Bool} {row : Job}
    (hcopy : F.Copy row) (hsel : row.leasable d types uspOnly)
    (hsent : uspOnly = false → F.sent (row.leaseCopy .rpcSent)) :
    F.Leased d types uspOnly (row.leaseCopy .rpcSent) := by
  simp only [Job.leasable, Bool.and_eq_true, decide_eq_true_eq] at hsel
  refine ⟨hcopy, rfl, hsel.1.1.1, hsel.1.2, fun husp htype => ?_, hsent⟩
  have hfilter := hsel.2
  rw [if_pos husp, Bool.and_eq_true, Bool.or_eq_true] at hfilter
  rcases hfilter.1 with hne | hne
  · exact absurd htype (of_decide_eq_true hne)
  · exact of_decide_eq_true hne

theorem Facts.Records.knows (hrec : F.Records ev) {c : Cause} (hlook : lookedUp ev = some (c, j))
    (hcopy : F.Copy j) : F.Knows c j :=
  ⟨hcopy, fun hf hstatus n hn => hrec.fresh hf c j hlook hstatus n hn⟩

theorem step_answers {s : Stmt} (hrec : F.Records (fire exec s c w)) (hpre : F.Holds w) :
    F.R s (exec s c w).1 := by
  have hrows := hpre.rows
  have hanswer := exec_answered s c w
  cases s with
  | byID cause id =>
    intro j hj
    obtain ⟨hmem, hid⟩ := hanswer j hj
    exact ⟨hid, hrec.knows (congrArg (Option.map (Prod.mk cause)) hj) (hrows j hmem)⟩
  | byCommandKey cause key =>
    intro j hj
    obtain ⟨hmem, hkey⟩ := hanswer j hj
    exact ⟨hkey, hrec.knows (congrArg (Option.map (Prod.mk cause)) hj) (hrows j hmem)⟩
  | lease d types uspOnly owner seen =>
    intro j hj
    obtain ⟨row, hrow, hsel, rfl⟩ := hanswer j hj
    refine (hrows row hrow).leased hsel ?_
    rintro rfl
    exact hrec.sent _ (congrArg Option.join hj)
  | leaseNextByType type owner =>
    intro j hj
    obtain ⟨row, hrow, rfl⟩ := hanswer j hj
    exact ⟨hrows row hrow, rfl⟩
  | hasOutstandingRPC d =>
    intro n hn
    refine hrec.clear d n ?_
    show foundClear ⟨.hasOutstandingRPC d, (exec (.hasOutstandingRPC d) c w).1, w, _⟩ = _
    rw [hn]
    rfl
  | inFlightDiscoveries d =>
    intro l hl j hj
    obtain ⟨hmem, ⟨hd, htype⟩, hstatus⟩ := hanswer l hl j hj
    exact ⟨⟨hrows j hmem, hstatus, hd⟩, htype⟩
  | droppedSessionJobs d =>
    intro l hl j hj
    obtain ⟨hmem, ⟨⟨hd, hstatus⟩, _⟩, _⟩ := hanswer l hl j hj
    exact ⟨hrows j hmem, hstatus, hd⟩
  | getSession id =>
    intro session hs
    have hfind := (Option.ite_none_left_eq_some.mp hs).2
    exact hpre.sessions session (mem_of_find?_eq_some hfind)
  | pendingGet m =>
    intro e he
    exact hpre.pending ⟨m, e⟩ (AList.mem_lookup_iff.mp he)
  | _ => trivial

/-! ### The shared state stays as it should -/

theorem Session.mem_update {sessions : List Session} {id : String} {f : Session → Session}
    {s : Session} (h : s ∈ Session.update sessions id f) :
    s ∈ sessions ∨ ∃ s' ∈ sessions, s = f s' := by
  obtain ⟨s', hs', rfl⟩ := mem_map.mp h
  by_cases hid : s'.id = id
  · exact .inr ⟨s', hs', by simp [hid]⟩
  · exact .inl (by simpa [hid] using hs')

theorem takeLease_frame (w : World) (taken : Option Job) (status : Status) (owner : Owner)
    (duration : Time) :
    (w.takeLease taken status owner duration).2.pending = w.pending ∧
      (w.takeLease taken status owner duration).2.sessions = w.sessions ∧
      (w.takeLease taken status owner duration).2.reapedAt = w.reapedAt := by
  cases taken <;> exact ⟨rfl, rfl, rfl⟩

theorem exec_lease_frame (c : Choice) (w : World) (d : String) (types : List JobType)
    (uspOnly : Bool) (owner : Owner) (seen : Option Nat) :
    (exec (.lease d types uspOnly owner seen) c w).2.pending = w.pending ∧
      (exec (.lease d types uspOnly owner seen) c w).2.sessions = w.sessions ∧
      (exec (.lease d types uspOnly owner seen) c w).2.reapedAt = w.reapedAt := by
  by_cases hfails : c.fails
  · rw [exec_lease_failed hfails]
    exact ⟨rfl, rfl, rfl⟩
  · rw [exec_lease hfails]
    exact takeLease_frame _ _ _ _ _

theorem exec_leaseNextByType_frame (c : Choice) (w : World) (type : JobType) (owner : Owner) :
    (exec (.leaseNextByType type owner) c w).2.pending = w.pending ∧
      (exec (.leaseNextByType type owner) c w).2.sessions = w.sessions ∧
      (exec (.leaseNextByType type owner) c w).2.reapedAt = w.reapedAt := by
  by_cases hfails : c.fails
  · rw [exec_leaseNextByType_failed hfails]
    exact ⟨rfl, rfl, rfl⟩
  · rw [exec_leaseNextByType hfails]
    exact takeLease_frame _ _ _ _ _

theorem exec_pending {s : Stmt} {e : Sigma fun _ : String => PendingDispatch}
    (h : e ∈ (exec s c w).2.pending.entries) : e ∈ w.pending.entries ∨ s = .pendingPut e.1 e.2 := by
  cases s with
  | lease d types uspOnly owner seen => exact .inl ((exec_lease_frame ..).1 ▸ h)
  | leaseNextByType type owner => exact .inl ((exec_leaseNextByType_frame ..).1 ▸ h)
  | update | insert | queueDiscoveryIfNeeded | openSession | setCurrentJob | closeSession =>
    refine .inl ?_
    simp only [exec, Stmt.effect] at h
    repeat' split at h
    all_goals exact h
  | pendingPut m entry =>
    have h : e ∈ (w.pending.insert m entry).entries := h
    rw [AList.entries_insert] at h
    rcases mem_cons.mp h with rfl | h
    · exact .inr rfl
    · exact .inl ((kerase_sublist _ _).subset h)
  | pendingTake m => exact .inl ((kerase_sublist _ _).subset h)
  | pendingDropKey | pendingForget => exact .inl (mem_of_mem_filter h)
  | _ => exact .inl h

/-- Sessions are opened for a device, wait for a job, or are closed. -/
theorem exec_sessions {s : Stmt} {session : Session} (h : session ∈ (exec s c w).2.sessions) :
    session ∈ w.sessions ∨
    s = .openSession session.id session.deviceID ∧ session.currentJob = none ∨
    ∃ old ∈ w.sessions, session.deviceID = old.deviceID ∧
      (session.currentJob = old.currentJob ∨ ∃ id, s = .setCurrentJob id session.currentJob) := by
  cases s with
  | lease d types uspOnly owner seen => exact .inl ((exec_lease_frame ..).2.1 ▸ h)
  | leaseNextByType type owner => exact .inl ((exec_leaseNextByType_frame ..).2.1 ▸ h)
  | update | insert | queueDiscoveryIfNeeded =>
    refine .inl ?_
    simp only [exec, Stmt.effect] at h
    repeat' split at h
    all_goals exact h
  | openSession sid d =>
    simp only [exec, Stmt.effect] at h
    split at h
    · exact .inl h
    · rcases mem_append.mp h with h | h
      · exact .inl h
      · rw [mem_singleton.mp h]
        exact .inr (.inl ⟨rfl, rfl⟩)
  | setCurrentJob sid job =>
    simp only [exec, Stmt.effect] at h
    split at h
    · exact .inl h
    · rcases Session.mem_update h with h | ⟨old, hold, rfl⟩
      · exact .inl h
      · exact .inr (.inr ⟨old, hold, rfl, .inr ⟨sid, rfl⟩⟩)
  | closeSession sid =>
    simp only [exec, Stmt.effect] at h
    split at h
    · exact .inl h
    · rcases Session.mem_update h with h | ⟨old, hold, rfl⟩
      · exact .inl h
      · exact .inr (.inr ⟨old, hold, rfl, .inl rfl⟩)
  | _ => exact .inl h

theorem step_holds {s : Stmt} (hrec : F.Records (fire exec s c w)) (hstmt : F.W s)
    (hpre : F.Holds w) : F.Holds (exec s c w).2 := by
  refine ⟨hrec.rows, ?_, ?_⟩
  · intro e he
    rcases exec_pending he with he | hs
    · exact hpre.pending e he
    · rw [hs] at hstmt
      exact hstmt
  · intro session hs
    rcases exec_sessions hs with hs | ⟨hopen, hnone⟩ | ⟨old, hold, hdevice, hcurrent⟩
    · exact hpre.sessions session hs
    · rw [hopen] at hstmt
      exact ⟨hstmt, fun current hc => absurd hc (by simp [hnone])⟩
    · have hok := hpre.sessions old hold
      refine ⟨hdevice ▸ hok.device, ?_⟩
      intro current hc
      rcases hcurrent with hsame | ⟨id, hset⟩
      · exact hok.current current (hsame ▸ hc)
      · rw [hset] at hstmt
        exact hstmt current hc

/-! ### Facts of a run -/

theorem RowStep.spec {row : Job} {r : Option Job} (h : RowStep ev (some row) r) :
    ∃ row', r = some row' ∧ row'.toJobSpec = row.toJobSpec := by
  cases h with
  | same => exact ⟨row, rfl, rfl⟩
  | _ => exact ⟨_, rfl, rfl⟩

/-- A row of some state of a run is, but for its state, a row of every later state. -/
theorem chain_spec {w' : World} {evs : List Event} (h : Chain w evs w')
    (hlegal : ∀ ev ∈ evs, ev.Legal exec) {id : String} {row : Job}
    (hrow : w.jobs.find id = some row) :
    ∃ row', w'.jobs.find id = some row' ∧ row'.toJobSpec = row.toJobSpec := by
  refine (h.keeps (I := fun w => ∃ row', w.jobs.find id = some row' ∧
    row'.toJobSpec = row.toJobSpec) (fun ev hev hpre => ?_) ⟨row, hrow, rfl⟩).1
  obtain ⟨before, hbefore, hspec⟩ := hpre
  have hstep := rowStep (hlegal ev hev) id
  rw [hbefore] at hstep
  obtain ⟨after, hafter, hspec'⟩ := hstep.spec
  exact ⟨after, hafter, hspec'.trans hspec⟩

theorem runTrace_legal (as : List Action) : ∀ ev ∈ runTrace as, ev.Legal exec :=
  run_legal as _

theorem runTrace_chain (as : List Action) :
    Chain init (runTrace as) (runEnd as).shared :=
  run_chain exec Task.prog as ⟨init, []⟩

theorem runTrace_append (as bs : List Action) :
    runTrace (as ++ bs) = runTrace as ++ (runFrom bs (runEnd as)).1 :=
  congrArg Prod.fst (run_append exec Task.prog as bs ⟨init, []⟩)

theorem runEnd_append (as bs : List Action) :
    runEnd (as ++ bs) = (runFrom bs (runEnd as)).2 := by
  unfold runEnd runFrom
  rw [run_append]

/-- What a result assumes about a run, beside the run itself. -/
structure Scope where
  fresh : Prop := False
  cwmp : String → Prop := fun _ => True
  usp : String → Prop := fun _ => True
  informs : String → Prop := fun _ => True

/-- The facts of a run. -/
def runFacts (as : List Action) (scope : Scope) : Facts where
  spec id := ((runEnd as).shared.jobs.find id).map Job.toJobSpec
  fresh := scope.fresh
  cwmp := scope.cwmp
  usp := scope.usp
  informs := scope.informs
  sent j := ∃ ev ∈ runTrace as, gatewayLease ev = some j
  clear d n := ∃ ev ∈ runTrace as, foundClear ev = some (d, n)

/-- A lookup for an answer finds the attempt it replies to, if it finds the job
RPC_SENT at all. -/
def answerCurrent (ev : Event) : Bool :=
  (lookedUp ev).all fun (c, j) => j.status ≠ .rpcSent || c.attempt.all (j.attempts = ·)

def AnswersCurrent (evs : List Event) : Prop :=
  ∀ ev ∈ evs, answerCurrent ev = true

theorem runFacts_records {as : List Action} {scope : Scope}
    (hfresh : scope.fresh → AnswersCurrent (runTrace as)) :
    ∀ ev ∈ runTrace as, (runFacts as scope).Records ev := by
  intro ev hev
  refine ⟨fun row hrow => ?_,
    fun hf c j hlook hstatus n hn => by
      simpa [answerCurrent, hlook, hstatus, hn] using hfresh hf ev hev,
    fun j hj => ⟨ev, hev, hj⟩, fun d n hn => ⟨ev, hev, hn⟩⟩
  obtain ⟨later, hchain, hsub⟩ := (runTrace_chain as).after_mem hev
  obtain ⟨row', hrow', hspec⟩ := chain_spec hchain
    (fun e he => runTrace_legal as e (hsub e he)) (JobTable.find_of_mem hrow)
  show ((runEnd as).shared.jobs.find row.id).map Job.toJobSpec = some row.toJobSpec
  rw [hrow', ← hspec]
  rfl

/-- The tasks of a run are within the scope. -/
def Scope.Covers (scope : Scope) (as : List Action) : Prop :=
  ∀ t ∈ started as,
    (∀ d, t.informs = some d → scope.cwmp d ∧ scope.informs d) ∧
      ∀ d, t.uspDevice = some d → scope.usp d

/-- Nothing is assumed of the devices of a run. -/
theorem Scope.covers_all (fresh : Prop) (as : List Action) :
    Scope.Covers { fresh := fresh } as :=
  fun _ _ => ⟨fun _ _ => ⟨trivial, trivial⟩, fun _ _ => trivial⟩

theorem Facts.holds_init : F.Holds init :=
  ⟨fun _ h => absurd h (by simp [init]), fun _ h => absurd h (by simp [init]),
    fun _ h => absurd h (by simp [init])⟩

/-- **Every statement of every run is issued knowing what it should.** -/
theorem run_sound {as : List Action} {scope : Scope} (hcovers : scope.Covers as)
    (hfresh : scope.fresh → AnswersCurrent (runTrace as)) :
    ∀ ev ∈ runTrace as, ev.Legal exec ∧
      ev.Sound (runFacts as scope).R (runFacts as scope).W (runFacts as scope).Holds := by
  exact run_rule (G := (runFacts as scope).Records)
    (fun _ _ _ hrec hw hpre => ⟨step_answers hrec hpre, step_holds hrec hw hpre⟩)
    (fun p hp => absurd hp (by simp)) Facts.holds_init
    (fun t ht => ok_task ⟨(hcovers t ht).1, (hcovers t ht).2⟩) (runFacts_records hfresh)

end Acs
