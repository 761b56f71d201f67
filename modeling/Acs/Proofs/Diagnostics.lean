/-
The life of a diagnostic in CWMP sessions: trigger, wait, poll.

The deadline of a diagnostic is set when its trigger is known to have arrived, and
`renderJobRequest` chooses between trigger and poll by it.  It is never set twice,
so a job whose deadline is set is only polled.  A diagnostic that was dispatched
waits, parked or unanswered, until an Inform releases or recovers it; only the
expiry of its lease brings it back sooner.
-/
import Acs.Proofs.Invariants
import Mathlib.Algebra.Group.Int.Defs

namespace Acs

open Pool

/-! ### The deadline -/

variable {row j : Job} {t : Time} {ev : Event} {as : List Action} {d : String}

theorem Update.sets_deadline {u : Update} {now : Time} (h : row.diagnosticsDeadline = some t) :
    (u.sets now row).diagnosticsDeadline = some t := by
  have hkeep : ∀ (s : JobState) (window : Nat), s.diagnosticsDeadline = some t →
      (s.keepDeadline window now).diagnosticsDeadline = some t := by
    intro s window hs
    simp [JobState.keepDeadline, hs]
  cases u with
  | markAwaitingDiagnostics j window => exact hkeep _ _ h
  | applyDroppedSessionAction j a =>
    cases a with
    | diagnosticsTriggered => exact hkeep _ _ h
    | _ => exact h
  | _ => exact h

theorem deadline_step {row' : Job} (h : row.diagnosticsDeadline = some t)
    (hstep : RowStep ev (some row) (some row')) :
    row'.diagnosticsDeadline = some t := by
  generalize hr' : some row' = r' at hstep
  cases hstep with
  | same => rw [Option.some.inj hr']; exact h
  | leased | leasedByType => rw [Option.some.inj hr']; exact h
  | @updated _ cause u =>
    rw [Option.some.inj hr']
    show (redactFinished row.toJobState (u.sets ev.post.now row)).diagnosticsDeadline = some t
    rw [redactFinished_diagnosticsDeadline, Update.sets_deadline h]

theorem render_poll {rpc : Rpc} (hdiag : isCWMPDiagnosticType j.type)
    (h : j.diagnosticsDeadline = some t) (hrpc : renderJobRequest j = some rpc) :
    ∃ names, rpc = .getParameterValues names := by
  have hrequest : ∀ plan pre inputs standard,
      ∃ names, diagnosticRequest j plan pre inputs standard = .getParameterValues names := by
    intro plan pre inputs standard
    simp [diagnosticRequest, diagnosticsTriggered, h]
  have hsome : ∀ {plan pre inputs standard},
      some (diagnosticRequest j plan pre inputs standard) = some rpc →
      ∃ names, rpc = .getParameterValues names := by
    intro plan pre inputs standard heq
    rw [← Option.some.inj heq]
    exact hrequest plan pre inputs standard
  unfold renderJobRequest at hrpc
  split at hrpc
  case h_4 | h_5 | h_6 | h_7 => exact hsome hrpc
  case h_17 => cases hrpc
  all_goals simp_all [isCWMPDiagnosticType]

/-- Every request the job can be rendered as is a poll. -/
def OnlyPolls (j : Job) : Prop :=
  ∀ rpc, renderJobRequest j = some rpc → ∃ names, rpc = .getParameterValues names

theorem leasedJob_of_gatewayLease (h : gatewayLease ev = some j) :
    leasedJob ev = some j := by
  obtain ⟨s, r, pre, post⟩ := ev
  cases s with
  | lease d types uspOnly owner seen =>
    cases uspOnly with
    | false => exact h
    | true => cases h
  | _ => cases h

theorem lease_polls (hlegal : ev.Legal exec) (hj : gatewayLease ev = some j)
    (hrow : ev.pre.jobs.find j.id = some row) (hdiag : isCWMPDiagnosticType row.type)
    (ht : row.diagnosticsDeadline = some t) :
    OnlyPolls j := by
  obtain ⟨before, _, hlease⟩ := leaseStep hlegal (leasedJob_of_gatewayLease hj)
  obtain rfl := Option.some.inj (hlease.pre.symm.trans hrow)
  intro rpc hrpc
  rw [hlease.copy] at hrpc
  exact render_poll hdiag ht hrpc

/-! ### A stretch of a run without Informs -/

/-- No job of the device is sent over USP. -/
def CwmpOnly (d : String) (as : List Action) : Prop :=
  ∀ t ∈ started as, t.uspDevice ≠ some d

/-- An Inform of the device is one step. -/
def InformsAlone (d : String) (as : List Action) : Prop :=
  ∀ t ∈ spawned as, t.informs ≠ some d

/-- The facts of a run in which the device does not speak USP, for handlers other
than its Informs. -/
def quietFacts (d : String) (as : List Action) : Facts :=
  runFacts as { usp := (· ≠ d), informs := (· ≠ d) }

theorem quiet_task {t : Task} (husp : t.uspDevice ≠ some d) (hinforms : t.informs ≠ some d) :
    (quietFacts d as).Ok t.prog :=
  ok_task ⟨fun _ hd' => ⟨trivial, fun heq => hinforms (heq ▸ hd')⟩,
    fun _ hd' heq => husp (heq ▸ hd')⟩

theorem quiet_holds {w : World} (h : (runFacts as { usp := (· ≠ d) }).Holds w) :
    (quietFacts d as).Holds w :=
  ⟨h.rows, fun e he => ⟨(h.pending e he).copy, (h.pending e he).status, (h.pending e he).device⟩,
    fun s hs => ⟨(h.sessions s hs).device, (h.sessions s hs).current⟩⟩

theorem quiet_sound {bs : List Action} (hcwmp : CwmpOnly d (as ++ bs))
    (halone : InformsAlone d (as ++ bs)) (hquiet : ∀ t ∈ started bs, t.informs ≠ some d) :
    ∀ ev ∈ (runFrom bs (runEnd as)).1, ev.Legal exec ∧ ev.Sound (quietFacts d (as ++ bs)).R
      (quietFacts d (as ++ bs)).W (quietFacts d (as ++ bs)).Holds := by
  have hwhole := @run_sound (as ++ bs) { usp := (· ≠ d) }
    (fun t ht => ⟨fun _ _ => ⟨trivial, trivial⟩, fun _ hd' heq => hcwmp t ht (heq ▸ hd')⟩) nofun
  have hrecords : ∀ ev ∈ runTrace (as ++ bs), (quietFacts d (as ++ bs)).Records ev :=
    runFacts_records nofun
  rw [runTrace_append] at hwhole hrecords
  simp only [CwmpOnly, InformsAlone, started_append, spawned_append,
    List.mem_append] at hcwmp halone
  have hholds : (quietFacts d (as ++ bs)).Holds (runEnd as).shared := by
    have hkept := (runTrace_chain as).keeps
      (fun ev hev _ => (hwhole ev (List.mem_append_left _ hev)).2.post) Facts.holds_init
    exact quiet_holds hkept.1
  -- no Inform of the device is under way after the first part
  have hthreads : ∀ p ∈ (runEnd as).threads, (quietFacts d (as ++ bs)).Ok p := by
    refine run_threads (P := ⟨World.init, []⟩) (fun p hp => absurd hp (by simp))
      (fun t ht => quiet_task (hcwmp t (.inl (started_of_spawned ht))) (halone t (.inl ht)))
      (fun ev hev => ?_)
    have hmem := List.mem_append_left (runFrom bs (runEnd as)).1 hev
    obtain ⟨hlegal, hsound⟩ := hwhole ev hmem
    have hrec := hrecords ev hmem
    obtain ⟨s, c, w, rfl⟩ := hlegal.eq_fire
    exact step_answers hrec (quiet_holds hsound.pre)
  exact run_rule (G := (quietFacts d (as ++ bs)).Records)
    (fun _ _ _ hrec hw hpre => ⟨step_answers hrec hpre, step_holds hrec hw hpre⟩)
    hthreads hholds (fun t ht => quiet_task (hcwmp t (.inr ht)) (hquiet t ht))
    (fun ev hev => hrecords ev (List.mem_append_right _ hev))

/-! ### Dispatched once between two Informs -/

theorem diagnostic_type_cases {t : JobType} (h : isCWMPDiagnosticType t) :
    t ≠ .setParameter ∧ t ≠ .parameterDiscovery := by
  constructor <;> rintro rfl <;> cases h

/-- One update leaves a diagnostic out of the queue, if it is no Inform's and finds no
expired lease. -/
theorem diagnostic_update {w : World} (hholds : (quietFacts d as).Holds w) {id : String}
    {now : Time} {cause : Cause} {u : Update} (hrow : w.jobs.find id = some row)
    (hd : row.deviceID = d) (hdiag : isCWMPDiagnosticType row.type)
    (hallows : (quietFacts d as).Allows cause u) (hsel : u.selects now row)
    (hne : u ≠ .requeueExpired) (hstatus : row.status ≠ .queued) :
    u.statusAfter row.status ≠ .queued := by
  have hspec : ∀ {j : Job}, (quietFacts d as).Copy j → row.id = j.id →
      j.deviceID = d ∧ isCWMPDiagnosticType j.type := by
    intro j hj hid
    have hspec := row_eq_of_id hholds hrow hj hid
    rw [← show row.deviceID = j.deviceID from congrArg JobSpec.deviceID hspec,
      ← show row.type = j.type from congrArg JobSpec.type hspec]
    exact ⟨hd, hdiag⟩
  cases u with
  | requeue j =>
    exact absurd (hspec hallows.1.copy (of_decide_eq_true hsel)).1 hallows.2.2
  | beginReadback j payload =>
    have hj := hspec hallows.1.copy (Job.current_iff.mp hsel).1
    exact absurd hallows.2 (diagnostic_type_cases hj.2).1
  | requeueDiscovery j payload =>
    have hj := hspec hallows.1.copy (Job.current_iff.mp hsel).1
    exact absurd hallows.2 (diagnostic_type_cases hj.2).2
  | applyDroppedSessionAction j a =>
    exact absurd (hspec hallows.1.copy (Job.current_iff.mp hsel).1).1 hallows.2.1
  | releaseAwaitingDiagnostics d' =>
    simp only [Update.selects, Bool.and_eq_true, decide_eq_true_eq] at hsel
    exact absurd (hsel.1.symm.trans hd) hallows.1
  | requeueExpired => exact absurd rfl hne
  | recordDiscoveryFallback | bindFirmware => exact hstatus
  | _ => nofun

/-- A requeueing of expired leases finds the job's lease still running. -/
def leaseHolds (id : String) (ev : Event) : Bool :=
  match executed ev with
  | some .requeueExpired => (ev.pre.jobs.find id).all (!·.leaseExpired ev.post.now)
  | _ => true

theorem diagnostic_leased_once {bs : List Action} {id : String} {job : Job}
    (hcwmp : CwmpOnly d (as ++ bs)) (halone : InformsAlone d (as ++ bs))
    (hquiet : ∀ t ∈ started bs, t.informs ≠ some d)
    (hlease : ∀ ev ∈ (runFrom bs (runEnd as)).1, leaseHolds id ev)
    (hjob : (runEnd (as ++ bs)).shared.jobs.find id = some job) (hd : job.deviceID = d)
    (hdiag : isCWMPDiagnosticType job.type) :
    ((runFrom bs (runEnd as)).1.filter (leasesJob id)).length ≤ 1 := by
  have hsound := quiet_sound hcwmp halone hquiet
  refine leased_once (run_chain exec Task.prog bs (runEnd as))
    (fun ev hev => (hsound ev hev).1) fun ev hev row row' hrow hrow' hstatus => ?_
  have hspec := spec_of_end (hsound ev hev).2.pre hrow hjob
  have hcases := rowStep (hsound ev hev).1 id
  rw [hrow, hrow'] at hcases
  refine hcases.stays_out hstatus ?_
  intro cause u hstmt hexec hsel
  have hallows := (hsound ev hev).2.stmt
  rw [hstmt] at hallows
  refine diagnostic_update (hsound ev hev).2.pre hrow
    ((congrArg JobSpec.deviceID hspec).trans hd)
    (by rw [show row.type = job.type from congrArg JobSpec.type hspec]; exact hdiag)
    hallows hsel ?_ hstatus
  rintro rfl
  have hholds := hlease ev hev
  simp only [leaseHolds, hexec, hrow, Option.all_some, Bool.not_eq_true'] at hholds
  simp [Update.selects, hholds] at hsel

/-- **The life of a diagnostic of a device reached only over CWMP.**  Once its deadline
is set it stays, and every later lease of the job is for a poll; what is sent is what
was leased.  In a stretch of a run without an Inform of the device, in which its lease
does not expire, the job is leased at most once. -/
theorem diagnostics_lifecycle (as bs : List Action) {d id : String} {job : Job}
    (hcwmp : CwmpOnly d (as ++ bs)) (halone : InformsAlone d (as ++ bs))
    (hjob : (runEnd (as ++ bs)).shared.jobs.find id = some job) (hd : job.deviceID = d)
    (hdiag : isCWMPDiagnosticType job.type = true) :
    (∀ row t, (runEnd as).shared.jobs.find id = some row → row.diagnosticsDeadline = some t →
      job.diagnosticsDeadline = some t ∧
        ∀ ev ∈ (runFrom bs (runEnd as)).1, ∀ j, gatewayLease ev = some j → j.id = id →
          OnlyPolls j) ∧
    (∀ ev ∈ runTrace (as ++ bs), ∀ j, ev.stmt = .handOver j .acs → j.id = id →
      ∃ lease ∈ runTrace (as ++ bs), gatewayLease lease = some j) ∧
    ((∀ t ∈ started bs, t.informs ≠ some d) →
      (∀ ev ∈ (runFrom bs (runEnd as)).1, leaseHolds id ev = true) →
      ((runFrom bs (runEnd as)).1.filter (leasesJob id)).length ≤ 1) := by
  have hsound := run_sound (Scope.covers_all False (as ++ bs)) nofun
  refine ⟨?_, ?_, ?_⟩
  · intro row t hrow ht
    -- the deadline is the same in every state of the second part
    have hmem : ∀ ev ∈ (runFrom bs (runEnd as)).1, ev ∈ runTrace (as ++ bs) := by
      intro ev hev
      rw [runTrace_append]
      exact List.mem_append_right _ hev
    have hkept := (run_chain exec Task.prog bs (runEnd as)).keeps
      (I := fun w => ∃ row, w.jobs.find id = some row ∧ row.diagnosticsDeadline = some t)
      (fun ev hev hpre => ?_) ⟨row, hrow, ht⟩
    · refine ⟨?_, ?_⟩
      · obtain ⟨row', hrow', ht'⟩ := hkept.1
        rw [runEnd_append] at hjob
        rw [← Option.some.inj (hrow'.symm.trans hjob)]
        exact ht'
      · intro ev hev j hj hid
        obtain ⟨before, hbefore, ht'⟩ := (hkept.2 ev hev).1
        have hspec := spec_of_end (hsound ev (hmem ev hev)).2.pre hbefore hjob
        refine lease_polls (hsound ev (hmem ev hev)).1 hj (by rw [hid]; exact hbefore) ?_ ht'
        rw [show before.type = job.type from congrArg JobSpec.type hspec]
        exact hdiag
    · obtain ⟨before, hbefore, ht'⟩ := hpre
      have hcases := rowStep (hsound ev (hmem ev hev)).1 id
      rw [hbefore] at hcases
      obtain ⟨after, hafter, _⟩ := hcases.spec
      rw [hafter] at hcases
      exact ⟨after, hafter, deadline_step ht' hcases⟩
  · intro ev hev j hstmt hid
    have hw := (hsound ev hev).2.stmt
    rw [hstmt] at hw
    obtain ⟨hcopy, hsent⟩ := hw
    refine hsent rfl ?_
    have hspec : ((runEnd (as ++ bs)).shared.jobs.find j.id).map Job.toJobSpec =
      some j.toJobSpec := hcopy
    rw [hid, hjob] at hspec
    rw [← show job.type = j.type from congrArg JobSpec.type (Option.some.inj hspec)]
    exact hdiag
  · intro hquiet hlease
    exact diagnostic_leased_once hcwmp halone hquiet hlease hjob hd hdiag

/-- A ping is triggered in one session, acknowledged, and released by the Inform that
opens the next. -/
def pingTriggered : List Action :=
  [.atomic (.create { id := "j", commandKey := "k", deviceID := "d", type := .diagnosticsPing }
      (.diagnosticsPing
        { host := "h", numberOfRepetitions := 3, timeout := 1000, dataBlockSize := 64,
          dscp := 0 })) fun _ => {},
    .atomic (.inform {} "d" "s1" []) fun _ => {},
    .atomic (.post {} "s1" {}) fun _ => {},
    .atomic (.post {} "s1" { setParameterValuesResponse := some 0 }) fun _ => {},
    .atomic (.inform {} "d" "s2" []) fun _ => {}]

/-- The next request is a poll, and there is one. -/
theorem diagnostics_lifecycle_pingTriggered :
    ((runFrom [.atomic (.post {} "s2" {}) fun _ => {}] (runEnd pingTriggered)).1.filter
        (leasesJob "j")).length = 1 ∧
      (∀ ev ∈ (runFrom [.atomic (.post {} "s2" {}) fun _ => {}] (runEnd pingTriggered)).1,
        ∀ j, gatewayLease ev = some j → j.id = "j" → OnlyPolls j) ∧
      ((runFrom [.atomic (.post {} "s2" {}) fun _ => {}] (runEnd pingTriggered)).1.filter
        (leasesJob "j")).length ≤ 1 := by
  have hend : ((runEnd (pingTriggered ++ [.atomic (.post {} "s2" {}) fun _ => {}])).shared.jobs.find
      "j").any (fun job => job.deviceID = "d" && isCWMPDiagnosticType job.type) = true := by
    decide +kernel
  have hset : ((runEnd pingTriggered).shared.jobs.find "j").any
      (·.diagnosticsDeadline.isSome) = true := by
    decide +kernel
  obtain ⟨job, hjob, hshape⟩ := (Option.any_eq_true _ _).mp hend
  obtain ⟨row, hrow, hdeadline⟩ := (Option.any_eq_true _ _).mp hset
  obtain ⟨t, ht⟩ := Option.isSome_iff_exists.mp hdeadline
  rw [Bool.and_eq_true, decide_eq_true_eq] at hshape
  have hlife := diagnostics_lifecycle pingTriggered [.atomic (.post {} "s2" {}) fun _ => {}]
    (by unfold CwmpOnly; decide) (by unfold InformsAlone; decide) hjob hshape.1 hshape.2
  exact ⟨by decide +kernel, (hlife.1 row t hrow ht).2,
    hlife.2.2 (by decide) (by decide +kernel)⟩

/-! ### The window

The run time is computed in 64-bit nanoseconds.  A sum that is only too large for the sign
is cut to the longest window, as it should be; one beyond `2 ^ 64` comes out as anything. -/

/-- The run time that a ping or a traceroute implies, its products computed by `mul`. -/
def runTime (mul : Int → Int → Int) (j : Job) : Int :=
  match j.type, j.payload with
  | .diagnosticsPing, .diagnosticsPing p =>
    if 0 < p.numberOfRepetitions ∧ 0 < p.timeout then
      mul (mul p.numberOfRepetitions p.timeout) millisecond
    else 0
  | .diagnosticsTraceroute, .diagnosticsTraceroute p =>
    if 0 < p.numberOfTries ∧ 0 < p.timeout ∧ 0 < p.maxHopCount then
      mul (mul (mul p.numberOfTries p.timeout) p.maxHopCount) millisecond
    else 0
  | _, _ => 0

theorem expectedRunTime_eq : expectedRunTime j = runTime mul64 j := rfl

theorem runTime_mul64 (j : Job) :
    0 ≤ runTime (· * ·) j ∧ runTime mul64 j = (runTime (· * ·) j).bmod (2 ^ 64) := by
  unfold runTime
  generalize j.type = type, j.payload = payload
  split
  · split_ifs with h
    · have := Int.mul_pos h.1 h.2
      exact ⟨by dsimp only [millisecond]; omega, Int.bmod_mul_bmod⟩
    · decide
  · split_ifs with h
    · have := Int.mul_pos (Int.mul_pos h.1 h.2.1) h.2.2
      refine ⟨by dsimp only [millisecond]; omega, ?_⟩
      simp only [mul64, Int.bmod_mul_bmod]
    · decide
  · decide

/-- **The window of a diagnostic** is ten minutes more than its run time and two hours at
most, unless the sum is beyond `2 ^ 64` nanoseconds and comes out below two hours. -/
theorem diagnosticsWindow_eq_iff (j : Job) :
    diagnosticsWindow j =
        min (diagnosticsBaseWindow + runTime (· * ·) j) diagnosticsMaxWindow ↔
      diagnosticsBaseWindow + runTime (· * ·) j < 2 ^ 64 ∨
        diagnosticsMaxWindow ≤ (diagnosticsBaseWindow + runTime (· * ·) j) % 2 ^ 64 := by
  obtain ⟨hpos, hwrap⟩ := runTime_mul64 j
  simp only [diagnosticsWindow, add64, expectedRunTime_eq, hwrap, Int.add_bmod_bmod]
  simp only [diagnosticsBaseWindow, diagnosticsMaxWindow, millisecond, Int.bmod_def]
  omega

/-- A ping job with these inputs. -/
def pingJob (repetitions timeout : Int) : Job where
  id := "j"
  commandKey := "k"
  deviceID := "d"
  type := .diagnosticsPing
  status := .queued
  payload := .diagnosticsPing
    { host := "h", numberOfRepetitions := repetitions, timeout, dataBlockSize := 64, dscp := 0 }

/-- The run time is a multiple of `2 ^ 64` and counts as none. -/
theorem diagnosticsWindow_wraps :
    diagnosticsWindow (pingJob (2 ^ 32) (2 ^ 32)) = diagnosticsBaseWindow ∧
    min (diagnosticsBaseWindow + runTime (· * ·) (pingJob (2 ^ 32) (2 ^ 32)))
      diagnosticsMaxWindow = diagnosticsMaxWindow := by
  decide +kernel

end Acs
