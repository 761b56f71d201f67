/-
Which devices a blocked rollout sends back.

The request that finds too many failures sets BLOCKED, lists the devices whose job is
SUCCESS at that moment and queues the rollback image for each.  No later request gets that
far: an advance asks for an ACTIVE rollout.  So a download that is under way when the list
is made is never rolled back, and neither is a device whose rollback cannot be queued; and
two requests that find the failures at once queue every rollback twice.

Otherwise each device gets exactly one rollback: every request that ends lists once for each
time it closes the gate, and queues once for each device it has listed.
-/
import Acs.Api.RolloutSystem
import Acs.Lib.Balance
import Acs.Proofs.Rollout

namespace Acs

open RolloutStmt FleetStmt Prog List Pays Option Pool

/-! ### What is counted -/

namespace RolloutStmt

/-- The statements of the failure gate and the rollback. -/
def ofGate : RolloutStmt → Bool
  | .setStatus .blocked | .successfulDeviceIDs | .setRollbackDispatched
  | .createJob .rollback .. => true
  | _ => false

/-- The gate is closed. -/
def closes : (s : RolloutStmt) → s.Res → Int
  | .setStatus .blocked, _ => 1
  | _, _ => 0

/-- The devices to roll back are listed. -/
def lists : (s : RolloutStmt) → s.Res → Int
  | .successfulDeviceIDs, _ => 1
  | _, _ => 0

/-- The device is listed. -/
def listsDevice (d : String) : (s : RolloutStmt) → s.Res → Int
  | .successfulDeviceIDs, r => ((show Option (List String) from r).getD []).count d
  | _, _ => 0

/-- A rollback of the device is queued. -/
def rollsBack (d : String) : (s : RolloutStmt) → s.Res → Int
  | .createJob .rollback spec _, r =>
    if (show Option String from r).isSome ∧ spec.deviceID = d then 1 else 0
  | _, _ => 0

/-- Nothing that a rollback of the device rests on fails. -/
def carriedOut (image d : String) : (s : RolloutStmt) → s.Res → Bool
  | .successfulDeviceIDs, r => (show Option (List String) from r).isSome
  | .read (.device d'), r => d' ≠ d || (show Option (Option ApiDevice) from r).join.any
      firmwareProfileAllowsDownload
  | .image id, r => id ≠ image || (show Option FirmwareImage from r).isSome
  | .createJob .rollback spec _, r => spec.deviceID ≠ d || (show Option String from r).isSome
  | _, _ => true

end RolloutStmt

/-! ### The accounts of a request -/

section Accounts

variable {R : (s : RolloutStmt) → s.Res → Prop} {worth : (s : RolloutStmt) → s.Res → Int}

theorem all_dispatchEligible (env : RolloutEnv) (ro : Rollout) (isCanaryStart : Bool) :
    (dispatchEligible env ro isCanaryStart).Issues R (·.ofGate = false) := by
  have hdevice : ∀ ids d, (dispatchDevice env ro ids d).Issues R (·.ofGate = false) := by
    intro ids d
    refine All.bind (all_queueFirmwareDownload env ids d _ (fun _ => rfl) rfl
      fun _ _ _ => rfl) fun j _ => ?_
    cases j with
    | none => trivial
    | some j =>
      exact All.bind (all_perform (s := markDispatched d j) rfl)
        fun _ _ => trivial
  have hstatus : ∀ {status : RolloutStatus} {reply : RolloutReply}, status ≠ .blocked →
      ((perform (setStatus status) >>= fun _ => pure reply :
        RolloutProg RolloutReply)).Issues R (·.ofGate = false) := by
    intro status reply hne
    refine all_ask ?_ fun _ _ => trivial
    cases status with
    | blocked => exact absurd rfl hne
    | _ => rfl
  refine All.bind (all_perform rfl) fun eligible _ => ?_
  rcases eligible with _ | _ | ⟨d, ds⟩
  · trivial
  · dsimp only
    split
    · trivial
    · exact hstatus (by simp)
  · refine All.bind (all_perform rfl) fun total _ => ?_
    cases total with
    | none => trivial
    | some total =>
      refine (all_collect fun d _ => hdevice _ _).bind fun marks _ => ?_
      split
      · exact hstatus (by simp)
      · split
        · exact hstatus (by simp)
        · trivial

theorem pays_dispatchRolloutBatch {P : Rollout → Prop} {n : Int}
    (hfree : ∀ s r, s.ofGate = false → worth s r = 0) (hbyID : ∀ ro, R .byID (some ro) → P ro)
    (hclose : ∀ r, worth (.setStatus .blocked) r = n)
    (hgate : ∀ env ro, P ro → (dispatchRollback env ro).Pays R worth (-n)) (env : RolloutEnv)
    (isCanaryStart : Bool) :
    (dispatchRolloutBatch env isCanaryStart).Pays R worth 0 := by
  have hfree' : ∀ s r, s.ofGate = false → R s r → 0 ≤ worth s r :=
    fun s r hs _ => Int.le_of_eq (hfree s r hs).symm
  have hwave : ∀ ro b, (dispatchEligible env ro b).Pays R worth 0 :=
    fun ro b => pays_free (all_dispatchEligible env ro b) hfree'
  refine after (all_scopedRollout (W := fun s => s.ofGate = false) (P := P) rfl rfl ?_)
    hfree' fun r hr => ?_
  · rintro r hr ro rfl
    exact hbyID ro hr
  cases r with
  | error reply => exact Int.le_refl 0
  | ok ro =>
    have hro := hr ro rfl
    dsimp only
    repeat' split
    all_goals try exact Int.le_refl 0
    · exact hwave ro _
    · have hfailures : (failureGate env ro).Pays R worth 0 := by
        refine perform fun rate _ => ?_
        rw [hfree .failureRate rate rfl]
        rcases rate with _ | ⟨succeeded, failed⟩
        · exact Int.le_refl 0
        · dsimp only
          split
          · refine perform fun r _ => ?_
            rw [hclose, Int.sub_self, Int.zero_sub]
            exact (hgate env ro hro).before fun _ => Int.le_refl 0
          · exact Int.le_refl 0
      refine hfailures.before fun reply => ?_
      cases reply with
      | some reply => exact Int.le_refl 0
      | none => exact hwave ro false

/-! ### The accounts of a rollback -/

theorem free_gate {s : RolloutStmt} (r : s.Res) (hs : s.ofGate = false) (d : String) :
    s.closes r = 0 ∧ s.lists r = 0 ∧ s.listsDevice d r = 0 ∧ s.rollsBack d r = 0 := by
  cases s with
  | setStatus status => cases status <;> first | exact ⟨rfl, rfl, rfl, rfl⟩ | cases hs
  | createJob purpose spec payload => cases purpose <;> first | exact ⟨rfl, rfl, rfl, rfl⟩ | cases hs
  | successfulDeviceIDs | setRollbackDispatched => cases hs
  | _ => exact ⟨rfl, rfl, rfl, rfl⟩

theorem tally_zipIdx (d : String) (n : Int) (targets : List String) : ∀ i,
    tally (fun x : String × Nat => if x.1 = d then n else 0) (targets.zipIdx i) =
      n * targets.count d := by
  induction targets with
  | nil => intro i; simp [tally]
  | cons x xs ih =>
    intro i
    rw [zipIdx_cons, tally, ih, count_cons]
    by_cases hx : x = d
    · simp only [hx, if_true, beq_self_eq_true, Int.natCast_add, Int.mul_add]
      omega
    · simp [hx]

theorem pays_attempt {n : Int} {image x : String} (hn : n ≤ 0)
    (hfree : ∀ s r, s.ofGate = false → worth s r = 0)
    (hcreate : ∀ spec payload r, spec.deviceID = x → n ≤ worth (.createJob .rollback spec payload) r)
    (env : RolloutEnv) (ids : JobIDs) :
    (queueFirmwareDownload env .rollback ids x image).Pays R worth n := by
  refine perform fun device _ => ?_
  rw [hfree _ device rfl, Int.sub_zero]
  rcases device with _ | _ | device
  · exact hn
  · exact hn
  · dsimp only
    split
    · refine perform fun img _ => ?_
      rw [hfree _ img rfl, Int.sub_zero]
      cases img with
      | none => exact hn
      | some img =>
        refine perform fun key _ => ?_
        exact Int.sub_nonpos_of_le (hcreate _ _ key rfl)
    · exact hn

theorem pays_queued {image d : String} (hR : ∀ s r, R s r → s.carriedOut image d r)
    (hworth : ∀ s r, worth s r = s.rollsBack d r - s.listsDevice d r) (env : RolloutEnv)
    (ids : JobIDs) : (queueFirmwareDownload env .rollback ids d image).Pays R worth 1 := by
  refine perform fun device hdevice => ?_
  have hread := hR _ _ hdevice
  have hfree : worth (.read (.device d)) device = 0 := hworth _ _
  rw [hfree]
  rcases device with _ | _ | device
  · simp [carriedOut] at hread
  · simp [carriedOut] at hread
  · have hallowed : firmwareProfileAllowsDownload device := by
      simpa [carriedOut] using hread
    simp only [hallowed]
    refine perform fun img himg => ?_
    have hfound := hR _ _ himg
    have hfree' : worth (.image image) img = 0 := hworth _ _
    rw [hfree']
    cases img with
    | none => simp [carriedOut] at hfound
    | some img =>
      refine perform fun key hkey => ?_
      have hcreated := hR _ _ hkey
      rw [hworth]
      cases key with
      | none => simp [carriedOut] at hcreated
      | some key =>
        show (1 : Int) - 0 - 0 - _ ≤ 0
        simp [rollsBack, listsDevice]

theorem pays_dispatchRollback {n : Int} {ro : Rollout} (hmark : ∀ r, worth .setRollbackDispatched r = 0)
    (hskip : ro.rollbackFirmwareImageID = none ∨ ro.rollbackDispatchedAt ≠ none → n ≤ 0)
    (hunlisted : R .successfulDeviceIDs none → n ≤ worth .successfulDeviceIDs none)
    (m : String → Int)
    (hlisted : ∀ image, ro.rollbackFirmwareImageID = some image → ∀ targets,
      R .successfulDeviceIDs (some targets) →
      (∀ env ids x, (queueFirmwareDownload env .rollback ids x image).Pays R worth (m x)) ∧
        n ≤ worth .successfulDeviceIDs (some targets) + tally (fun x => m x.1) targets.zipIdx)
    (env : RolloutEnv) : (dispatchRollback env ro).Pays R worth n := by
  unfold dispatchRollback
  split
  next image himage hnone =>
    refine perform fun r hr => ?_
    cases r with
    | none => exact Int.sub_nonpos_of_le (hunlisted hr)
    | some targets =>
      obtain ⟨hround, hn⟩ := hlisted image himage targets hr
      have hloop : (collect targets.zipIdx fun x =>
          queueFirmwareDownload env .rollback (env.rollbackIDs x.2) x.1 image).Pays R worth
          (tally (fun x => m x.1) targets.zipIdx) :=
        pays_collect fun x _ => hround env _ x.1
      refine (hloop.mono ?_).before fun _ => perform fun r _ => ?_
      · omega
      · rw [hmark]
        exact Int.le_refl 0
  next hno =>
    refine hskip ?_
    by_contra hne
    obtain ⟨himage, hnone⟩ := not_or.mp hne
    obtain ⟨image, himage⟩ := ne_none_iff_exists'.mp himage
    exact hno image himage (not_not.mp hnone)

end Accounts

/-- Every read of the rollout finds it so. -/
def RolloutStmt.Finds (P : Rollout → Prop) : (s : RolloutStmt) → s.Res → Prop
  | .byID, r => ∀ ro, (show Option Rollout from r) = some ro → P ro
  | _, _ => True

/-! ### Requests come out even -/

section Even

variable (env : RolloutEnv) (isCanaryStart : Bool) (d : String)

theorem pays_lists : (dispatchRolloutBatch env isCanaryStart).Pays (fun _ _ => True)
    (fun s r => s.closes r - s.lists r) 0 := by
  have hfree : ∀ (s : RolloutStmt) r, s.ofGate = false → s.closes r - s.lists r = 0 :=
    fun s r hs => by simp [free_gate r hs ""]
  refine pays_dispatchRolloutBatch (P := fun _ => True) (n := 1) hfree (fun _ _ => trivial)
    (fun _ => rfl) (fun env ro _ => ?_) env isCanaryStart
  refine pays_dispatchRollback (fun _ => rfl) (fun _ => by decide) (fun _ => by decide) (fun _ => 0)
    (fun image _ targets _ => ⟨fun env ids x => ?_, ?_⟩) env
  · exact pays_attempt (Int.le_refl 0) hfree (fun _ _ _ _ => Int.le_refl 0) env ids
  · have hnone : tally (fun _ : String × Nat => (0 : Int)) targets.zipIdx = 0 := by
      simpa using tally_zipIdx "" 0 targets 0
    rw [hnone]
    show (-1 : Int) ≤ 0 - 1 + 0
    decide

/-- Where nothing is listed, the gate is not closed. -/
theorem pays_closes (image : String) : (dispatchRolloutBatch env isCanaryStart).Pays
    (fun s r => s ≠ .successfulDeviceIDs ∧ s.Finds (fun ro =>
      ro.rollbackFirmwareImageID = some image ∧ ro.rollbackDispatchedAt = none) r)
    (fun s r => 0 - s.closes r) 0 := by
  refine pays_dispatchRolloutBatch (n := -1) (fun s r hs => ?_) (fun ro hro => hro.2 ro rfl)
    (fun _ => rfl) (fun env ro hro => ?_) env isCanaryStart
  · simp [free_gate r hs ""]
  · refine pays_dispatchRollback (fun _ => rfl) (fun hskip => ?_) (fun hlist => absurd rfl hlist.1)
      (fun _ => 0) (fun image _ targets hlist => absurd rfl hlist.1) env
    rcases hskip with hnone | hsome
    · rw [hro.1] at hnone
      cases hnone
    · exact absurd hro.2 hsome

/-- A request queues at most one rollback each time it lists the device. -/
theorem pays_listsDevice : (dispatchRolloutBatch env isCanaryStart).Pays (fun _ _ => True)
    (fun s r => s.listsDevice d r - s.rollsBack d r) 0 := by
  have hfree : ∀ (s : RolloutStmt) r, s.ofGate = false →
      s.listsDevice d r - s.rollsBack d r = 0 := fun s r hs => by simp [free_gate r hs d]
  refine pays_dispatchRolloutBatch (P := fun _ => True) (n := 0) hfree (fun _ _ => trivial)
    (fun _ => rfl) (fun env ro _ => ?_) env isCanaryStart
  refine pays_dispatchRollback (fun _ => rfl) (fun _ => by decide) (fun _ => Int.le_refl 0)
    (fun x => if x = d then -1 else 0) (fun image _ targets _ => ⟨fun env ids x => ?_, ?_⟩) env
  · refine pays_attempt (by split <;> decide) hfree (fun spec payload r hx => ?_) env ids
    simp only [listsDevice, rollsBack, hx]
    by_cases hd : x = d
    · simp only [hd, if_true]
      split <;> decide
    · simp [hd]
  · rw [tally_zipIdx]
    simp only [listsDevice, rollsBack, getD_some]
    omega

/-- A request queues a rollback each time it lists the device, if nothing fails. -/
theorem pays_rollsBack (image : String) : (dispatchRolloutBatch env isCanaryStart).Pays
    (fun s r => s.carriedOut image d r ∧
      s.Finds (·.rollbackFirmwareImageID = some image) r)
    (fun s r => s.rollsBack d r - s.listsDevice d r) 0 := by
  have hfree : ∀ (s : RolloutStmt) r, s.ofGate = false →
      s.rollsBack d r - s.listsDevice d r = 0 := fun s r hs => by simp [free_gate r hs d]
  refine pays_dispatchRolloutBatch (n := 0) hfree (fun ro hro => hro.2 ro rfl)
    (fun _ => rfl) (fun env ro hro => ?_) env isCanaryStart
  refine pays_dispatchRollback (fun _ => rfl) (fun _ => by decide) (fun _ => Int.le_refl 0)
    (fun x => if x = d then 1 else 0) (fun image' himage targets _ => ⟨fun env ids x => ?_, ?_⟩) env
  · rw [hro] at himage
    cases himage
    split
    next hx =>
      subst hx
      exact pays_queued (fun s r hr => hr.1) (fun _ _ => rfl) env ids
    next hx =>
      refine pays_attempt (Int.le_refl 0) hfree (fun spec payload r hspec => ?_) env ids
      simp [listsDevice, rollsBack, hspec, hx]
  · rw [tally_zipIdx]
    simp only [listsDevice, rollsBack, getD_some]
    omega

end Even

/-! ### Runs -/

namespace FleetStmt

/-- What a statement of a request is worth. -/
def worth (f : (s : RolloutStmt) → s.Res → Int) : (s : FleetStmt) → s.Res → Int
  | .rollout s, r => f s r
  | .queue _, _ => 0

/-- A statement of a request is answered so. -/
def Answers (R : (s : RolloutStmt) → s.Res → Prop) : (s : FleetStmt) → s.Res → Prop
  | .rollout s, r => R s r
  | .queue _, _ => True

theorem answers_true : ∀ (s : FleetStmt) (r : s.Res), s.Answers (fun _ _ => True) r
  | .rollout _, _ => trivial
  | .queue _, _ => trivial

end FleetStmt

section Fleet

variable {as : List FleetAction} {w : RolloutWorld}

/-- What no statement of a request undoes holds of every rollout that is read. -/
theorem fleet_finds {R : (s : RolloutStmt) → s.Res → Prop} {W : RolloutStmt → Prop}
    {P : Rollout → Prop} (hP : ∀ s c w, W s → P w.rollout → P (RolloutStmt.exec s c w).2.rollout)
    (hall : ∀ env isCanaryStart,
      (dispatchRolloutBatch env isCanaryStart).Issues R W)
    (hR : ∀ ev ∈ (fleetRun as w).1, Answers R ev.stmt ev.res) (hw : P w.rollout) :
    ∀ ev ∈ (fleetRun as w).1, Answers (RolloutStmt.Finds P) ev.stmt ev.res := by
  let W' : FleetStmt → Prop := fun s => ∀ s', s = .rollout s' → W s'
  have hexec : ∀ s c st,
      Answers R s (s.exec c st).1 → W' s → P st.rollout →
      (Answers R s (s.exec c st).1 ∧
        Answers (RolloutStmt.Finds P) s (s.exec c st).1) ∧
        P (s.exec c st).2.rollout := by
    intro s c st hR hW hJ
    cases s with
    | queue s => exact ⟨⟨trivial, trivial⟩, hJ⟩
    | rollout s =>
      refine ⟨⟨hR, ?_⟩, hP s _ st (hW s rfl) hJ⟩
      cases s with
      | byID =>
        intro ro hro
        obtain ⟨-, hro⟩ := ite_none_left_eq_some.mp hro
        cases hro
        exact hJ
      | _ => trivial
  have htasks : ∀ t ∈ started as, (FleetTask.prog t).All
      (fun s r => Answers R s r ∧ Answers (RolloutStmt.Finds P) s r) W'
      (fun _ => True) := by
    intro t _
    cases t with
    | queue s => exact ⟨fun s' heq => (nomatch heq), fun _ _ => trivial⟩
    | rollout t =>
      have htask : t.prog.Issues R W := by
        cases t with
        | start env => exact (hall env true).bind fun _ _ => trivial
        | advance env => exact (hall env false).bind fun _ _ => trivial
      refine htask.lift (fun _ _ h => h.1) fun s hs s' heq => ?_
      cases heq
      exact hs
  intro ev hev
  exact (run_rule (G := fun ev => Answers R ev.stmt ev.res)
    (J := fun w => P w.rollout) hexec (by simp) hw htasks hR ev hev).2.res.2

/-- Only the end of a rollback is recorded, and never another image. -/
theorem exec_rollout (s : RolloutStmt) (c : RolloutChoice) (w : RolloutWorld) :
    (s.exec c w).2.rollout.rollbackFirmwareImageID = w.rollout.rollbackFirmwareImageID ∧
      (s ≠ .setRollbackDispatched →
        (s.exec c w).2.rollout.rollbackDispatchedAt = w.rollout.rollbackDispatchedAt) := by
  cases s with
  | setStatus status =>
    simp only [RolloutStmt.exec]
    split <;> exact ⟨rfl, fun _ => rfl⟩
  | setRollbackDispatched =>
    simp only [RolloutStmt.exec]
    split
    · exact ⟨rfl, fun _ => rfl⟩
    · exact ⟨rfl, fun hne => absurd rfl hne⟩
  | markDispatched d j =>
    simp only [RolloutStmt.exec]
    split <;> exact ⟨rfl, fun _ => rfl⟩
  | _ => exact ⟨rfl, fun _ => rfl⟩

/-- Without a list there is no end of a rollback. -/
theorem all_unlisted (env : RolloutEnv) (isCanaryStart : Bool) :
    (dispatchRolloutBatch env isCanaryStart).Issues (fun s _ => s ≠ .successfulDeviceIDs)
      (· ≠ .setRollbackDispatched) := by
  have hwave : ∀ ro b, (dispatchEligible env ro b).Issues (fun s _ => s ≠ .successfulDeviceIDs)
      (· ≠ .setRollbackDispatched) := by
    refine fun ro b => (all_dispatchEligible env ro b).mono_stmt ?_
    rintro s hs rfl
    cases hs
  have hrollback : ∀ ro, (dispatchRollback env ro).Issues (fun s _ => s ≠ .successfulDeviceIDs)
      (· ≠ .setRollbackDispatched) := by
    intro ro
    unfold dispatchRollback
    split
    · exact ⟨by simp, fun r hr => absurd rfl hr⟩
    · trivial
  refine (all_scopedRollout (P := fun _ => True) (by simp) (by simp)
    fun _ _ _ _ => trivial).bind fun r _ => ?_
  cases r with
  | error reply => trivial
  | ok ro =>
    dsimp only
    repeat' split
    all_goals try trivial
    · exact hwave ro _
    · refine All.bind (P := fun _ => True) ?_ fun reply _ => ?_
      · refine (all_perform (s := failureRate) (by simp)).bind
          fun rate _ => ?_
        rcases rate with _ | ⟨succeeded, failed⟩
        · trivial
        · dsimp only
          split
          · refine (all_perform
              (s := setStatus .blocked) (by simp)).bind fun _ _ => ?_
            exact (hrollback ro).bind fun _ _ => trivial
          · trivial
      · cases reply with
        | some reply => trivial
        | none => exact hwave ro false

end Fleet

/-! ### Events -/

namespace FleetEvent

section

variable (d : String) (ev : FleetEvent)

/-- The request sets BLOCKED. -/
def closesGate : Bool :=
  match ev.stmt with
  | .rollout (.setStatus .blocked) => true
  | _ => false

/-- The devices to roll back are listed. -/
def lists : Bool :=
  match ev.stmt with
  | .rollout .successfulDeviceIDs => true
  | _ => false

/-- A rollback of the device is queued. -/
def rollsBack : Bool :=
  match ev with
  | ⟨.rollout (.createJob .rollback spec _), r, _, _⟩ =>
    (show Option String from r).isSome && spec.deviceID = d
  | _ => false

/-- Nothing that a rollback of the device rests on fails. -/
def carriedOut (image d : String) (ev : FleetEvent) : Bool :=
  match ev with
  | ⟨.rollout s, r, _, _⟩ => s.carriedOut image d r
  | _ => true

theorem worth_closes : worth closes ev.stmt ev.res = if closesGate ev then 1 else 0 := by
  obtain ⟨s, r, pre, post⟩ := ev
  cases s with
  | queue s => rfl
  | rollout s =>
    cases s with
    | setStatus status => cases status <;> rfl
    | _ => rfl

theorem worth_lists : worth RolloutStmt.lists ev.stmt ev.res = if lists ev then 1 else 0 := by
  obtain ⟨s, r, pre, post⟩ := ev
  cases s with
  | queue s => rfl
  | rollout s => cases s <;> rfl

theorem worth_rollsBack :
    worth (RolloutStmt.rollsBack d) ev.stmt ev.res = if rollsBack d ev then 1 else 0 := by
  obtain ⟨s, r, pre, post⟩ := ev
  cases s with
  | queue s => rfl
  | rollout s =>
    cases s with
    | createJob purpose spec payload =>
      cases purpose with
      | wave => rfl
      | rollback => simp [worth, RolloutStmt.rollsBack, rollsBack]
    | _ => rfl

end

/-- A list that is answered holds every device that has succeeded, once. -/
theorem worth_listsDevice {d : String} {ev : FleetEvent} (hlegal : ev.Legal FleetStmt.exec)
    {image : String} (hcarried : carriedOut image d ev)
    (hd : lists ev → d ∈ ev.pre.successful) :
    worth (listsDevice d) ev.stmt ev.res = if lists ev then 1 else 0 := by
  obtain ⟨s, c, st, rfl⟩ := hlegal.eq_fire
  cases s with
  | queue s => rfl
  | rollout s =>
    cases s with
    | successfulDeviceIDs =>
      have hmem : d ∈ st.successful := hd rfl
      have hnodup : st.successful.Nodup := st.devices.keys.sublist (filter_sublist.map _)
      have hsome : (if c.queue.fails then none else some st.successful).isSome := hcarried
      show (((if c.queue.fails then none else some st.successful).getD []).count d : Int) = 1
      split at hsome
      · cases hsome
      next hfails =>
        rw [if_neg hfails, getD_some, count_eq_one_of_mem hnodup hmem]
        rfl
    | _ => rfl

end FleetEvent

/-! ### The rollbacks of a device -/

section Counts

variable {as : List FleetAction} {w : RolloutWorld}

/-- Whatever each request has at least as much of, a run whose requests have ended has. -/
theorem fleet_balance {R : (s : RolloutStmt) → s.Res → Prop}
    {f g : (s : RolloutStmt) → s.Res → Int} {p q : FleetEvent → Bool}
    (hpays : ∀ env isCanaryStart,
      (dispatchRolloutBatch env isCanaryStart).Pays R (fun s r => f s r - g s r) 0)
    (hR : ∀ ev ∈ (fleetRun as w).1, Answers R ev.stmt ev.res)
    (hdone : ∀ p ∈ (fleetRun as w).2.threads, p = .done ())
    (hf : ∀ ev ∈ (fleetRun as w).1, worth f ev.stmt ev.res = if p ev then 1 else 0)
    (hg : ∀ ev ∈ (fleetRun as w).1, worth g ev.stmt ev.res = if q ev then 1 else 0) :
    (fleetRun as w).1.countP q ≤ (fleetRun as w).1.countP p := by
  have hearned : 0 ≤ earned (worth fun s r => f s r - g s r) (fleetRun as w).1 := by
    refine run_pays (R := Answers R) (Int.le_refl 0) (fun t _ => ?_) hR hdone
    cases t with
    | queue s => exact perform fun _ _ => Int.le_refl 0
    | rollout t =>
      have htask : t.prog.Pays R (fun s r => f s r - g s r) 0 := by
        cases t with
        | start env => exact (hpays env true).before fun _ => Int.le_refl 0
        | advance env => exact (hpays env false).before fun _ => Int.le_refl 0
      exact htask.lift (fun _ _ h => h) fun _ _ => rfl
  have hsplit : earned (worth fun s r => f s r - g s r) (fleetRun as w).1 =
      tally (fun ev => (if p ev then 1 else 0) - if q ev then 1 else 0) (fleetRun as w).1 := by
    refine tally_congr fun ev hev => ?_
    rw [← hf ev hev, ← hg ev hev]
    obtain ⟨s, r, pre, post⟩ := ev
    cases s <;> rfl
  rw [hsplit, tally_sub, tally_countP, tally_countP] at hearned
  omega

/-- A gate that is closed once is followed by one list, if a rollback is due. -/
theorem fleet_lists_once {image : String} (himage : w.rollout.rollbackFirmwareImageID = some image)
    (hnone : w.rollout.rollbackDispatchedAt = none)
    (hdone : ∀ p ∈ (fleetRun as w).2.threads, p = .done ())
    (honce : (fleetRun as w).1.countP FleetEvent.closesGate = 1) :
    (fleetRun as w).1.countP FleetEvent.lists = 1 := by
  have hmost : (fleetRun as w).1.countP FleetEvent.lists ≤
      (fleetRun as w).1.countP FleetEvent.closesGate := by
    exact fleet_balance pays_lists (fun ev _ => answers_true _ _) hdone
      (fun ev _ => FleetEvent.worth_closes ev) fun ev _ => FleetEvent.worth_lists ev
  have hsome : (fleetRun as w).1.countP FleetEvent.lists ≠ 0 := by
    intro hzero
    -- no request lists, so none records the end of a rollback, and each would have to list
    have hunlisted : ∀ ev ∈ (fleetRun as w).1,
        Answers (fun s _ => s ≠ .successfulDeviceIDs) ev.stmt ev.res := by
      intro ev hev
      have hnot := countP_eq_zero.mp hzero ev hev
      obtain ⟨s, r, pre, post⟩ := ev
      cases s with
      | queue s => trivial
      | rollout s =>
        rintro rfl
        exact hnot rfl
    have hfinds := fleet_finds (W := (· ≠ .setRollbackDispatched))
      (P := fun ro => ro.rollbackFirmwareImageID = some image ∧ ro.rollbackDispatchedAt = none)
      (fun s c w hs hP => ⟨(exec_rollout s c w).1.trans hP.1, ((exec_rollout s c w).2 hs).trans hP.2⟩)
      all_unlisted hunlisted ⟨himage, hnone⟩
    have hclosed : (fleetRun as w).1.countP FleetEvent.closesGate ≤
        (fleetRun as w).1.countP fun _ => false := by
      refine fleet_balance (f := fun _ _ => 0) (fun env b => pays_closes env b image) (fun ev hev => ?_)
        hdone (fun ev _ => ?_) fun ev _ => FleetEvent.worth_closes ev
      · have hlists := hunlisted ev hev
        have hreads := hfinds ev hev
        obtain ⟨s, r, pre, post⟩ := ev
        cases s with
        | queue s => trivial
        | rollout s => exact ⟨hlists, hreads⟩
      · obtain ⟨s, r, pre, post⟩ := ev
        cases s <;> rfl
    rw [countP_false, Function.const_apply, honce] at hclosed
    exact absurd hclosed (by decide)
  omega

/-- **A blocked rollout rolls each device back once**, if one request closes the gate, every
request ends, nothing that the device's rollback rests on fails, and a device that has
succeeded by then or later has succeeded by the time the devices are listed. -/
theorem rolled_back_once (as : List FleetAction) (w : RolloutWorld) (image d : String)
    (himage : w.rollout.rollbackFirmwareImageID = some image)
    (hnone : w.rollout.rollbackDispatchedAt = none)
    (hdone : ∀ p ∈ (fleetRun as w).2.threads, p = .done ())
    {before after : List FleetEvent} {closing : FleetEvent}
    (htrace : (fleetRun as w).1 = before ++ closing :: after)
    (hcloses : closing.closesGate = true)
    (honce : ∀ ev ∈ before ++ after, ev.closesGate = false)
    (hcarried : ∀ ev ∈ (fleetRun as w).1, ev.carriedOut image d = true)
    (hlate : ∀ ev ∈ (fleetRun as w).1, ev.lists = true →
      ∀ late ∈ closing :: after, d ∈ late.post.successful → d ∈ ev.pre.successful)
    (hsuccess : ∃ late ∈ closing :: after, d ∈ late.post.successful) :
    (fleetRun as w).1.countP (·.rollsBack d) = 1 := by
  obtain ⟨late, hafter, hd⟩ := hsuccess
  have hclosed : (fleetRun as w).1.countP FleetEvent.closesGate = 1 := by
    have hothers : (before ++ after).countP FleetEvent.closesGate = 0 :=
      countP_eq_zero.mpr fun ev hev => by simp [honce ev hev]
    rw [countP_append] at hothers
    rw [htrace, countP_append, countP_cons_of_pos hcloses]
    omega
  have hlists := fleet_lists_once himage hnone hdone hclosed
  have hworth : ∀ ev ∈ (fleetRun as w).1, worth (RolloutStmt.listsDevice d) ev.stmt
      ev.res = if ev.lists then 1 else 0 := fun ev hev =>
    FleetEvent.worth_listsDevice (run_legal as _ ev hev) (hcarried ev hev) fun hlist =>
      hlate ev hev hlist late hafter hd
  have hmost : (fleetRun as w).1.countP (·.rollsBack d) ≤
      (fleetRun as w).1.countP FleetEvent.lists := by
    exact fleet_balance (fun env b => pays_listsDevice env b d)
      (fun ev _ => answers_true _ _) hdone hworth
      fun ev _ => FleetEvent.worth_rollsBack d ev
  have hleast : (fleetRun as w).1.countP FleetEvent.lists ≤
      (fleetRun as w).1.countP (·.rollsBack d) := by
    have hfinds : ∀ ev ∈ (fleetRun as w).1, Answers
        (RolloutStmt.Finds fun ro => ro.rollbackFirmwareImageID = some image) ev.stmt ev.res :=
      fleet_finds (R := fun _ _ => True) (W := fun _ => True)
        (fun s c w _ hP => (exec_rollout s c w).1.trans hP) (fun _ _ => all_true _)
        (fun ev _ => answers_true _ _) himage
    refine fleet_balance (fun env b => pays_rollsBack env b d image) (fun ev hev => ?_) hdone
      (fun ev _ => FleetEvent.worth_rollsBack d ev) hworth
    have hreads := hfinds ev hev
    have hwell := hcarried ev hev
    obtain ⟨s, r, pre, post⟩ := ev
    cases s with
    | queue s => trivial
    | rollout s => exact ⟨hwell, hreads⟩
  omega

end Counts

/-! ### Runs -/

/-- Both devices at once, and an image to go back to. -/
def revertibleRollout : Rollout where
  firmwareImageID := "fw2"
  rollbackFirmwareImageID := some "fw1"
  canaryPercentage := 100
  canary_range := by decide
  maximumFailureRate := 1 / 5

/-- The job of a device, as the request that queued it knows it. -/
def rolloutJob (id deviceID : String) : Job :=
  newJob { id, commandKey := "key" ++ id, deviceID, type := .firmwareDownload }
    (.firmwareDownload { firmwareImageID := "fw2", fileType := "", url := "", fileSize := 1 }) 0

/-- The TransferComplete of a job that has worked out, and of one that has not. -/
def transferred (id deviceID : String) : FleetTask :=
  .queue (.update (.transferComplete ("key" ++ id)) (.markSuccess (rolloutJob id deviceID)))

def notTransferred (id deviceID : String) : FleetTask :=
  .queue (.update (.transferComplete ("key" ++ id)) (.markFailed (rolloutJob id deviceID) "9010" ""))

def undisturbed (t : FleetTask) : FleetAction :=
  .atomic t fun _ => rolloutSite []

/-- The wave, which both devices are sent; the download of cpe2 fails. -/
def failedWave : List FleetAction :=
  [undisturbed (.rollout (.start (rolloutEnv "a"))), undisturbed (notTransferred "a1" "cpe2")]

def advanced (name : String) : FleetTask :=
  .rollout (.advance (rolloutEnv name))

/-- cpe1 succeeds before the advance that finds the failure. -/
def succeededInTime : List FleetAction :=
  failedWave ++ [undisturbed (transferred "a0" "cpe1"), undisturbed (advanced "b"),
    undisturbed (advanced "c")]

/-- cpe1 succeeds between that advance and the next. -/
def succeededLate : List FleetAction :=
  failedWave ++ [undisturbed (advanced "b"), undisturbed (transferred "a0" "cpe1"),
    undisturbed (advanced "c")]

/-- Two advances that take turns find the failure. -/
def foundTwice : List FleetAction :=
  failedWave ++ [undisturbed (transferred "a0" "cpe1"), .spawn (advanced "b"),
    .spawn (advanced "c")] ++ (List.range 18).map fun n => .step (n % 2) (rolloutSite [])

/-- The job of the rollback cannot be queued. -/
def notQueued : List FleetAction :=
  failedWave ++ [undisturbed (transferred "a0" "cpe1"),
    .atomic (advanced "b") fun n => { rolloutSite [] with queue := { fails := n = 7 } },
    undisturbed (advanced "c")]

def revertibleRun (as : List FleetAction) : List FleetEvent × Pool FleetStmt.Res RolloutWorld :=
  fleetRun as (.found World.init revertibleRollout twoDevices)

/-- What the rollout has come to: its status, the devices that have the image, and those a
rollback was queued for. -/
def fleetOutcome (as : List FleetAction) : RolloutStatus × List String × List String :=
  ((revertibleRun as).2.shared.rollout.status, (revertibleRun as).2.shared.successful,
    (revertibleRun as).1.flatMap fun ev => ["cpe1", "cpe2"].filter (ev.rollsBack ·))

/-- The statement of `succeededInTime` that closes the gate. -/
def closingInTime : FleetEvent :=
  (revertibleRun succeededInTime).1.get ⟨18, by decide +kernel⟩

/-- A device that succeeds in time is rolled back. -/
theorem rolled_back_once_inTime :
    fleetOutcome succeededInTime = (.blocked, ["cpe1"], ["cpe1"]) ∧
    (revertibleRun succeededInTime).1.countP (·.rollsBack "cpe1") = 1 := by
  have hsplit : (revertibleRun succeededInTime).1 = (revertibleRun succeededInTime).1.take 18 ++
      closingInTime :: (revertibleRun succeededInTime).1.drop 19 := by
    rw [closingInTime, get_eq_getElem, ← drop_eq_getElem_cons, take_append_drop]
  refine ⟨by decide +kernel, rolled_back_once _ _ "fw1" "cpe1" rfl rfl ?_ hsplit ?_ ?_ ?_ ?_ ?_⟩
  · intro p hp
    cases hp
  all_goals decide +kernel

/-- A device that succeeds after the list is never rolled back, and neither is one whose
rollback is refused; one that two requests list is rolled back twice. -/
theorem not_rolled_back_once :
    fleetOutcome succeededLate = (.blocked, ["cpe1"], []) ∧
    fleetOutcome foundTwice = (.blocked, ["cpe1"], ["cpe1", "cpe1"]) ∧
    fleetOutcome notQueued = (.blocked, ["cpe1"], []) := by
  decide +kernel

end Acs
