/-
What a firmware rollout guarantees, and when.

The bound on a wave holds whatever happens: the batch is cut off before the loop.  The
other two promises of a rollout rest on things the handler does not check.

  * COMPLETED is set after the loop over the last batch, whether or not the loop queued
    and marked the devices.  If nothing fails, it did, and nobody makes a device
    eligible again; so the promise holds in every interleaving.
  * A device is taken from the list that was read before the loop.  Two requests that
    overlap read the same list, and a device that could not be marked is read again; so
    the promise holds if requests do not overlap and every mark succeeds.
-/
import Acs.Api.Rollout
import Acs.Queue.System

namespace Acs

open List Prog RolloutDevices RolloutStmt AtMost Pool Guarded

/-! ### The table of devices -/

namespace RolloutDevices

variable {d : String} {t : RolloutDevices}

theorem mem_eligible :
    d ∈ t.eligible ↔ ∃ row ∈ t.rows, row.jobID = none ∧ row.deviceID = d := by
  simp [eligible, and_assoc]

theorem eligible_nodup (t : RolloutDevices) : t.eligible.Nodup :=
  t.keys.sublist (filter_sublist.map _)

theorem dispatched_nodup (t : RolloutDevices) : t.dispatched.Nodup :=
  t.keys.sublist (filter_sublist.map _)

theorem notMem_dispatched (h : d ∈ t.eligible) :
    d ∉ t.dispatched := by
  intro hd
  obtain ⟨row, hrow, hnone, rfl⟩ := mem_eligible.mp h
  obtain ⟨row', hrow', hid⟩ := mem_map.mp hd
  obtain ⟨hmem, hsome⟩ := mem_filter.mp hrow'
  have heq : row' = row := by
    have h₁ := Keyed.find_of_mem t.keys hmem
    have h₂ := Keyed.find_of_mem t.keys hrow
    rw [hid, h₂] at h₁
    exact (Option.some.inj h₁).symm
  rw [heq, hnone] at hsome
  cases hsome

theorem mem_eligible_mark {e jobID : String} {now : Time} :
    e ∈ (t.mark d jobID now).eligible ↔ e ∈ t.eligible ∧ e ≠ d := by
  simp only [mem_eligible, mark, mem_map]
  constructor
  · rintro ⟨_, ⟨row, hrow, rfl⟩, hnone, rfl⟩
    split at hnone
    · cases hnone
    next hne =>
      rw [if_neg hne]
      exact ⟨⟨row, hrow, hnone, rfl⟩, hne⟩
  · rintro ⟨⟨row, hrow, hnone, rfl⟩, hne⟩
    exact ⟨row, ⟨row, hrow, if_neg hne⟩, hnone, rfl⟩

@[simp] theorem mark_length {jobID : String} {now : Time} :
    (t.mark d jobID now).rows.length = t.rows.length := by
  simp [mark]

end RolloutDevices

/-! ### What is issued before a wave -/

/-- What the checks before a wave issue: reads, and a rollback that sends this image. -/
def RolloutStmt.Checks (rollback : Option String) : RolloutStmt → Prop
  | .createJob purpose _ payload => purpose = .rollback ∧
      ∃ image, rollback = some image ∧ ∀ x, payload.sendsImage x = decide (image = x)
  | .setStatus status => status = .blocked
  | .markDispatched .. => False
  | _ => True

section Checks

variable {R : (s : RolloutStmt) → s.Res → Prop}

variable (env : RolloutEnv)

theorem all_queueFirmwareDownload {W : RolloutStmt → Prop} {purpose : RolloutPurpose} (ids : JobIDs)
    (d image : String) (hread : ∀ q, W (.read q)) (himage : W (.image image))
    (hcreate : ∀ spec payload, (∀ x, payload.sendsImage x = decide (image = x)) →
      W (.createJob purpose spec payload)) :
    (queueFirmwareDownload env purpose ids d image).Issues R W := by
  refine (all_perform (hread _)).bind fun device _ => ?_
  rcases device with _ | _ | device
  · trivial
  · trivial
  · dsimp only
    split
    · refine all_ask himage fun img _ => ?_
      cases img with
      | none => trivial
      | some img =>
        exact (all_perform (hcreate _ _ fun _ => rfl)).bind fun _ _ => trivial
    · trivial

theorem checks_dispatchRollback (ro : Rollout) :
    (dispatchRollback env ro).Issues R (Checks ro.rollbackFirmwareImageID) := by
  unfold dispatchRollback
  split
  next image hrollback _ =>
    rw [hrollback]
    refine all_ask trivial fun targets _ => ?_
    cases targets with
    | none => trivial
    | some targets =>
      refine (all_collect fun d _ => all_queueFirmwareDownload env _ _ _
        (fun _ => trivial) trivial fun _ _ h => ⟨rfl, image, rfl, h⟩).bind fun _ _ => ?_
      exact all_ask trivial fun _ _ => trivial
  · trivial

theorem checks_failureGate (ro : Rollout) :
    (failureGate env ro).Issues R (Checks ro.rollbackFirmwareImageID) := by
  refine all_ask trivial fun rate _ => ?_
  rcases rate with _ | ⟨succeeded, failed⟩
  · trivial
  · dsimp only
    split
    · refine All.bind (all_perform rfl) fun _ _ => ?_
      exact (checks_dispatchRollback env ro).bind fun _ _ => trivial
    · trivial

theorem all_scopedRollout {W : RolloutStmt → Prop} {P : Rollout → Prop} (hbyID : W .byID)
    (hscope : W (.read .deviceScope)) (hR : ∀ r, R .byID r → ∀ ro, r = some ro → P ro) :
    scopedRollout.All R W (fun r => ∀ ro, r = .ok ro → P ro) := by
  refine all_ask hbyID fun r hr => ?_
  cases r with
  | none => nofun
  | some found =>
    refine all_ask hscope fun scope _ => ?_
    cases scope with
    | none => nofun
    | some scope =>
      intro ro h
      split at h
      · cases h
        exact hR _ hr found rfl
      · cases h

end Checks

/-! ### The size of a wave -/

/-- The statement queues a download of a wave. -/
def RolloutStmt.queuesWave : RolloutStmt → Bool
  | .createJob .wave _ _ => true
  | _ => false

variable {rollback : Option String} {s : RolloutStmt} {c : RolloutChoice} {d image : String}
variable {w : RolloutWorld} {P : RolloutWorld → Prop} {ro : Rollout}

theorem RolloutStmt.Checks.queuesWave (h : s.Checks rollback) : s.queuesWave = false := by
  cases s with
  | createJob purpose spec payload =>
    rw [h.1]
    rfl
  | _ => rfl

/-- What is read of a rollout with this percentage and so many devices. -/
def RolloutStmt.Reads (total percentage : Nat) : (s : RolloutStmt) → s.Res → Prop
  | .byID, r => ∀ ro, r = some ro → ro.canaryPercentage = percentage
  | .totalDevices, r => ∀ n, r = some n → n = total
  | _, _ => True

section WaveSize

variable (total percentage : Nat)

/-- The program queues at most so many downloads of a wave. -/
def QueuesAtMost {α : Type} (n : Nat) (p : RolloutProg α) : Prop :=
  p.AtMost (Reads total percentage) queuesWave n

variable {total percentage}

variable (env : RolloutEnv)

theorem queuesAtMost_dispatchDevice (ro : Rollout) (ids : JobIDs) (d : String) :
    QueuesAtMost total percentage 1 (dispatchDevice env ro ids d) := by
  have hqueue : QueuesAtMost total percentage 1
      (queueFirmwareDownload env .wave ids d ro.firmwareImageID) := by
    refine after (all_perform rfl) fun device _ => ?_
    rcases device with _ | _ | device
    · trivial
    · trivial
    · dsimp only
      split
      · refine after (all_perform rfl) fun img _ => ?_
        cases img with
        | none => trivial
        | some img => exact ⟨fun _ => Nat.one_pos, fun _ _ => trivial⟩
      · trivial
  refine bind (n := 0) hqueue (all_true _) fun jobID _ => ?_
  cases jobID with
  | none => trivial
  | some jobID => exact ⟨nofun, fun _ _ => trivial⟩

/-- The batch is cut off at the size of a wave before anything is queued. -/
theorem queuesAtMost_dispatchWave {ro : Rollout} (hro : ro.canaryPercentage = percentage)
    (isCanaryStart : Bool) (eligible : List String) :
    QueuesAtMost total percentage (max 1 (total * percentage / 100))
      (dispatchWave env ro isCanaryStart eligible total) := by
  have hbatch : (eligible.take (waveSize total ro.canaryPercentage)).zipIdx.length ≤
      max 1 (total * percentage / 100) := by
    rw [length_zipIdx, length_take, hro, waveSize]
    split <;> omega
  refine mono (m := _ + 0) (bind
    (atMost_collect fun d _ => queuesAtMost_dispatchDevice env ro _ d.1)
    (all_true _) fun marks _ => ?_) hbatch
  split
  · exact ⟨nofun, fun _ _ => trivial⟩
  · split
    · exact ⟨nofun, fun _ _ => trivial⟩
    · trivial

theorem queuesAtMost_dispatchEligible {ro : Rollout} (hro : ro.canaryPercentage = percentage)
    (isCanaryStart : Bool) : QueuesAtMost total percentage (max 1 (total * percentage / 100))
      (dispatchEligible env ro isCanaryStart) := by
  refine after (all_perform rfl) fun eligible _ => ?_
  rcases eligible with _ | _ | ⟨d, ds⟩
  · trivial
  · dsimp only
    split
    · trivial
    · exact ⟨nofun, fun _ _ => trivial⟩
  · refine after (all_perform rfl) fun n hn => ?_
    cases n with
    | none => trivial
    | some n =>
      rw [hn n rfl]
      exact queuesAtMost_dispatchWave env hro isCanaryStart _

/-- **One request queues at most one wave**, however its statements are answered. -/
theorem queuesAtMost_dispatchRolloutBatch (isCanaryStart : Bool) :
    QueuesAtMost total percentage (max 1 (total * percentage / 100))
      (dispatchRolloutBatch env isCanaryStart) := by
  refine after (all_scopedRollout
    (P := fun ro => ro.canaryPercentage = percentage) rfl rfl fun r hr => hr) fun r hr => ?_
  cases r with
  | error reply => trivial
  | ok ro =>
    have hro := hr ro rfl
    dsimp only
    repeat' split
    all_goals try trivial
    · exact queuesAtMost_dispatchEligible env hro _
    · refine after ((checks_failureGate env ro).mono_stmt fun _ h => h.queuesWave)
        fun reply _ => ?_
      cases reply with
      | some reply => trivial
      | none => exact queuesAtMost_dispatchEligible env hro _

end WaveSize

/-- No statement changes the percentage of a rollout or the number of its devices. -/
theorem reads_step {total percentage : Nat} (s : RolloutStmt) (c : RolloutChoice)
    (w : RolloutWorld)
    (h : w.rollout.canaryPercentage = percentage ∧ w.devices.rows.length = total) :
    s.Reads total percentage (s.exec c w).1 ∧
      (s.exec c w).2.rollout.canaryPercentage = percentage ∧
      (s.exec c w).2.devices.rows.length = total := by
  cases s with
  | byID =>
    refine ⟨fun ro hro => ?_, h⟩
    cases (Option.ite_none_left_eq_some.mp hro).2
    exact h.1
  | totalDevices =>
    refine ⟨fun n hn => ?_, h⟩
    cases (Option.ite_none_left_eq_some.mp hn).2
    exact h.2
  | setStatus | setRollbackDispatched =>
    refine ⟨trivial, ?_⟩
    unfold RolloutStmt.exec
    dsimp only
    split <;> exact h
  | markDispatched =>
    refine ⟨trivial, ?_⟩
    unfold RolloutStmt.exec
    dsimp only
    split
    · exact h
    · exact ⟨h.1, by rw [mark_length]; exact h.2⟩
  | _ => exact ⟨trivial, h⟩

variable (env : RolloutEnv) (as : List RolloutAction)

theorem rollout_wave_bound (w : RolloutWorld) :
    ∀ evs ∈ rolloutRequests as w, evs.countP (fun ev => ev.stmt.queuesWave) ≤
      max 1 (w.devices.rows.length * w.rollout.canaryPercentage / 100) := by
  refine eventsByTask_atMost
    (R := Reads w.devices.rows.length w.rollout.canaryPercentage) ?_ ?_
  · intro t _
    cases t with
    | start env =>
      exact bind (n := 0) (queuesAtMost_dispatchRolloutBatch env true)
        (all_true _) fun _ _ => trivial
    | advance env =>
      exact bind (n := 0) (queuesAtMost_dispatchRolloutBatch env false)
        (all_true _) fun _ _ => trivial
  · intro ev hev
    exact (run_rule (W := fun _ => True) (G := fun _ => True)
      (J := fun st => st.rollout.canaryPercentage = w.rollout.canaryPercentage ∧
        st.devices.rows.length = w.devices.rows.length)
      (fun s c st _ _ hpre => reads_step s c st hpre) (by simp) ⟨rfl, rfl⟩
      (fun t _ => all_true _) (fun _ _ => trivial) ev hev).2.res

/-! ### COMPLETED -/

/-- A statement of a wave succeeds: the device may be sent an image, and the image, the job
and the mark are there. -/
def RolloutStmt.succeeds : (s : RolloutStmt) → s.Res → Bool
  | .read (.device _), r => (Option.join r).any firmwareProfileAllowsDownload
  | .image _, r => Option.isSome r
  | .createJob .., r => Option.isSome r
  | .markDispatched .., r => Option.isSome r
  | _, _ => true

/-- Devices are taken from the eligible ones, never added. -/
def Shrinks (w w' : RolloutWorld) : Prop :=
  ∀ d ∈ w'.devices.eligible, d ∈ w.devices.eligible

theorem Shrinks.refl (w : RolloutWorld) : Shrinks w w := fun _ hd => hd

theorem Shrinks.trans (a b c : RolloutWorld) (h : Shrinks a b) (h' : Shrinks b c) : Shrinks a c :=
  fun d hd => h d (h' d hd)

theorem exec_shrinks (s : RolloutStmt) (c : RolloutChoice) (w : RolloutWorld) :
    Shrinks w (s.exec c w).2 := by
  cases s with
  | setStatus | setRollbackDispatched =>
    unfold RolloutStmt.exec
    dsimp only
    split <;> exact Shrinks.refl w
  | markDispatched d j =>
    unfold RolloutStmt.exec
    dsimp only
    split
    · exact Shrinks.refl w
    · exact fun e he => (mem_eligible_mark.mp he).1
  | _ => exact Shrinks.refl w

/-- COMPLETED is set only when no device is eligible. -/
def CompletesWell (ev : RolloutEvent) : Prop :=
  ev.stmt = .setStatus .completed → ev.pre.devices.eligible = []

abbrev SafeCompletion {α : Type} (Q : α → RolloutWorld → Prop) (p : RolloutProg α)
    (w : RolloutWorld) : Prop :=
  p.Guarded RolloutStmt.exec (fun _ => Shrinks) (fun ev => ev.stmt.succeeds ev.res) CompletesWell Q w

theorem safeCompletion_perform (hs : s ≠ .setStatus .completed)
    (hP : ∀ {a b}, P a → Shrinks a b → P b) (h : P w) :
    SafeCompletion (fun r w => s.succeeds r ∧ P w) (perform s) w := by
  intro w' c hrely hG
  exact ⟨fun heq => absurd heq hs, hG, hP (hP h hrely) (exec_shrinks s c w')⟩

theorem safeCompletion_queueFirmwareDownload (hP : ∀ {a b}, P a → Shrinks a b → P b)
    (env : RolloutEnv) (ids : JobIDs) (d image : String) (h : P w) :
    SafeCompletion (fun r w => (∃ j, r = some j) ∧ P w)
      (queueFirmwareDownload env .wave ids d image) w := by
  refine (safeCompletion_perform (by simp) hP h).bind ?_
  rintro (_ | _ | device) w₁ ⟨hallowed, h₁⟩
  · cases hallowed
  · cases hallowed
  · change firmwareProfileAllowsDownload device at hallowed
    dsimp only
    rw [if_pos hallowed]
    refine (safeCompletion_perform (by simp) hP h₁).bind ?_
    rintro (_ | img) w₂ ⟨himg, h₂⟩
    · cases himg
    · refine (safeCompletion_perform (by simp) hP h₂).bind ?_
      rintro (_ | key) w₃ ⟨hkey, h₃⟩
      · cases hkey
      · exact ⟨⟨_, rfl⟩, h₃⟩

/-- The eligible devices are among those that are left to do. -/
def LeftToDo (rest : List (String × Nat)) (w : RolloutWorld) : Prop :=
  ∀ e ∈ w.devices.eligible, e ∈ rest.map (·.1)

/-- A device that is marked is not left to do, whatever others do meanwhile. -/
theorem safeCompletion_dispatchDevice (ro : Rollout) (ids : JobIDs) (d : String × Nat)
    (rest : List (String × Nat)) (w : RolloutWorld) (h : LeftToDo (d :: rest) w) :
    SafeCompletion (fun _ w => LeftToDo rest w) (dispatchDevice env ro ids d.1) w := by
  refine (safeCompletion_queueFirmwareDownload (fun h hrely e he => h e (hrely e he)) env ids d.1 _
    h).bind ?_
  rintro _ w₁ ⟨⟨j, rfl⟩, h₁⟩
  have hmark : SafeCompletion (fun _ w => LeftToDo rest w)
      (perform (markDispatched d.1 j)) w₁ := by
    intro w' c hrely hG
    refine ⟨nofun, fun e he => ?_⟩
    have hok : c.queue.fails = false := by
      cases hfails : c.queue.fails with
      | false => rfl
      | true => simp [RolloutStmt.succeeds, fire, RolloutStmt.exec, hfails] at hG
    simp only [RolloutStmt.exec, hok] at he
    obtain ⟨helig, hne⟩ := mem_eligible_mark.mp he
    exact (mem_cons.mp (h₁ e (hrely e helig))).resolve_left hne
  exact hmark.bind fun _ _ h₂ => h₂

theorem safeCompletion_setStatus {status : RolloutStatus}
    (h : status = .completed → w.devices.eligible = []) :
    SafeCompletion (fun _ _ => True) (perform (setStatus status)) w := by
  refine fun w' c hrely _ => ⟨fun heq => ?_, trivial⟩
  have hnil := h (by injection heq)
  rw [eq_nil_iff_forall_not_mem] at hnil ⊢
  exact fun d hd => hnil d (hrely d hd)

theorem safeCompletion_of_all {α : Type} {Q : α → Prop} {p : RolloutProg α}
    (hp : p.All (fun s r => s.succeeds r) (· ≠ .setStatus .completed) Q) (w : RolloutWorld) :
    SafeCompletion (fun a _ => Q a) p w :=
  .of_all (fun _ _ _ hs hG => ⟨hG, fun heq => absurd heq hs⟩) hp w

theorem all_dispatchDevice {R : (s : RolloutStmt) → s.Res → Prop} (ro : Rollout) (ids : JobIDs)
    (d : String) :
    (dispatchDevice env ro ids d).Issues R (· ≠ .setStatus .completed) := by
  refine (all_queueFirmwareDownload env ids d _ (by simp) (by simp) (by simp)).bind
    fun j _ => ?_
  cases j with
  | none => trivial
  | some j =>
    exact (all_perform (s := markDispatched d j) (by simp)).bind
      fun _ _ => trivial

theorem safeCompletion_dispatchWave (ro : Rollout) (isCanaryStart : Bool) {eligible : List String}
    (total : Nat) (h : ∀ d ∈ w.devices.eligible, d ∈ eligible) :
    SafeCompletion (fun _ _ => True) (dispatchWave env ro isCanaryStart eligible total) w := by
  unfold dispatchWave
  generalize hbatch : eligible.take (waveSize total ro.canaryPercentage) = batch
  by_cases hfinal : batch.length = eligible.length
  · -- The last wave: its batch is all that was eligible.
    have hall : batch = eligible := by
      rw [← hbatch] at hfinal ⊢
      rw [length_take] at hfinal
      exact take_of_length_le (by omega)
    have hdo : LeftToDo batch.zipIdx w := by
      intro e he
      rw [hall, zipIdx_map_fst]
      exact h e he
    refine (collect
      (fun d rest w h => safeCompletion_dispatchDevice env ro _ d rest w h) hdo).bind ?_
    intro marks w₁ h₁
    have hnil : w₁.devices.eligible = [] := by
      rw [eq_nil_iff_forall_not_mem]
      intro e he
      have := h₁ e he
      simp at this
    split <;> exact (safeCompletion_setStatus fun _ => hnil).bind
      fun _ _ _ => trivial
  · refine (safeCompletion_of_all (all_collect fun d _ => all_dispatchDevice env ro _ d.1) w).bind ?_
    intro marks w₁ _
    split
    · exact (safeCompletion_setStatus (by simp)).bind
        fun _ _ _ => trivial
    · trivial

theorem mem_eligible_of_read {l : List String}
    (h : (RolloutStmt.exec .eligibleDeviceIDs c w).1 = some l) : l.Perm w.devices.eligible := by
  change (if c.queue.fails then none else some (if _ then c.order else _)) = some l at h
  split at h
  · cases h
  · cases h
    split
    next hperm =>
      exact isPerm_iff.mp hperm
    · exact List.Perm.refl _

theorem safeCompletion_dispatchEligible (ro : Rollout) (isCanaryStart : Bool) (w : RolloutWorld) :
    SafeCompletion (fun _ _ => True) (dispatchEligible env ro isCanaryStart) w := by
  have hread : SafeCompletion (fun r w => ∀ l, r = some l → ∀ d ∈ w.devices.eligible, d ∈ l)
      (perform eligibleDeviceIDs) w := by
    intro w' c hrely hG
    refine ⟨nofun, fun l hl d hd => ?_⟩
    exact (mem_eligible_of_read hl).mem_iff.mpr hd
  refine bind hread ?_
  intro r w₁ h₁
  rcases r with _ | _ | ⟨d, ds⟩
  · trivial
  · dsimp only
    split
    · trivial
    · refine (safeCompletion_setStatus fun _ => ?_).bind
        fun _ _ _ => trivial
      rw [eq_nil_iff_forall_not_mem]
      exact fun d hd => by cases h₁ [] rfl d hd
  · refine (safeCompletion_perform (s := totalDevices)
      (by simp) (P := fun w => ∀ e ∈ w.devices.eligible, e ∈ d :: ds)
      (fun h hrely e he => h e (hrely e he)) (h₁ _ rfl)).bind ?_
    rintro total w₂ ⟨_, h₂⟩
    cases total with
    | none => trivial
    | some total => exact safeCompletion_dispatchWave env ro isCanaryStart total h₂

theorem safeCompletion_dispatchRolloutBatch (isCanaryStart : Bool) (w : RolloutWorld) :
    SafeCompletion (fun _ _ => True) (dispatchRolloutBatch env isCanaryStart) w := by
  refine (safeCompletion_of_all (all_scopedRollout
    (P := fun _ => True) (by simp) (by simp) fun _ _ _ _ => trivial) w).bind ?_
  intro r w₁ _
  cases r with
  | error reply => trivial
  | ok ro =>
    dsimp only
    repeat' split
    all_goals try trivial
    · exact safeCompletion_dispatchEligible env ro true w₁
    · refine (safeCompletion_of_all
        ((checks_failureGate env ro).mono_stmt (by rintro _ h rfl; cases h)) w₁).bind ?_
      intro reply w₂ _
      cases reply with
      | some reply => trivial
      | none => exact safeCompletion_dispatchEligible env ro false w₂

theorem stmt_of_completed (s : RolloutStmt) (c : RolloutChoice) (w : RolloutWorld)
    (hpost : (s.exec c w).2.rollout.status = .completed) (hpre : w.rollout.status ≠ .completed) :
    s = .setStatus .completed ∧ (s.exec c w).2.devices = w.devices := by
  cases s with
  | setStatus status =>
    unfold RolloutStmt.exec at hpost ⊢
    dsimp only at hpost ⊢
    split at hpost
    · exact absurd hpost hpre
    · change status = .completed at hpost
      refine ⟨by rw [hpost], ?_⟩
      split <;> rfl
  | setRollbackDispatched | markDispatched =>
    unfold RolloutStmt.exec at hpost
    dsimp only at hpost
    split at hpost <;> exact absurd hpost hpre
  | _ => exact absurd hpost hpre

theorem rollout_completed (w : RolloutWorld)
    (hsucceed : ∀ ev ∈ rolloutTrace as w, ev.stmt.succeeds ev.res) :
    ∀ ev ∈ rolloutTrace as w, ev.pre.rollout.status ≠ .completed →
      ev.post.rollout.status = .completed → ev.post.devices.eligible = [] := by
  intro ev hev hpre hpost
  have hwell : CompletesWell ev := by
    refine run_guarded (fun _ => Shrinks.refl) (fun _ => Shrinks.trans) (by simp) ?_
      (undisturbed_of_steps Shrinks.refl Shrinks.trans ?_ hsucceed) hsucceed ev hev
    · intro t _ st
      cases t with
      | start env =>
        exact (safeCompletion_dispatchRolloutBatch env true st).bind
          fun _ _ _ => trivial
      | advance env =>
        exact (safeCompletion_dispatchRolloutBatch env false st).bind
          fun _ _ _ => trivial
    · intro ev hlegal _
      obtain ⟨s, c, st, rfl⟩ := hlegal.eq_fire
      exact exec_shrinks s c st
  obtain ⟨s, c, st, rfl⟩ := (run_legal as _ ev hev).eq_fire
  obtain ⟨hs, hdevices⟩ := stmt_of_completed s c st hpost hpre
  show (s.exec c st).2.devices.eligible = []
  rw [hdevices]
  exact hwell hs

/-! ### One job a device -/

/-- The mark of a device succeeds. -/
def RolloutStmt.markSucceeds : (s : RolloutStmt) → s.Res → Bool
  | .markDispatched .., r => Option.isSome r
  | _, _ => true

/-- Nobody was sent the image twice, and no eligible device was sent it. -/
structure SentOnce (image : String) (w : RolloutWorld) : Prop where
  sends : w.rollout.firmwareImageID = image
  rollback : w.rollout.rollbackFirmwareImageID ≠ some image
  once : w.sent.Nodup
  unsent : ∀ d ∈ w.devices.eligible, d ∉ w.sent

/-- No device was sent the image twice. -/
def NoSecondJob (ev : RolloutEvent) : Prop :=
  ev.post.sent.Nodup

abbrev SafeOnce {α : Type} (Q : α → RolloutWorld → Prop) (p : RolloutProg α)
    (w : RolloutWorld) : Prop :=
  p.Guarded RolloutStmt.exec (fun _ => Eq) (fun ev => ev.stmt.markSucceeds ev.res) NoSecondJob Q w

/-- What the rollout that is read has in common with the one that is there. -/
def RolloutStmt.ReadsImage (image : String) : (s : RolloutStmt) → s.Res → Prop
  | .byID, r => ∀ ro, r = some ro →
      ro.firmwareImageID = image ∧ ro.rollbackFirmwareImageID ≠ some image
  | _, _ => True

theorem sentOnce_checks (hs : s.Checks rollback) (hrollback : rollback ≠ some image)
    (h : SentOnce image w) :
    s.ReadsImage image (s.exec c w).1 ∧ SentOnce image (s.exec c w).2 := by
  cases s with
  | byID =>
    refine ⟨fun ro hro => ?_, h⟩
    cases (Option.ite_none_left_eq_some.mp hro).2
    exact ⟨h.sends, h.rollback⟩
  | createJob purpose spec payload =>
    obtain ⟨_, image', rfl, hpayload⟩ := hs
    have hsent : payload.sendsImage w.rollout.firmwareImageID = false := by
      rw [hpayload, h.sends]
      simpa using hrollback
    refine ⟨trivial, h.sends, h.rollback, ?_, ?_⟩
    · simpa [RolloutStmt.exec, hsent] using h.once
    · simpa [RolloutStmt.exec, hsent] using h.unsent
  | setStatus | setRollbackDispatched =>
    refine ⟨trivial, ?_⟩
    unfold RolloutStmt.exec
    dsimp only
    split
    · exact h
    · exact ⟨h.sends, h.rollback, h.once, h.unsent⟩
  | markDispatched => exact hs.elim
  | _ => exact ⟨trivial, h⟩

theorem safeOnce_of_checks {α : Type} {Q : α → Prop} {p : RolloutProg α}
    (hrollback : rollback ≠ some image)
    (hp : p.All (ReadsImage image) (Checks rollback) Q)
    (h : SentOnce image w) : SafeOnce (fun a w => Q a ∧ SentOnce image w) p w := by
  refine of_all_kept (fun ha hab => hab ▸ ha) ?_ hp h
  intro s c w hs hw _
  obtain ⟨hread, hpost⟩ := sentOnce_checks (c := c) hs hrollback hw
  exact ⟨hread, hpost.once, hpost⟩

/-- The devices left to do are eligible, each once. -/
structure WaveLeft (image : String) (rest : List String) (w : RolloutWorld) : Prop
    extends SentOnce image w where
  nodup : rest.Nodup
  eligible : ∀ d ∈ rest, d ∈ w.devices.eligible

/-- The device has its job and is about to be marked. -/
structure AwaitsMark (image d : String) (rest : List String) (w : RolloutWorld) : Prop where
  sends : w.rollout.firmwareImageID = image
  rollback : w.rollout.rollbackFirmwareImageID ≠ some image
  once : w.sent.Nodup
  unsent : ∀ e ∈ w.devices.eligible, e ≠ d → e ∉ w.sent
  nodup : (d :: rest).Nodup
  eligible : ∀ e ∈ rest, e ∈ w.devices.eligible

theorem AwaitsMark.marked {j : String} {rest : List String} (h : AwaitsMark image d rest w)
    (hmarked : Option.isSome (RolloutStmt.exec (.markDispatched d j) c w).1) :
    WaveLeft image rest (RolloutStmt.exec (.markDispatched d j) c w).2 := by
  have hdevices : (RolloutStmt.exec (.markDispatched d j) c w).2 =
      { w with devices := w.devices.mark d j (w.queue.tick c.queue).now } := by
    unfold RolloutStmt.exec at hmarked ⊢
    by_cases hfails : c.queue.fails
    · simp only [hfails] at hmarked
      cases hmarked
    · simp only [hfails]
      rfl
  rw [hdevices]
  refine ⟨⟨h.sends, h.rollback, h.once, ?_⟩, h.nodup.of_cons, ?_⟩
  · intro e he
    obtain ⟨he, hne⟩ := mem_eligible_mark.mp he
    exact h.unsent e he hne
  · intro e he
    refine mem_eligible_mark.mpr ⟨h.eligible e he, ?_⟩
    rintro rfl
    exact (nodup_cons.mp h.nodup).1 he

theorem safeOnce_perform_read (hs : ∀ c w, (s.exec c w).2 = w) (hP : ∀ w, P w → w.sent.Nodup)
    (h : P w) :
    SafeOnce (fun _ w => P w) (perform s) w := by
  rintro _ c rfl _
  have hpost : P (s.exec c w).2 := by rw [hs c w]; exact h
  exact ⟨hP _ hpost, hpost⟩

/-- Queueing the next device fails, or leaves it to be marked. -/
abbrev Queued (image d : String) (rest : List String) (r : Option String) (w : RolloutWorld) : Prop :=
  (r = none ∧ WaveLeft image (d :: rest) w) ∨ (r ≠ none ∧ AwaitsMark image d rest w)

theorem safeOnce_createJob {rest : List String} {spec : JobSpec} {payload : Payload}
    (h : WaveLeft image (d :: rest) w) (hspec : spec.deviceID = d)
    (hpayload : payload.sendsImage image) :
    SafeOnce (Queued image d rest) (perform (RolloutStmt.createJob .wave spec payload)) w := by
  rintro _ c rfl _
  have hd : d ∉ w.sent := h.unsent d (h.eligible d mem_cons_self)
  simp only [NoSecondJob, fire, RolloutStmt.exec, h.sends, hpayload, hspec]
  obtain ⟨r, queue⟩ := Acs.exec (.insert spec payload) c.queue w.queue
  cases r with
  | none => exact ⟨h.once, .inl ⟨rfl, ⟨h.sends, h.rollback, h.once, h.unsent⟩, h.nodup, h.eligible⟩⟩
  | some key =>
    have honce : (w.sent ++ [d]).Nodup :=
      h.once.append (nodup_singleton d) (by simpa using hd)
    refine ⟨honce, .inr ⟨Option.some_ne_none _, h.sends, h.rollback, honce, ?_, h.nodup, ?_⟩⟩
    · intro e he hne
      show e ∉ w.sent ++ [d]
      rw [mem_append, mem_singleton, not_or]
      exact ⟨h.unsent e he, hne⟩
    · exact fun e he => h.eligible e (mem_cons_of_mem _ he)

theorem safeOnce_queueFirmwareDownload (ids : JobIDs) (d : String) (rest : List String)
    (h : WaveLeft image (d :: rest) w) :
    SafeOnce (Queued image d rest) (queueFirmwareDownload env .wave ids d image) w := by
  have hsent : ∀ w, WaveLeft image (d :: rest) w → w.sent.Nodup := fun _ h => h.once
  have hstop : ∀ {w}, WaveLeft image (d :: rest) w →
      SafeOnce (Queued image d rest) (.done none) w :=
    fun h => .inl ⟨rfl, h⟩
  refine (safeOnce_perform_read (fun _ _ => rfl) hsent h).bind ?_
  intro device w₁ h₁
  rcases device with _ | _ | device
  · exact hstop h₁
  · exact hstop h₁
  · dsimp only
    split
    · refine (safeOnce_perform_read (fun _ _ => rfl) hsent h₁).bind ?_
      intro img w₂ h₂
      cases img with
      | none => exact hstop h₂
      | some img =>
        refine (safeOnce_createJob h₂ rfl (by simp [Payload.sendsImage])).bind ?_
        intro key w₃ h₃
        rcases h₃ with ⟨rfl, h₃⟩ | ⟨hsome, h₃⟩
        · exact hstop h₃
        · exact .inr ⟨by simpa using hsome, h₃⟩
    · exact hstop h₁

/-- A device that was queued is marked before the next one. -/
theorem safeOnce_dispatchDevice (hro : ro.firmwareImageID = image) (ids : JobIDs) (d : String)
    (rest : List String) (h : WaveLeft image (d :: rest) w) :
    SafeOnce (fun _ w => WaveLeft image rest w) (dispatchDevice env ro ids d) w := by
  unfold dispatchDevice
  rw [hro]
  refine (safeOnce_queueFirmwareDownload env ids d rest h).bind ?_
  intro j w₁ h₁
  rcases h₁ with ⟨rfl, h₁⟩ | ⟨hsome, h₁⟩
  · exact ⟨h₁.toSentOnce, h₁.nodup.of_cons, fun e he => h₁.eligible e (mem_cons_of_mem _ he)⟩
  · cases j with
    | none => exact absurd rfl hsome
    | some j =>
      have hmark : SafeOnce (fun _ w => WaveLeft image rest w)
          (perform (markDispatched d j)) w₁ := by
        rintro _ c rfl hG
        have hleft := h₁.marked hG
        exact ⟨hleft.once, hleft⟩
      exact hmark.bind fun _ _ h₂ => h₂

theorem safeOnce_setStatus {status : RolloutStatus} (h : SentOnce image w) :
    SafeOnce (fun _ w => SentOnce image w) (perform (setStatus status)) w := by
  rintro _ c rfl _
  have hpost : SentOnce image (RolloutStmt.exec (.setStatus status) c w).2 := by
    unfold RolloutStmt.exec
    dsimp only
    split
    · exact h
    · exact ⟨h.sends, h.rollback, h.once, h.unsent⟩
  exact ⟨hpost.once, hpost⟩

theorem safeOnce_dispatchWave (hro : ro.firmwareImageID = image) (isCanaryStart : Bool)
    {eligible : List String} (total : Nat) (h : WaveLeft image eligible w) :
    SafeOnce (fun _ w => SentOnce image w) (dispatchWave env ro isCanaryStart eligible total) w := by
  unfold dispatchWave
  generalize hbatch : eligible.take (waveSize total ro.canaryPercentage) = batch
  have hsub : batch.Sublist eligible := hbatch ▸ take_sublist _ _
  have hleft : WaveLeft image (batch.zipIdx.map Prod.fst) w := by
    rw [zipIdx_map_fst]
    exact ⟨h.toSentOnce, h.nodup.sublist hsub, fun d hd => h.eligible d (hsub.mem hd)⟩
  refine (collect
    (I := fun rest w => WaveLeft image (rest.map Prod.fst) w)
    (fun d rest w h => safeOnce_dispatchDevice env hro _ d.1 (rest.map Prod.fst) h) hleft).bind ?_
  intro marks w₁ h₁
  repeat' split
  · exact (safeOnce_setStatus h₁.toSentOnce).bind fun _ _ h => h
  · exact (safeOnce_setStatus h₁.toSentOnce).bind fun _ _ h => h
  · exact h₁.toSentOnce

theorem safeOnce_dispatchEligible (hro : ro.firmwareImageID = image) (isCanaryStart : Bool)
    (h : SentOnce image w) :
    SafeOnce (fun _ w => SentOnce image w) (dispatchEligible env ro isCanaryStart) w := by
  have hread : SafeOnce (fun r w => SentOnce image w ∧ ∀ l, r = some l → WaveLeft image l w)
      (perform eligibleDeviceIDs) w := by
    rintro _ c rfl _
    refine ⟨h.once, h, fun l hl => ?_⟩
    have hperm := mem_eligible_of_read hl
    exact ⟨h, hperm.nodup_iff.mpr w.devices.eligible_nodup, fun d hd => hperm.mem_iff.mp hd⟩
  refine bind hread ?_
  rintro r w₁ ⟨h₁, hleft⟩
  rcases r with _ | _ | ⟨d, ds⟩
  · exact h₁
  · dsimp only
    split
    · exact h₁
    · exact (safeOnce_setStatus h₁).bind fun _ _ h => h
  · refine (safeOnce_perform_read (s := totalDevices)
      (fun _ _ => rfl) (fun _ h => h.once) (hleft _ rfl)).bind ?_
    intro total w₂ h₂
    cases total with
    | none => exact h₂.toSentOnce
    | some total => exact safeOnce_dispatchWave env hro isCanaryStart total h₂

theorem safeOnce_dispatchRolloutBatch (isCanaryStart : Bool) (h : SentOnce image w) :
    SafeOnce (fun _ w => SentOnce image w) (dispatchRolloutBatch env isCanaryStart) w := by
  refine (safeOnce_of_checks (by simp)
    (all_scopedRollout (W := Checks none) trivial trivial fun r hr => hr) h).bind ?_
  rintro r w₁ ⟨hr, h₁⟩
  cases r with
  | error reply => exact h₁
  | ok ro =>
    obtain ⟨hro, hrollback⟩ := hr ro rfl
    dsimp only
    repeat' split
    · exact h₁
    · exact h₁
    · exact h₁
    · exact safeOnce_dispatchEligible env hro true h₁
    · refine (safeOnce_of_checks hrollback (checks_failureGate env ro) h₁).bind ?_
      rintro reply w₂ ⟨_, h₂⟩
      cases reply with
      | some reply => exact h₂
      | none => exact safeOnce_dispatchEligible env hro false h₂

theorem rollout_once (hsent : SentOnce w.rollout.firmwareImageID w) (hserial : Serial as)
    (hmarks : ∀ ev ∈ rolloutTrace as w, ev.stmt.markSucceeds ev.res) :
    ∀ ev ∈ rolloutTrace as w, ev.post.sent.Nodup := by
  refine run_serial (J := SentOnce w.rollout.firmwareImageID) hserial hsent ?_ hmarks
  intro t _ st hst
  cases t with
  | start env =>
    exact (safeOnce_dispatchRolloutBatch env true hst).bind
      fun _ _ h => h
  | advance env =>
    exact (safeOnce_dispatchRolloutBatch env false hst).bind
      fun _ _ h => h

/-- **A firmware rollout.**  In every run of start and advance requests, a request queues at
most one wave.  A rollout turns COMPLETED with no device eligible, if no device of the run is
refused its download and no statement that queues or marks one fails.  No device is sent the
image by two jobs, if the requests do not overlap, every mark succeeds, and the rollback is
not to the same image. -/
theorem rollout_promises (as : List RolloutAction) (queue : World) (rollout : Rollout)
    (devices : RolloutDevices) :
    (∀ request ∈ rolloutRequests as (.found queue rollout devices),
      request.countP (fun ev => ev.stmt.queuesWave) ≤
        max 1 (devices.rows.length * rollout.canaryPercentage / 100)) ∧
    ((∀ ev ∈ rolloutTrace as (.found queue rollout devices), ev.stmt.succeeds ev.res) →
      ∀ ev ∈ rolloutTrace as (.found queue rollout devices),
        ev.pre.rollout.status ≠ .completed → ev.post.rollout.status = .completed →
        ev.post.devices.eligible = []) ∧
    (Serial as → rollout.rollbackFirmwareImageID ≠ some rollout.firmwareImageID →
      (∀ ev ∈ rolloutTrace as (.found queue rollout devices), ev.stmt.markSucceeds ev.res) →
      ∀ ev ∈ rolloutTrace as (.found queue rollout devices), ∀ d, ev.post.sent.count d ≤ 1) := by
  refine ⟨rollout_wave_bound as _, rollout_completed as _, ?_⟩
  intro hserial hrollback hmarks ev hev
  exact nodup_iff_count_le_one.mp
    (rollout_once as ⟨rfl, hrollback, devices.dispatched_nodup, fun _ => notMem_dispatched⟩ hserial
      hmarks ev hev)

/-! ### Three runs -/

/-- Two devices, half of them in a wave. -/
def halfRollout : Rollout where
  firmwareImageID := "fw2"
  canaryPercentage := 50
  canary_range := by decide
  maximumFailureRate := 1 / 5

def twoDevices : RolloutDevices where
  rows := [⟨"cpe1", none, none⟩, ⟨"cpe2", none, none⟩]
  keys := by decide

def rolloutEnv (name : String) : RolloutEnv where
  nowMin := 0
  signedFirmwareURL id := "https://acs/firmware/" ++ id
  operator := "alice"
  ids i := (name ++ toString i, "key" ++ name ++ toString i)
  rollbackIDs i := (name ++ "r" ++ toString i, "key" ++ name ++ "r" ++ toString i)

/-- An unscoped operator, and an image; the named devices have a profile that is not qualified. -/
def rolloutSite (unqualified : List String) : RolloutChoice where
  answer
    | .device d => some (some { profileID := if d ∈ unqualified then some "p1" else none })
    | .deviceScope => some none
    | .memberDeviceIDs _ => some []
    | .group _ => some none
    | .names _ => some none
    | .cache _ => some ∅
    | .instances _ _ => none
    | .cellularPaths _ => []
  image _ := some ⟨"fw2.bin", 1⟩

/-- A start and an advance, one after the other. -/
def startThenAdvance (unqualified : List String) : List RolloutAction :=
  [.atomic (.start (rolloutEnv "a")) fun _ => rolloutSite unqualified,
   .atomic (.advance (rolloutEnv "b")) fun _ => rolloutSite unqualified]

/-- Two starts that take turns. -/
def overlappingStarts : List RolloutAction :=
  [.spawn (.start (rolloutEnv "a")), .spawn (.start (rolloutEnv "b"))] ++
    (List.range 18).map fun n => .step (n % 2) (rolloutSite [])

/-- The status, the eligible devices and the devices that were sent the image at the end. -/
def rolloutOutcome (as : List RolloutAction) : Option (RolloutStatus × List String × List String) :=
  (rolloutTrace as (.found World.init halfRollout twoDevices)).getLast?.map fun ev =>
    (ev.post.rollout.status, ev.post.devices.eligible, ev.post.sent)

/-- With both devices qualified, two waves complete the rollout. -/
theorem rollout_promises_twoWaves :
    rolloutOutcome (startThenAdvance []) = some (.completed, [], ["cpe1", "cpe2"]) ∧
    (∀ ev ∈ rolloutTrace (startThenAdvance []) (.found World.init halfRollout twoDevices),
      ev.pre.rollout.status ≠ .completed → ev.post.rollout.status = .completed →
      ev.post.devices.eligible = []) ∧
    ∀ ev ∈ rolloutTrace (startThenAdvance []) (.found World.init halfRollout twoDevices),
      ∀ d, ev.post.sent.count d ≤ 1 := by
  refine ⟨by decide +kernel, (rollout_promises _ _ _ _).2.1 (by decide +kernel),
    (rollout_promises _ _ _ _).2.2 ?_ (by decide) (by decide +kernel)⟩
  simp [Serial, startThenAdvance]

/-- Two starts that overlap send the image to a device twice; and a device whose download is
refused is still eligible when its rollout is COMPLETED. -/
theorem rollout_broken_promises :
    rolloutOutcome overlappingStarts = some (.active, ["cpe2"], ["cpe1", "cpe1"]) ∧
    rolloutOutcome (startThenAdvance ["cpe2"]) = some (.completed, ["cpe2"], ["cpe1"]) := by
  decide +kernel

/-! ### The maintenance window

The window is compared in whole minutes, and `24:00:00`, which a `TIME` column can hold, is no
time to `time.Parse`: a window that begins or ends there is always open. -/

theorem parseTwo_twoDigits : ∀ n < 100, parseTwo (Char.ofNat (48 + n / 10))
    (Char.ofNat (48 + n % 10)) = some n := by
  decide +kernel

theorem parseClock_timeText {t : Nat} (ht : t ≤ 86400) (micros : Bool) :
    parseClock (timeText t micros) = if t < 86400 then some (t / 60) else none := by
  have hhour := parseTwo_twoDigits (t / 3600) (by omega)
  have hminute := parseTwo_twoDigits (t / 60 % 60) (by omega)
  have hsecond := parseTwo_twoDigits (t % 60) (by omega)
  have hfraction : parseClock.isFraction (if micros then ".000000" else "").toList := by
    revert micros
    decide
  simp only [parseClock, timeText, twoDigits, String.toList_append, String.toList_ofList,
    cons_append, nil_append, hhour, hminute, hsecond, hfraction]
  by_cases hbefore : t < 86400
  · rw [if_pos ⟨by omega, by omega, by omega, trivial⟩, if_pos hbefore]
    congr 1
    omega
  · rw [if_neg fun h => hbefore (by omega), if_neg hbefore]

/-- The time of day lies in the half-open window, which may go past midnight. -/
def InWindow (start stop t : Nat) : Prop :=
  if start ≤ stop then start ≤ t ∧ t < stop else start ≤ t ∨ t < stop

/-- The rollout with this window, as it is read back from the database. -/
def Rollout.windowed (ro : Rollout) (start stop : Nat) (micros : Bool) : Rollout :=
  { ro with
    maintenanceWindowStartUTC := timeText start micros
    maintenanceWindowEndUTC := timeText stop micros }

/-- The environment of a request at this time of day, in seconds. -/
def RolloutEnv.atTime (env : RolloutEnv) (t : Nat) : RolloutEnv :=
  { env with nowMin := t / 60 }

theorem inMaintenanceWindow_windowed (env : RolloutEnv) (ro : Rollout) (micros : Bool)
    {start stop : Nat} (hstart : start ≤ 86400) (hstop : stop ≤ 86400) (t : Nat) :
    inMaintenanceWindow (env.atTime t) (ro.windowed start stop micros) = true ↔
      (start < 86400 ∧ stop < 86400 → InWindow (start / 60) (stop / 60) (t / 60)) := by
  simp only [inMaintenanceWindow, Rollout.windowed, RolloutEnv.atTime, InWindow,
    parseClock_timeText hstart, parseClock_timeText hstop]
  by_cases hearly : start < 86400 <;> by_cases hearly' : stop < 86400 <;>
    simp only [hearly, hearly', if_true, if_false]
  · simp only [and_self, forall_const]
    split_ifs
    · exact (Bool.and_eq_true_iff).trans (and_congr decide_eq_true_iff decide_eq_true_iff)
    · exact (Bool.or_eq_true_iff).trans (or_congr decide_eq_true_iff decide_eq_true_iff)
  all_goals simp

/-- Cutting off the seconds changes no window that is empty or has whole minutes, and every
other one. -/
theorem inWindow_minutes_iff {start stop : Nat} (hstart : start < 86400) (hstop : stop < 86400) :
    (∀ t < 86400, InWindow (start / 60) (stop / 60) (t / 60) ↔ InWindow start stop t) ↔
      start = stop ∨ start % 60 = 0 ∧ stop % 60 = 0 := by
  unfold InWindow
  constructor
  · intro h
    -- The ends of the window and the minutes they are in tell the two apart.
    have h1 := h start hstart
    have h2 := h (start / 60 * 60) (by omega)
    have h3 := h (stop / 60 * 60) (by omega)
    split_ifs at h1 h2 h3 <;> omega
  · intro h t _
    split_ifs <;> omega

/-- **The maintenance window** is the half-open interval at every time of day exactly if it is
empty, or begins and ends at whole minutes before midnight, or is the whole day. -/
theorem inMaintenanceWindow_iff (env : RolloutEnv) (ro : Rollout) (micros : Bool)
    (start stop : Fin 86401) :
    (∀ t < 86400, inMaintenanceWindow (env.atTime t) (ro.windowed start stop micros) = true ↔
      InWindow start stop t) ↔
      start.val < 86400 ∧ stop.val < 86400 ∧
          (start = stop ∨ start.val % 60 = 0 ∧ stop.val % 60 = 0) ∨
        start.val = 0 ∧ stop.val = 86400 := by
  have hstart := Nat.le_of_lt_succ start.isLt
  have hstop := Nat.le_of_lt_succ stop.isLt
  simp only [inMaintenanceWindow_windowed env ro micros hstart hstop, Fin.ext_iff]
  by_cases hearly : start.val < 86400 ∧ stop.val < 86400
  · have hnot : ¬ (start.val = 0 ∧ stop.val = 86400) := by omega
    simp only [hearly, forall_const, inWindow_minutes_iff hearly.1 hearly.2, hnot, true_and,
      or_false, and_self]
  · -- A window that ends or begins at midnight is always open.
    simp only [hearly, false_imp_iff, true_iff, InWindow]
    constructor
    · intro h
      have h0 := h 0 (by omega)
      have h1 := h 86399 (by omega)
      have h2 := h (stop.val % 86400) (by omega)
      split_ifs at h0 h1 h2 <;> omega
    · intro h t ht
      split_ifs <;> omega

/-- From 22:00 to 24:00 the window is open at noon, and from 10:00:30 to 11:00 at 10:00. -/
theorem inMaintenanceWindow_outside :
    (inMaintenanceWindow ((rolloutEnv "a").atTime 43200)
        (halfRollout.windowed 79200 86400 false) = true ∧ ¬ InWindow 79200 86400 43200) ∧
    inMaintenanceWindow ((rolloutEnv "a").atTime 36000)
        (halfRollout.windowed 36030 39600 false) = true ∧ ¬ InWindow 36030 39600 36000 := by
  unfold InWindow
  decide +kernel

end Acs
