/-
The discovery that a change of firmware calls for.

`Upsert` that finds a new software version marks the discovered tree as stale and queues a
fresh discovery in the same transaction, unless a discovery of the device is active.  If
none is, the discovery it queues is there from then on: no statement removes a job or
turns a walk into the merge of a subtree, and a walk is queued, sent or finished.  If one
is active, nothing is queued, and the one that is active may be no more than the merge of a
subtree, or a walk that then fails.
-/
import Acs.Proofs.MixedFirmware

namespace Acs

open SiteEvent Site Option

/-- The event is an `Upsert` that saw the software version of the device change. -/
def SiteEvent.seesChange (d : String) : SiteEvent → Bool
  | ⟨.upsert _ d' values, true, pre, _⟩ =>
    d' = d && (firmwareChange (pre.cache d) (redactSecrets values)).isSome
  | _ => false

/-- While the tree is stale, a full discovery is active, or one that was not there before
has ended. -/
def Site.Rediscovers (before st : Site) (d : String) : Prop :=
  (st.tree d).any (·.stale) = true →
    ∃ row ∈ st.queue.jobs.rows, row.deviceID = d ∧ row.isFullDiscovery = true ∧
      (row.status = .queued ∨ row.status = .rpcSent ∨
        row.status.finished = true ∧ before.queue.jobs.find row.id = none)

instance (before st : Site) (d : String) : Decidable (Rediscovers before st d) := by
  unfold Rediscovers
  infer_instance

theorem isFullDiscovery_of_aim {row : Job} {d firmware : String}
    (h : row.aim = some ⟨d, firmware, false⟩) :
    row.type = .parameterDiscovery ∧ row.deviceID = d ∧ row.isFullDiscovery := by
  unfold Job.aim at h
  split at h
  next htype =>
    obtain ⟨p, hp, haim⟩ := map_eq_some_iff.mp h
    simp only [Aim.mk.injEq] at haim
    exact ⟨htype, haim.1, by simp [Job.isFullDiscovery, htype, hp, haim.2.2]⟩
  · cases h

theorem rediscovers_of_aim {before st : Site} (hsound : st.Sound) {id d firmware : String}
    (hnew : before.queue.jobs.find id = none) (haim : st.aim id = some ⟨d, firmware, false⟩) :
    Rediscovers before st d := by
  intro _
  obtain ⟨row, hrow, hrowaim⟩ := bind_eq_some_iff.mp haim
  obtain ⟨htype, hdevice, hfull⟩ := isFullDiscovery_of_aim hrowaim
  obtain ⟨hmem, rfl⟩ := JobTable.find_eq_some hrow
  have hstatus := hsound.statuses hrow htype
  simp only [Status.walking, Bool.or_eq_true, decide_eq_true_eq] at hstatus
  refine ⟨row, hmem, hdevice, hfull, ?_⟩
  rcases hstatus with (hqueued | hsent) | hfinished
  · exact .inl hqueued
  · exact .inr (.inl hsent)
  · exact .inr (.inr ⟨hfinished, hnew⟩)

theorem insertUnlessActive_new {w w' : World} {job : JobSpec × Payload}
    (h : w.insertUnlessActive job = some w') (hidle : w.discoveryActive job.1.deviceID = false) :
    w.jobs.find job.1.id = none ∧ w'.jobs.find job.1.id = some (newJob job.1 job.2 w.now) := by
  unfold World.insertUnlessActive at h
  rw [hidle] at h
  obtain ⟨jobs, hinsert, rfl⟩ := map_eq_some_iff.mp h
  refine ⟨JobTable.find_none_of_insert hinsert rfl, ?_⟩
  rw [JobTable.find_insert hinsert]
  exact if_pos rfl

theorem firmwareChange_empty {current values : StringMap String}
    (h : values.keys.isEmpty) : firmwareChange current (redactSecrets values) = none := by
  have hlookup : ∀ path, (redactSecrets values).lookup path = none := by
    intro path
    have hnone : values.lookup path = none := by
      rw [AList.lookup_eq_none, AList.mem_keys, List.isEmpty_iff.mp h]
      exact List.not_mem_nil
    rw [redactSecrets, Assoc.lookup_mapValues, hnone]
    rfl
  simp [firmwareChange, versionPaths, hlookup]

theorem upsert_of_seesChange {ids : String × String} {d d' : String} {values : StringMap String}
    {c : Choice} {st : Site}
    (h : seesChange d (Pool.fire SiteStmt.exec (.upsert ids d' values) c st)) :
    d' = d ∧ (firmwareChange (st.cache d) (redactSecrets values)).isSome ∧
      (st.tick c).upsert ids d' (redactSecrets values) =
        some (SiteStmt.exec (.upsert ids d' values) c st).2 := by
  change seesChange d ⟨.upsert ids d' values,
    (SiteStmt.exec (.upsert ids d' values) c st).1, st, _⟩ at h
  simp only [SiteStmt.exec, SiteStmt.effect] at h ⊢
  split at h
  next hempty =>
    simp [seesChange, firmwareChange_empty hempty] at h
  next hvalues =>
    rw [if_neg hvalues]
    split at h
    · cases h
    next st' hupsert =>
      simp only [seesChange, Bool.and_eq_true, decide_eq_true_eq] at h
      refine ⟨h.1, h.2, ?_⟩
      split at hupsert
      · cases hupsert
      · exact hupsert

theorem queued_by_change {ev : SiteEvent} (hlegal : ev.Legal SiteStmt.exec) {d : String}
    (hchange : ev.seesChange d) (hidle : ev.pre.queue.discoveryActive d = false) :
    ∃ id firmware, ev.pre.queue.jobs.find id = none ∧
      ev.post.aim id = some ⟨d, firmware, false⟩ := by
  obtain ⟨s, c, st, rfl⟩ := hlegal.eq_fire
  cases s with
  | upsert ids d' values =>
    obtain ⟨rfl, hsome, hupsert⟩ := upsert_of_seesChange hchange
    show ∃ id firmware, st.queue.jobs.find id = none ∧
      (SiteStmt.exec (.upsert ids d' values) c st).2.aim id = _
    generalize (SiteStmt.exec (.upsert ids d' values) c st).2 = st' at hupsert ⊢
    obtain ⟨change, hfirmware⟩ := isSome_iff_exists.mp hsome
    unfold upsert at hupsert
    split at hupsert
    · cases hupsert
    · rw [show firmwareChange ((st.tick c).cache d') (redactSecrets values) = some change from
        hfirmware] at hupsert
      obtain ⟨queue, hinsert, rfl⟩ := map_eq_some_iff.mp hupsert
      obtain ⟨hnew, hrow⟩ := insertUnlessActive_new hinsert hidle
      have hrow : queue.jobs.find ids.1 = some _ := hrow
      refine ⟨ids.1, change.2.2, hnew, ?_⟩
      show (queue.jobs.find ids.1).bind Job.aim = _
      rw [hrow]
      rfl
  | _ => cases hchange

/-- **After a change of firmware there is a full discovery, or there was one since**, if no
discovery of the device was active at the change. -/
theorem rediscovery_after_change {devices : DeviceTable} {as : List SiteAction}
    {before after : List SiteEvent} {ev : SiteEvent}
    (hrun : siteTrace devices as = before ++ ev :: after) {d : String}
    (hchange : ev.seesChange d = true) (hidle : ev.pre.queue.discoveryActive d = false) :
    ∀ e ∈ ev :: after, Rediscovers ev.pre e.post d := by
  have hev : ev ∈ siteTrace devices as := by rw [hrun]; simp
  obtain ⟨t, hknown⟩ := siteTrace_known hev
  obtain ⟨id, firmware, hnew, haim⟩ := queued_by_change hknown.legal hchange hidle
  obtain ⟨_, _, hrest⟩ := (hrun ▸ siteTrace_chain devices as).split
  cases hrest with
  | cons hafter =>
    -- the discovery stays what it is
    have hkept := (hafter.keeps (I := fun st => st.aim id = some ⟨d, firmware, false⟩)
      (fun e he hpre => ?_) haim).2
    · intro e he
      rcases List.mem_cons.mp he with rfl | he
      · exact rediscovers_of_aim hknown.post hnew haim
      · have hmem : e ∈ siteTrace devices as := by rw [hrun]; simp [he]
        obtain ⟨t', hknown'⟩ := siteTrace_known hmem
        exact rediscovers_of_aim hknown'.post hnew (hkept e he).2
    · have hmem : e ∈ siteTrace devices as := by rw [hrun]; simp [he]
      obtain ⟨t', hknown'⟩ := siteTrace_known hmem
      exact hknown'.grows.aim hpre

/-! ### Upgrades -/

/-- The firmware is upgraded when the walk is done. -/
def upgradedWhenIdle : List SiteAction :=
  steadyWalk ++ [reportsVersion "2.0"]

theorem rediscovery_after_change_upgradedWhenIdle :
    ∃ ev ∈ siteTrace oneDevice upgradedWhenIdle, ev.seesChange "cpe1" = true ∧
      ev.pre.queue.discoveryActive "cpe1" = false ∧
      (ev.post.tree "cpe1").any (·.stale) = true ∧ Rediscovers ev.pre ev.post "cpe1" := by
  have hchange : ∃ ev ∈ siteTrace oneDevice upgradedWhenIdle, ev.seesChange "cpe1" = true ∧
      ev.pre.queue.discoveryActive "cpe1" = false ∧
      (ev.post.tree "cpe1").any (·.stale) = true := by
    decide +kernel
  obtain ⟨ev, hev, hsees, hidle, hstale⟩ := hchange
  obtain ⟨before, after, hrun⟩ := List.append_of_mem hev
  exact ⟨ev, hev, hsees, hidle, hstale,
    rediscovery_after_change hrun hsees hidle ev List.mem_cons_self⟩

/-- The firmware is upgraded while the subtree of a new XMPP connection is to be merged. -/
def upgradedDuringMerge : List SiteAction :=
  steadyWalk ++ [.atomic (.discoverSubtree {} "cpe1" "Device.XMPP.") fun _ => {},
    reportsVersion "2.0"]

/-- The firmware is upgraded while a walk that an operator asked for is queued, and the
agent refuses its first request. -/
def upgradedBeforeRefusal : List SiteAction :=
  steadyWalk ++ [.atomic (.discover {} "cpe1" "operator" true) fun _ => {}, reportsVersion "2.0",
    .atomic (.tryDispatch [{ conn := some ⟨1, "agent"⟩, msgID := "m3" }] "cpe1") fun _ => {},
    .atomic (.response {} [] "agent"
      { msgID := "m3", msgType := "ERROR", body := .error ⟨7000, "message failed"⟩ }) fun _ => {}]

/-- The run sees a change, and ends with a stale tree that nothing renews. -/
def leavesStale (as : List SiteAction) : Prop :=
  ∃ ev ∈ siteTrace oneDevice as, ev.seesChange "cpe1" = true ∧
    ¬ Rediscovers ev.pre (siteEnd oneDevice as) "cpe1"

instance (as : List SiteAction) : Decidable (leavesStale as) := by
  unfold leavesStale
  infer_instance

/-- **Two upgrades without a rediscovery.**  The insert is suppressed by the merge of a
subtree, and by a walk that then fails. -/
theorem change_without_rediscovery :
    leavesStale upgradedDuringMerge ∧ leavesStale upgradedBeforeRefusal := by
  decide +kernel

end Acs
