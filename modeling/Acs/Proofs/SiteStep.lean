/-
What one statement of the site can do.

The statements of the queue were taken apart in `Acs.Proofs.RowStep`; here are the others.
Two of them reach the queue, and all they do there is insert a discovery (`siteRowStep`).
The rest is about the tables of a device: each statement changes those of the device it
names, and the natural key of a device never changes.
-/
import Acs.Site.System
import Acs.Proofs.RowStep

namespace Acs

open DeviceTable SiteStmt

/-! ### Inserting a discovery -/

section

variable {w w' : World} {job : JobSpec × Payload} (h : w.insertUnlessActive job = some w')

include h

theorem insertUnlessActive_find (id : String) : w'.jobs.find id = w.jobs.find id ∨
      w.jobs.find id = none ∧ w'.jobs.find id = some (newJob job.1 job.2 w.now) := by
  unfold World.insertUnlessActive at h
  split at h
  · cases h
    exact .inl rfl
  · obtain ⟨jobs, hinsert, rfl⟩ := Option.map_eq_some_iff.mp h
    rw [JobTable.find_insert hinsert]
    by_cases hid : id = (newJob job.1 job.2 w.now).id
    · rw [if_pos hid]
      exact .inr ⟨JobTable.find_none_of_insert hinsert hid, rfl⟩
    · rw [if_neg hid]
      exact .inl rfl

theorem insertUnlessActive_frame : w'.sessions = w.sessions ∧ w'.pending = w.pending := by
  unfold World.insertUnlessActive at h
  split at h
  · cases h
    exact ⟨rfl, rfl⟩
  · obtain ⟨jobs, _, rfl⟩ := Option.map_eq_some_iff.mp h
    exact ⟨rfl, rfl⟩

end

/-! ### Writing values -/

/-- What `Upsert` leaves behind when it goes through. -/
structure Upserted (ids : String × String) (d : String) (values : StringMap String)
    (st st' : Site) : Prop where
  queue : st'.queue = st.queue ∨
    ∃ change, st.queue.insertUnlessActive (firmwareDiscovery ids d change) = some st'.queue
  devices : st'.devices = st.devices
  received : st'.received = st.received
  cache : st'.cache = Function.update st.cache d (values ∪ st.cache d)
  tree : ∀ d', d' ≠ d → st'.tree d' = st.tree d'

variable {st st' : Site} {s : SiteStmt} {row : Device}

theorem Site.upserted {ids : String × String} {d : String} {values : StringMap String}
    (h : st.upsert ids d values = some st') :
    Upserted ids d values st st' := by
  unfold Site.upsert at h
  split at h
  · cases h
  · split at h
    · cases h
      exact ⟨.inl rfl, rfl, rfl, rfl, fun _ _ => rfl⟩
    next change _ =>
      obtain ⟨queue, hqueue, rfl⟩ := Option.map_eq_some_iff.mp h
      refine ⟨.inr ⟨change, hqueue⟩, rfl, rfl, rfl, ?_⟩
      intro d' hd'
      exact Function.update_of_ne hd' _ _

/-! ### The cases of a step -/

/-- Everything one statement of the site can do.  The site `st` is the one it finds, its
clock moved on already. -/
inductive SiteChange (st : Site) : SiteStmt → Site → Prop
  | nothing (s : SiteStmt) : SiteChange st s st
  | queue (q : Stmt) (c : Choice) :
      SiteChange st (.queue q) { st with queue := (q.effect st.queue c).2 }
  | newDevice {freshID key : String} {devices : DeviceTable}
      (h : st.devices.insert { id := freshID, ouiSerial := key } = some devices) :
      SiteChange st (.upsertFromInform freshID key) { st with devices := devices }
  | root (d : String) (root : DataModelRoot) :
      SiteChange st (.updateDataModelRoot d root) { st with devices := st.devices.setRoot d root }
  | values {ids : String × String} {d : String} {values : StringMap String} {st' : Site}
      (h : Upserted ids d (redactSecrets values) st st') : SiteChange st (.upsert ids d values) st'
  | rediscovery {ids : String × String} {d : String} {queue : World}
      (h : st.queue.insertUnlessActive (onboardingDiscovery ids d (st.version d)) = some queue) :
      SiteChange st (.queueDiscoveryIfNeeded ids d) { st with queue := queue }
  | published (d : String) (s : DiscoverySnapshot) :
      SiteChange st (.saveDiscovery d s) (st.publish d s)
  | merged (d root : String) (t : DiscoveredTree) (found : StringMap Bool) :
      SiteChange st (.mergeDiscoveredSubtree d root found) (st.mergeSubtree d root t found)
  | received (d id : String) (names : StringMap Bool) :
      SiteChange st (.received d id names)
        { st with received := ⟨d, id, names, st.version d⟩ :: st.received }

/-- **The cases of a step of the site.** -/
theorem siteChange (s : SiteStmt) (c : Choice) (st : Site) :
    SiteChange (st.tick c) s (s.exec c st).2 := by
  cases s with
  | queue q => exact .queue q c
  | upsertFromInform freshID key =>
    simp only [SiteStmt.exec, effect]
    split
    · exact .nothing _
    · split
      · exact .nothing _
      · split
        · exact .nothing _
        · exact .newDevice ‹_›
  | updateDataModelRoot d root =>
    simp only [SiteStmt.exec, effect]
    split
    · exact .nothing _
    · exact .root d root
  | upsert ids d values =>
    simp only [SiteStmt.exec, effect]
    split
    · exact .nothing _
    · split
      · exact .nothing _
      next h =>
        split at h
        · cases h
        · exact .values (Site.upserted h)
  | queueDiscoveryIfNeeded ids d =>
    simp only [SiteStmt.exec, effect]
    split
    · exact .nothing _
    · cases hinsert : (st.tick c).queue.insertUnlessActive
          (onboardingDiscovery ids d ((st.tick c).version d)) with
      | none => exact .nothing _
      | some queue => exact .rediscovery hinsert
  | saveDiscovery d snapshot =>
    simp only [SiteStmt.exec, effect]
    split
    · exact .nothing _
    · split
      · exact .nothing _
      · exact .published d snapshot
  | mergeDiscoveredSubtree d root found =>
    simp only [SiteStmt.exec, effect]
    split
    · exact .nothing _
    · split
      · exact .nothing _
      · split
        · exact .nothing _
        · exact .merged d root _ found
  | received d id names => exact .received d id names
  | _ => exact .nothing _

/-! ### Rows of jobs -/

/-- The statement may queue a discovery of the device. -/
def SiteStmt.Rediscovers (d : String) : SiteStmt → Prop
  | .upsert _ d' _ | .queueDiscoveryIfNeeded _ d' => d' = d
  | _ => False

/-- What one statement of the site does to the row of one job. -/
inductive SiteRowStep (s : SiteStmt) (c : Choice) (st : Site) : Option Job → Option Job → Prop
  | same (r : Option Job) : SiteRowStep s c st r r
  | queue {r r' : Option Job} (q : Stmt) (hstmt : s = .queue q)
      (hstep : RowStep (Pool.fire exec q c st.queue) r r') : SiteRowStep s c st r r'
  | rediscovery (spec : JobSpec) (p : ParameterDiscoveryPayload) (now : Time)
      (hstmt : s.Rediscovers spec.deviceID) (htype : spec.type = .parameterDiscovery)
      (hnames : p.names = ∅) :
      SiteRowStep s c st none (some (newJob spec (.parameterDiscovery p) now))

theorem rediscovery_rowStep {c : Choice} {queue : World} {spec : JobSpec}
    {p : ParameterDiscoveryPayload}
    (h : (st.tick c).queue.insertUnlessActive (spec, .parameterDiscovery p) = some queue)
    (hstmt : s.Rediscovers spec.deviceID) (htype : spec.type = .parameterDiscovery)
    (hnames : p.names = ∅) (id : String) :
    SiteRowStep s c st (st.queue.jobs.find id) (queue.jobs.find id) := by
  rcases insertUnlessActive_find h id with hfind | ⟨hnone, hfind⟩
  · rw [hfind]
    exact .same _
  · rw [hfind, show st.queue.jobs.find id = none from hnone]
    exact .rediscovery spec p _ hstmt htype hnames

theorem siteRowStep (s : SiteStmt) (c : Choice) (st : Site) (id : String) :
    SiteRowStep s c st (st.queue.jobs.find id) ((s.exec c st).2.queue.jobs.find id) := by
  by_cases hqueue : ∃ q, s = .queue q
  · obtain ⟨q, rfl⟩ := hqueue
    exact .queue q rfl (exec_rowStep q c st.queue id)
  · have hchange := siteChange s c st
    generalize hpost : (s.exec c st).2 = st' at hchange ⊢
    cases hchange with
    | queue q => exact absurd ⟨q, rfl⟩ hqueue
    | values h =>
      rcases h.queue with hsame | ⟨change, hinsert⟩
      · rw [hsame]
        exact .same _
      · refine rediscovery_rowStep hinsert ?_ rfl rfl id
        exact rfl
    | rediscovery h =>
      refine rediscovery_rowStep h ?_ rfl rfl id
      exact rfl
    | _ => exact .same _

/-! ### Sessions, requests and receipts -/

/-- A statement of another table leaves sessions and pending requests alone. -/
theorem SiteChange.frame (h : SiteChange st s st') (hqueue : ∀ q, s ≠ .queue q) :
    st'.queue.sessions = st.queue.sessions ∧ st'.queue.pending = st.queue.pending := by
  cases h with
  | queue q => exact absurd rfl (hqueue q)
  | values h =>
    rcases h.queue with hsame | ⟨change, hinsert⟩
    · rw [hsame]
      exact ⟨rfl, rfl⟩
    · exact insertUnlessActive_frame hinsert
  | rediscovery h => exact insertUnlessActive_frame h
  | _ => exact ⟨rfl, rfl⟩

theorem SiteChange.receipts (h : SiteChange st s st') :
    st'.received = st.received ∨
      ∃ d id names, s = .received d id names ∧
        st'.received = ⟨d, id, names, st.version d⟩ :: st.received := by
  cases h with
  | received d id names => exact .inr ⟨d, id, names, rfl, rfl⟩
  | values h => exact .inl h.received
  | _ => exact .inl rfl

/-! ### Devices -/

theorem DeviceTable.find_insert {t t' : DeviceTable} (h : t.insert row = some t') (id : String) :
    t'.find id = if row.id = id then some row else t.find id := by
  unfold insert at h
  split at h
  · cases h
    by_cases hid : row.id = id
    · simp [find, hid]
    · simp [find, hid]
  · cases h

theorem DeviceTable.find_none_of_insert {t t' : DeviceTable} (h : t.insert row = some t') :
    t.find row.id = none := by
  unfold insert at h
  split at h
  next hfresh =>
    rw [find, List.find?_eq_none]
    intro other hother hid
    exact hfresh.1 (List.mem_map.mpr ⟨other, hother, by simpa using hid⟩)
  · cases h

theorem SiteChange.serial (h : SiteChange st s st') {id : String}
    (hrow : st.devices.find id = some row) :
    ∃ row', st'.devices.find id = some row' ∧ row'.ouiSerial = row.ouiSerial := by
  cases h with
  | newDevice hinsert =>
    refine ⟨row, ?_, rfl⟩
    rw [find_insert hinsert]
    split
    next hid =>
      rw [← hid, find_none_of_insert hinsert] at hrow
      cases hrow
    · exact hrow
  | root d root =>
    refine ⟨row.setRoot d root, ?_, Device.setRoot_ouiSerial d root row⟩
    show (st.devices.rows.map _).find? _ = _
    rw [Keyed.find_map (Device.setRoot_id d root)]
    exact congrArg (Option.map _) hrow
  | values h => exact ⟨row, h.devices ▸ hrow, rfl⟩
  | _ => exact ⟨row, hrow, rfl⟩

end Acs
