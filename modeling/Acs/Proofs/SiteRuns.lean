/-
Every statement of every run of the site is issued knowing what it should.

`Site.Grows` is the order in which nothing that handlers rely on is lost, and `Site.Sound`
the invariant that makes their reads tell what `Site.R` says.  A step whose statement
satisfies `Site.W` goes up in the order and keeps the invariant; the rule for growing
knowledge does the rest.
-/
import Acs.Lib.Growing
import Acs.Proofs.Invariants
import Acs.Proofs.SiteStep
import Acs.Proofs.SiteTasks

namespace Acs

open Site Option List JobTable Session Pool

namespace Site

/-! ### The order -/

/-- What the site never forgets. -/
structure Grows (a b : Site) : Prop where
  spec : ∀ {id s}, a.spec id = some s → b.spec id = some s
  aim : ∀ {id x}, a.aim id = some x → b.aim id = some x
  owner : ∀ {id d}, a.owner id = some d → b.owner id = some d
  serial : ∀ {id key}, a.serial id = some key → b.serial id = some key
  received : ∀ {r}, r ∈ a.received → r ∈ b.received

theorem Grows.refl (a : Site) : Grows a a :=
  ⟨id, id, id, id, id⟩

theorem Grows.trans {a b c : Site} (h : Grows a b) (h' : Grows b c) : Grows a c :=
  ⟨h'.spec ∘ h.spec, h'.aim ∘ h.aim, h'.owner ∘ h.owner, h'.serial ∘ h.serial,
    h'.received ∘ h.received⟩

section Mono

variable {a b : Site} (hab : Grows a b)

include hab

theorem Given.mono {id name : String} (h : a.Given id name) : b.Given id name := by
  obtain ⟨r, hr, hid, hname⟩ := h
  exact ⟨r, hab.received hr, hid, hname⟩

theorem Walk.mono {d id : String} {p : ParameterDiscoveryPayload} (h : a.Walk d id p) :
    b.Walk d id p :=
  ⟨hab.aim h.aim, fun name hname => (h.names name hname).mono hab⟩

theorem Copy.mono {j : Job} (h : a.Copy j) : b.Copy j :=
  ⟨hab.spec h.spec, fun htype p hp => (h.walk htype p hp).mono hab⟩

/-- No answer is forgotten. -/
theorem R_mono (s : SiteStmt) (r : s.Res) (h : a.R s r) : b.R s r := by
  cases s with
  | queue q =>
    cases q with
    | byID c id => exact fun j hj => ⟨(h j hj).1, (h j hj).2.mono hab⟩
    | byCommandKey c key => exact fun j hj => (h j hj).mono hab
    | lease d types uspOnly owner seen => exact fun j hj => ⟨(h j hj).1.mono hab, (h j hj).2⟩
    | leaseNextByType type owner => exact fun j hj => (h j hj).mono hab
    | inFlightDiscoveries d | droppedSessionJobs d =>
      exact fun l hl j hj => ⟨(h l hl j hj).1.mono hab, (h l hl j hj).2⟩
    | getSession id => exact fun s hs => ⟨(h s hs).1, hab.owner (h s hs).2⟩
    | pendingGet msgID => exact fun e he => (h e he).mono hab
    | _ => trivial
  | getDevice id => exact fun row hrow => ⟨(h row hrow).1, hab.serial (h row hrow).2⟩
  | getByOUIserial | upsertFromInform => exact fun row hrow => hab.serial (h row hrow)
  | received d id names => exact fun name hname => (h name hname).mono hab
  | _ => trivial

end Mono

/-! ### The invariant -/

end Site

/-- The statuses that a discovery goes through. -/
def Status.walking (s : Status) : Bool :=
  s = .queued || s = .rpcSent || s.finished

namespace Site

/-- The invariant of the site. -/
structure Sound (st : Site) : Prop where
  names : ∀ {id row}, st.queue.jobs.find id = some row → row.type = .parameterDiscovery →
    ∀ p, row.payload.asDiscovery = some p → ∀ name ∈ p.names, st.Given id name
  statuses : ∀ {id row}, st.queue.jobs.find id = some row → row.type = .parameterDiscovery →
    row.status.walking
  pending : ∀ e ∈ st.queue.pending.entries, st.Copy e.2.job
  sessions : (st.queue.sessions.map (·.id)).Nodup
  receipts : ∀ r ∈ st.received, ∃ a, st.aim r.jobID = some a ∧ a.deviceID = r.deviceID

variable {id : String} {row : Job} {st : Site}

theorem spec_of_find (h : st.queue.jobs.find id = some row) : st.spec id = some row.toJobSpec := by
  rw [spec, h]
  rfl

theorem aim_of_find (h : st.queue.jobs.find id = some row) : st.aim id = row.aim := by
  rw [aim, h]
  rfl

theorem Sound.copy (hsound : st.Sound) (h : st.queue.jobs.find id = some row) : st.Copy row := by
  obtain ⟨_, rfl⟩ := find_eq_some h
  refine ⟨spec_of_find h, fun htype p hp => ⟨?_, hsound.names h htype p hp⟩⟩
  rw [aim_of_find h, Job.aim_of_eq htype hp]

theorem Copy.leaseCopy (h : st.Copy row) (status : Status) :
    st.Copy (row.leaseCopy status) :=
  ⟨h.spec, h.walk⟩

/-! ### What an update does to a discovery -/

section Update

variable {st : Site} {may : String → Prop} {u : Update} {now : Time} {row : Job}

theorem type_of_selects {j : Job} (hrow : st.queue.jobs.find row.id = some row)
    (hj : st.Copy j) (htarget : u.target = some j) (hsel : u.selects now row) :
    row.toJobSpec = j.toJobSpec := by
  have hspec := spec_of_find hrow
  rw [Update.id_of_selects htarget hsel, hj.spec] at hspec
  exact (some.inj hspec).symm

theorem not_selects_walk {j : Job} (hrow : st.queue.jobs.find row.id = some row)
    (htype : row.type = .parameterDiscovery) (hj : st.Mine may j ∧ j.type ≠ .parameterDiscovery)
    (htarget : u.target = some j) (hsel : u.selects now row) : False := by
  have hspec := type_of_selects hrow hj.1.copy htarget hsel
  exact hj.2 (by rw [← show row.type = j.type from congrArg JobSpec.type hspec]; exact htype)

variable (hrow : st.queue.jobs.find row.id = some row) (htype : row.type = .parameterDiscovery)
  (hu : st.Allows may u) (hsel : u.selects now row)

include hrow htype hu hsel

/-- The payload of a discovery is kept, or is the next state of its walk. -/
theorem payload_of_update : (u.sets now row).payload = row.payload ∨
    ∃ p, (u.sets now row).payload = .parameterDiscovery p ∧ st.Walk row.deviceID row.id p := by
  cases u with
  | requeueDiscovery j p =>
    obtain ⟨hmine, _, hwalk⟩ := hu
    have hspec := type_of_selects hrow hmine.copy rfl hsel
    have hid : row.id = j.id := congrArg JobSpec.id hspec
    have hdevice : row.deviceID = j.deviceID := congrArg JobSpec.deviceID hspec
    exact .inr ⟨p, rfl, by rw [hid, hdevice]; exact hwalk⟩
  | beginReadback | bindFirmware | applyDroppedSessionAction =>
    exact (not_selects_walk hrow htype hu rfl hsel).elim
  | _ => exact .inl rfl

theorem walking_of_update (hbefore : row.status.walking) :
    (u.statusAfter row.status).walking := by
  cases u with
  | markAwaitingTransferComplete | markAwaitingDiagnostics | applyDroppedSessionAction =>
    exact (not_selects_walk hrow htype hu rfl hsel).elim
  | recordDiscoveryFallback | bindFirmware => exact hbefore
  | _ => rfl

end Update

/-! ### What a step does to a discovery -/

theorem asDiscovery_redactFinished (old new : JobState) :
    (redactFinished old new).payload.asDiscovery = new.payload.asDiscovery := by
  unfold redactFinished
  split
  · cases new.payload <;> rfl
  · rfl

/-- The row of a discovery before and after a step. -/
structure WalkStep (st : Site) (row row' : Job) : Prop where
  spec : row'.toJobSpec = row.toJobSpec
  payload : row'.payload.asDiscovery = row.payload.asDiscovery ∨
    ∃ p, row'.payload.asDiscovery = some p ∧ st.Walk row.deviceID row.id p
  status : row.status.walking → row'.status.walking

theorem WalkStep.refl (st : Site) (row : Job) : WalkStep st row row :=
  ⟨rfl, .inl rfl, id⟩

section Step

variable {st : Site} {may : String → Prop} {row row' : Job}

variable {c : Choice}

theorem walkStep_queue {q : Stmt} (hq : st.queueW may q)
    (hrow : st.queue.jobs.find row.id = some row) (htype : row.type = .parameterDiscovery)
    (h : RowStep (fire exec q c st.queue) (some row) (some row')) : WalkStep st row row' := by
  generalize hr' : some row' = r' at h
  cases h with
  | same =>
    rw [some.inj hr']
    exact .refl st row
  | leased =>
    rw [some.inj hr']
    exact ⟨rfl, .inl rfl, fun _ => rfl⟩
  | leasedByType hstmt _ hrowtype =>
    -- only connection requests are leased by their type
    have hstmt : q = _ := hstmt
    rw [hstmt] at hq
    rw [htype, hq.1] at hrowtype
    cases hrowtype
  | @updated row cause u hstmt hexec hsel =>
    have hstmt : q = _ := hstmt
    rw [hstmt] at hq
    rw [some.inj hr']
    refine ⟨rfl, ?_, fun hbefore => ?_⟩
    · show (redactFinished _ _).payload.asDiscovery = _ ∨
        ∃ p, (redactFinished _ _).payload.asDiscovery = some p ∧ _
      rw [asDiscovery_redactFinished]
      rcases payload_of_update hrow htype hq hsel with hsame | ⟨p, hp, hwalk⟩
      · exact .inl (by rw [hsame])
      · exact .inr ⟨p, by rw [hp]; rfl, hwalk⟩
    · rw [updated_status]
      exact walking_of_update hrow htype hq hsel hbefore

theorem walkStep {s : SiteStmt} (hs : st.W may s) (hrow : st.queue.jobs.find row.id = some row)
    (htype : row.type = .parameterDiscovery) (h : SiteRowStep s c st (some row) (some row')) :
    WalkStep st row row' := by
  generalize hr : some row = r at h
  generalize hr' : some row' = r' at h
  cases h with
  | same =>
    rw [some.inj (hr'.trans hr.symm)]
    exact .refl st row
  | queue q hstmt hstep =>
    subst hstmt hr hr'
    exact walkStep_queue hs hrow htype hstep
  | rediscovery => cases hr

theorem newRow {s : SiteStmt} (hs : st.W may s) (h : SiteRowStep s c st none (some row')) :
    row'.status = .queued ∧ may row'.deviceID ∧
      (row'.type = .parameterDiscovery →
        ∃ p, row'.payload.asDiscovery = some p ∧ p.names = ∅) := by
  generalize hr : none = r at h
  generalize hr' : some row' = r' at h
  cases h with
  | same => rw [← hr] at hr'; cases hr'
  | queue q hstmt hstep =>
    subst hstmt
    cases hstep with
    | same => rw [← hr] at hr'; cases hr'
    | inserted spec payload hinsert =>
      have hwalk : may spec.deviceID ∧ NewWalk spec payload := by
        rcases hinsert with hinsert | hinsert
        · rw [show q = _ from hinsert] at hs
          exact hs
        · rw [show q = _ from hinsert] at hs
          exact hs
      rw [some.inj hr']
      refine ⟨rfl, hwalk.1, fun htype => ?_⟩
      obtain ⟨p, hp, hnames⟩ := hwalk.2 htype
      exact ⟨p, congrArg Payload.asDiscovery hp, hnames⟩
    | _ => cases hr
  | rediscovery spec p now hstmt htype hnames =>
    rw [some.inj hr']
    refine ⟨rfl, ?_, fun _ => ⟨p, rfl, hnames⟩⟩
    cases s with
    | upsert | queueDiscoveryIfNeeded => exact hstmt ▸ hs
    | _ => exact absurd hstmt id

end Step

/-! ### What a step does to the sessions -/

end Site

/-- A session is opened under a new id, or one is changed, and keeps its device. -/
inductive SessionStep (q : Stmt) (sessions : List Session) : List Session → Prop
  | same : SessionStep q sessions sessions
  | opened (id d : String) (hstmt : q = .openSession id d) (hfresh : ∀ s ∈ sessions, s.id ≠ id) :
      SessionStep q sessions (sessions ++ [{ id := id, deviceID := d }])
  | changed (id : String) (f : Session → Session)
      (hstmt : q = .closeSession id ∨ ∃ job, q = .setCurrentJob id job)
      (hf : ∀ s, (f s).id = s.id ∧ (f s).deviceID = s.deviceID) :
      SessionStep q sessions (update sessions id f)

theorem sessionStep (q : Stmt) (c : Choice) (w : World) :
    SessionStep q w.sessions (exec q c w).2.sessions := by
  cases q with
  | lease d types uspOnly owner seen =>
    rw [(exec_lease_frame ..).2.1]
    exact .same
  | leaseNextByType type owner =>
    rw [(exec_leaseNextByType_frame ..).2.1]
    exact .same
  | update | insert | queueDiscoveryIfNeeded =>
    simp only [exec, Stmt.effect]
    repeat' split
    all_goals exact .same
  | openSession sid d =>
    simp only [exec, Stmt.effect]
    split
    · exact .same
    next hfresh =>
      refine .opened sid d rfl ?_
      intro s hs hid
      have hany : (w.tick c).sessions.any (·.id = sid) :=
        any_eq_true.mpr ⟨s, hs, by simpa using hid⟩
      exact hfresh (by rw [hany, Bool.or_true])
  | setCurrentJob sid job =>
    simp only [exec, Stmt.effect]
    split
    · exact .same
    · exact .changed sid _ (.inr ⟨job, rfl⟩) fun _ => ⟨rfl, rfl⟩
  | closeSession sid =>
    simp only [exec, Stmt.effect]
    split
    · exact .same
    · exact .changed sid _ (.inl rfl) fun _ => ⟨rfl, rfl⟩
  | _ => exact .same

section Sessions

variable {q : Stmt} {sessions sessions' : List Session}

theorem Session.id_update {id : String} {f : Session → Session} (hf : ∀ s, (f s).id = s.id)
    (s : Session) : (if s.id = id then f s else s).id = s.id := by
  split
  · exact hf s
  · rfl

theorem SessionStep.nodup (h : SessionStep q sessions sessions')
    (hnodup : (sessions.map (·.id)).Nodup) : (sessions'.map (·.id)).Nodup := by
  cases h with
  | same => exact hnodup
  | opened id d _ hfresh => exact Keyed.nodup_append hnodup hfresh
  | changed id f _ hf =>
    rw [Session.update, Keyed.map_key_map (Session.id_update fun s => (hf s).1)]
    exact hnodup

theorem SessionStep.owner (h : SessionStep q sessions sessions') {id : String} {s : Session}
    (hs : sessions.find? (·.id = id) = some s) :
    ∃ s', sessions'.find? (·.id = id) = some s' ∧ s'.deviceID = s.deviceID := by
  cases h with
  | same => exact ⟨s, hs, rfl⟩
  | opened id' d _ _ => exact ⟨s, by rw [find?_append, hs]; rfl, rfl⟩
  | changed id' f _ hf =>
    rw [Session.update, Keyed.find_map (Session.id_update fun s => (hf s).1), hs]
    refine ⟨_, rfl, ?_⟩
    dsimp only
    split
    · exact (hf s).2
    · rfl

end Sessions

namespace Site

/-! ### One step -/

section Step

variable {st : Site} {may : String → Prop} {s : SiteStmt} {c : Choice}

variable {id : String}

theorem find_step {row : Job} (hrow : st.queue.jobs.find id = some row) :
    ∃ row', (s.exec c st).2.queue.jobs.find id = some row' ∧ row'.toJobSpec = row.toJobSpec := by
  have hstep := siteRowStep s c st id
  rw [hrow] at hstep
  generalize hr' : (s.exec c st).2.queue.jobs.find id = r' at hstep
  generalize hr : some row = r at hstep
  cases hstep with
  | same => exact ⟨row, hr.symm, rfl⟩
  | queue q _ hstep =>
    subst hr
    exact hstep.spec
  | rediscovery => cases hr

theorem owner_step {d : String} (h : st.owner id = some d) :
    (s.exec c st).2.owner id = some d := by
  by_cases hqueue : ∃ q, s = .queue q
  · obtain ⟨q, rfl⟩ := hqueue
    obtain ⟨session, hsession, hdevice⟩ := map_eq_some_iff.mp h
    obtain ⟨session', hsession', hdevice'⟩ := (sessionStep q c st.queue).owner hsession
    have hpost : (SiteStmt.exec (.queue q) c st).2.queue.sessions.find? (·.id = id) =
      some session' := hsession'
    rw [owner, hpost]
    exact congrArg some (hdevice'.trans hdevice)
  · have hframe := ((siteChange s c st).frame fun q hq => hqueue ⟨q, hq⟩).1
    rw [owner, hframe]
    exact h

theorem serial_step {key : String} (h : st.serial id = some key) :
    (s.exec c st).2.serial id = some key := by
  obtain ⟨row, hrow, hkey⟩ := map_eq_some_iff.mp h
  obtain ⟨row', hrow', hkey'⟩ := (siteChange s c st).serial hrow
  rw [serial, hrow']
  exact congrArg some (hkey'.trans hkey)

theorem received_step {r : Receipt} (h : r ∈ st.received) : r ∈ (s.exec c st).2.received := by
  rcases (siteChange s c st).receipts with hsame | ⟨d, id, names, _, hpost⟩
  · rw [hsame]
    exact h
  · rw [hpost]
    exact mem_cons_of_mem _ h

variable (hs : st.W may s)

include hs

theorem aim_step {x : Aim} (h : st.aim id = some x) :
    (s.exec c st).2.aim id = some x := by
  obtain ⟨row, hrow, haim⟩ := bind_eq_some_iff.mp h
  obtain ⟨_, rfl⟩ := find_eq_some hrow
  have htype : row.type = .parameterDiscovery := by
    by_contra hne
    rw [Job.aim_of_ne hne] at haim
    cases haim
  obtain ⟨row', hrow', hspec⟩ := find_step (s := s) (c := c) hrow
  have hstep := siteRowStep s c st row.id
  rw [hrow, hrow'] at hstep
  have hwalk := walkStep hs hrow htype hstep
  have htype' : row'.type = .parameterDiscovery :=
    (congrArg JobSpec.type hspec).trans htype
  have hdevice : row'.deviceID = row.deviceID := congrArg JobSpec.deviceID hspec
  rw [aim_of_find hrow', ← haim]
  rcases hwalk.payload with hsame | ⟨p, hp, hwalk⟩
  · rw [Job.aim, Job.aim, if_pos htype, if_pos htype', hsame, hdevice]
  · have hrowaim := hwalk.aim
    rw [aim_of_find hrow] at hrowaim
    rw [Job.aim_of_eq htype' hp, hrowaim, hdevice]

theorem grows_step : Grows st (s.exec c st).2 where
  spec {id spec} h := by
    obtain ⟨row, hrow, rfl⟩ := map_eq_some_iff.mp h
    obtain ⟨row', hrow', hspec⟩ := find_step (s := s) (c := c) hrow
    rw [spec_of_find hrow', hspec]
  aim := aim_step hs
  owner := owner_step
  serial := serial_step
  received := received_step

theorem walk_cases {row' : Job} (hrow' : (s.exec c st).2.queue.jobs.find id = some row')
    (htype : row'.type = .parameterDiscovery) :
    (row'.status = .queued ∧ ∃ p, row'.payload.asDiscovery = some p ∧ p.names = ∅) ∨
      ∃ row, st.queue.jobs.find id = some row ∧ row.type = .parameterDiscovery ∧ row.id = id ∧
        WalkStep st row row' := by
  have hstep := siteRowStep s c st id
  rw [hrow'] at hstep
  cases hrow : st.queue.jobs.find id with
  | none =>
    rw [hrow] at hstep
    obtain ⟨hstatus, _, hnew⟩ := newRow hs hstep
    exact .inl ⟨hstatus, hnew htype⟩
  | some row =>
    rw [hrow] at hstep
    obtain ⟨_, rfl⟩ := find_eq_some hrow
    obtain ⟨other, hother, hspec⟩ := find_step (s := s) (c := c) hrow
    rw [hrow'] at hother
    cases hother
    have htype' : row.type = .parameterDiscovery := by
      rw [← htype]
      exact (congrArg JobSpec.type hspec).symm
    exact .inr ⟨row, rfl, htype', rfl, walkStep hs hrow htype' hstep⟩

variable (hsound : st.Sound)

include hsound

theorem sound_step : (s.exec c st).2.Sound where
  names {id row'} hrow' htype p hp name hname := by
    have hgrows := grows_step (c := c) hs
    rcases walk_cases hs hrow' htype with ⟨_, q, hq, hempty⟩ | ⟨row, hrow, htype', rfl, hwalk⟩
    · rw [hp] at hq
      cases hq
      rw [hempty] at hname
      exact absurd hname (AList.notMem_empty name)
    · rcases hwalk.payload with hsame | ⟨q, hq, hwalk⟩
      · exact (hsound.names hrow htype' p (hsame ▸ hp) name hname).mono hgrows
      · rw [hp] at hq
        cases hq
        exact (hwalk.names name hname).mono hgrows
  statuses {id row'} hrow' htype := by
    rcases walk_cases hs hrow' htype with ⟨hstatus, _⟩ | ⟨row, hrow, htype', _, hwalk⟩
    · rw [hstatus]
      rfl
    · exact hwalk.status (hsound.statuses hrow htype')
  pending e he := by
    have hgrows := grows_step (c := c) hs
    by_cases hqueue : ∃ q, s = .queue q
    · obtain ⟨q, rfl⟩ := hqueue
      have he' : e ∈ (exec q c st.queue).2.pending.entries := he
      rcases exec_pending he' with hold | hput
      · exact (hsound.pending e hold).mono hgrows
      · rw [hput] at hs
        exact Copy.mono hgrows hs
    · rw [((siteChange s c st).frame fun q hq => hqueue ⟨q, hq⟩).2] at he
      exact (hsound.pending e he).mono hgrows
  sessions := by
    by_cases hqueue : ∃ q, s = .queue q
    · obtain ⟨q, rfl⟩ := hqueue
      exact (sessionStep q c st.queue).nodup hsound.sessions
    · rw [((siteChange s c st).frame fun q hq => hqueue ⟨q, hq⟩).1]
      exact hsound.sessions
  receipts r hr := by
    rcases (siteChange s c st).receipts with hsame | ⟨d, id, names, rfl, hpost⟩
    · rw [hsame] at hr
      obtain ⟨a, ha, hdevice⟩ := hsound.receipts r hr
      exact ⟨a, aim_step hs ha, hdevice⟩
    · rcases mem_cons.mp hr with rfl | hr
      · obtain ⟨a, ha, hdevice⟩ := hs
        exact ⟨a, ha, hdevice⟩
      · obtain ⟨a, ha, hdevice⟩ := hsound.receipts r hr
        exact ⟨a, aim_step hs ha, hdevice⟩

omit hs

theorem queue_answers (q : Stmt) : st.queueR q (exec q c st.queue).1 := by
  have hmem : ∀ {row : Job}, row ∈ st.queue.jobs.rows → st.Copy row :=
    fun hrow => hsound.copy (find_of_mem hrow)
  have hanswer := exec_answered q c st.queue
  cases q with
  | byID cause id => exact fun j hj => ⟨(hanswer j hj).2, hmem (hanswer j hj).1⟩
  | byCommandKey cause key => exact fun j hj => hmem (hanswer j hj).1
  | lease d types uspOnly owner seen =>
    intro j hj
    obtain ⟨row, hrow, hsel, rfl⟩ := hanswer j hj
    simp only [Job.leasable, Bool.and_eq_true, decide_eq_true_eq] at hsel
    exact ⟨(hmem hrow).leaseCopy _, hsel.1.1.1⟩
  | leaseNextByType type owner =>
    intro j hj
    obtain ⟨row, hrow, rfl⟩ := hanswer j hj
    exact (hmem hrow).leaseCopy _
  | inFlightDiscoveries d =>
    intro l hl j hj
    obtain ⟨hrow, hkind, _⟩ := hanswer l hl j hj
    exact ⟨hmem hrow, hkind⟩
  | droppedSessionJobs d =>
    intro l hl j hj
    obtain ⟨hrow, ⟨⟨hd, _⟩, _⟩, hne⟩ := hanswer l hl j hj
    exact ⟨hmem hrow, hd, hne⟩
  | getSession id =>
    intro session hs
    have hfind : st.queue.sessions.find? (·.id = id) = some session :=
      (ite_none_left_eq_some.mp hs).2
    refine ⟨by simpa using find?_some hfind, ?_⟩
    rw [owner, hfind]
    rfl
  | pendingGet m =>
    intro e he
    exact hsound.pending ⟨m, e⟩ (AList.mem_lookup_iff.mp he)
  | _ => trivial

omit hsound in
theorem serial_of_byKey {key : String} {row : Device} (h : st.devices.byKey key = some row) :
    st.serial row.id = some key := by
  have hkey : row.ouiSerial = key := by simpa using find?_some h
  have hfind : st.devices.find row.id = some row :=
    Keyed.find_of_mem st.devices.ids (mem_of_find?_eq_some h)
  rw [serial, hfind, ← hkey]
  rfl

omit hsound in
theorem answers_upsertFromInform (freshID key : String) {row : Device}
    (h : (SiteStmt.exec (.upsertFromInform freshID key) c st).1 = some row) :
    (SiteStmt.exec (.upsertFromInform freshID key) c st).2.serial row.id = some key := by
  simp only [SiteStmt.exec, SiteStmt.effect] at h ⊢
  split at h
  · cases h
  next hfails =>
    rw [if_neg hfails]
    split at h
    next existing hkey =>
      cases h
      have hserial : st.serial row.id = some key := serial_of_byKey hkey
      exact hserial
    · split at h
      · cases h
      next devices hinsert =>
        cases h
        rw [serial, DeviceTable.find_insert hinsert, if_pos rfl]
        rfl

include hs

theorem answers_step : (s.exec c st).2.R s (s.exec c st).1 := by
  have hgrows := grows_step (c := c) hs
  cases s with
  | queue q => exact R_mono hgrows (.queue q) _ (queue_answers hsound q)
  | getDevice id =>
    intro row hrow
    have hfind : st.devices.find id = some row := (ite_none_left_eq_some.mp hrow).2
    refine ⟨by simpa using find?_some hfind, ?_⟩
    show st.serial id = _
    rw [serial, hfind]
    rfl
  | getByOUIserial key =>
    intro row hrow
    have hkey : st.devices.byKey key = some row :=
      some.inj (ite_none_left_eq_some.mp hrow).2
    exact serial_of_byKey hkey
  | upsertFromInform freshID key => exact fun row hrow => answers_upsertFromInform freshID key hrow
  | received d id names => exact fun name hname => ⟨_, mem_cons_self, rfl, hname⟩
  | _ => trivial

end Step

theorem sound_init (devices : DeviceTable) : (init devices).Sound where
  names h := absurd h (by simp [init, World.init, find])
  statuses h := absurd h (by simp [init, World.init, find])
  pending _ h := absurd h (by simp [init, World.init])
  sessions := nodup_nil
  receipts _ h := absurd h (by simp [init])

end Site

/-! ### Runs -/

/-- The statements executed by a run, each with the task it comes from. -/
def siteEvents (devices : DeviceTable) (as : List SiteAction) : List (SiteTask × SiteEvent) :=
  byTask SiteStmt.exec SiteTask.prog as [] ⟨.init devices, []⟩

/-- What is known of each statement of a run. -/
abbrev SiteEvent.Known (t : SiteTask) (ev : SiteEvent) : Prop :=
  ev.Grown SiteStmt.exec (fun t st => st.W (t.May st)) Site.Sound Grows t

variable {as : List SiteAction} {devices : DeviceTable}

/-- **Every statement of every run is issued knowing what it should.** -/
theorem siteEvents_known :
    ∀ te ∈ siteEvents devices as, te.2.Known te.1 := by
  refine byTask_growing (G := fun _ => True) (R := R) Grows.refl
    (fun _ _ _ => Grows.trans) (fun _ _ s r hab => R_mono hab s r)
    (fun _ s c st _ hstmt hpre => ?_) (by simp) rfl
    (sound_init devices) (fun t _ st => t.ok st) (fun _ _ => trivial)
  exact ⟨answers_step hstmt hpre, sound_step hstmt hpre, grows_step hstmt⟩

theorem siteTrace_known {ev : SiteEvent} (hev : ev ∈ siteTrace devices as) : ∃ t, ev.Known t := by
  rw [siteTrace, ← map_snd_byTask SiteStmt.exec SiteTask.prog as [] _ rfl] at hev
  obtain ⟨⟨t, ev⟩, hte, rfl⟩ := mem_map.mp hev
  exact ⟨t, siteEvents_known _ hte⟩

theorem siteTrace_chain (devices : DeviceTable) (as : List SiteAction) :
    Chain (.init devices) (siteTrace devices as) (siteEnd devices as) :=
  run_chain SiteStmt.exec SiteTask.prog as ⟨.init devices, []⟩

end Acs
