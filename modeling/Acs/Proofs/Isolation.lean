/-
Requests that are bound to a device leave every other device alone.

A request may bring the identity of a device in four ways: a credential, a certificate,
the body of an Inform, and a session cookie or a command key.  The first two are
authenticated, the others are whatever the client sends.  `Acs.Proofs.SiteTasks` has shown
that each handler ties the device it acts for to the authenticated one; here it is shown
that a statement issued for some devices does not touch the rows of another.
-/
import Acs.Proofs.SiteRuns

namespace Acs

open List

/-- The second site has of the device what the first one has: the same jobs, in every
column, the same sessions, and the same values and names. -/
structure Untouched (deviceID : String) (st st' : Site) : Prop where
  jobs : ∀ id row, row.deviceID = deviceID →
    (st'.queue.jobs.find id = some row ↔ st.queue.jobs.find id = some row)
  sessions : ∀ s : Session, s.deviceID = deviceID →
    (s ∈ st'.queue.sessions ↔ s ∈ st.queue.sessions)
  cache : st'.cache deviceID = st.cache deviceID
  tree : st'.tree deviceID = st.tree deviceID

/-- The request is authenticated as a device, and the device is not the given one. -/
def InboundIdentity.Foreign (bound : InboundIdentity) (st : Site) (d : String) : Prop :=
  bound.credentialDeviceID ≠ "" ∧ d ≠ bound.credentialDeviceID ∨
    bound.mtlsNaturalKey ≠ "" ∧ st.serial d ≠ some bound.mtlsNaturalKey

theorem InboundIdentity.Foreign.not_speaks {bound : InboundIdentity} {st : Site} {d : String}
    (h : bound.Foreign st d) : ¬ bound.Speaks st d := by
  intro hspeaks
  rcases h with ⟨hbound, hne⟩ | ⟨hbound, hne⟩
  · exact hne (hspeaks.credential hbound)
  · exact hne (hspeaks.certificate hbound)

namespace Site

variable {st : Site} {may : String → Prop} {s : SiteStmt} {c : Choice} {d : String}

/-! ### Jobs -/

theorem may_of_selects {u : Update} {now : Time} {row : Job} (hu : st.Allows may u)
    (hrow : st.queue.jobs.find row.id = some row) (hsel : u.selects now row) :
    may row.deviceID := by
  have hmine : ∀ j, st.Mine may j → u.target = some j → may row.deviceID := by
    intro j hj htarget
    have hspec := type_of_selects hrow hj.copy htarget hsel
    rw [show row.deviceID = j.deviceID from congrArg JobSpec.deviceID hspec]
    exact hj.may
  cases u with
  | markSuccess | markSuccessWithDetail | markFailed | markTimeout | requeue
  | recordDiscoveryFallback => exact hmine _ hu rfl
  | markAwaitingTransferComplete | beginReadback | markAwaitingDiagnostics
  | applyDroppedSessionAction | bindFirmware | requeueDiscovery => exact hmine _ hu.1 rfl
  | releaseAwaitingDiagnostics d =>
    have hdevice : row.deviceID = d := of_decide_eq_true (Bool.and_eq_true_iff.mp hsel).1
    rw [hdevice]
    exact hu
  | _ => exact hu row.deviceID

theorem row_kept (hs : st.W may s) {id : String} {row : Job}
    (hrow : st.queue.jobs.find id = some row) :
    (s.exec c st).2.queue.jobs.find id = some row ∨ may row.deviceID := by
  have hstep := siteRowStep s c st id
  obtain ⟨_, rfl⟩ := JobTable.find_eq_some hrow
  generalize (s.exec c st).2.queue.jobs.find row.id = r' at hstep ⊢
  rw [hrow] at hstep
  generalize hr : some row = r at hstep
  cases hstep with
  | same => exact .inl rfl
  | rediscovery => cases hr
  | queue q hstmt hstep =>
    subst hstmt
    cases hstep with
    | same => exact .inl rfl
    | leased hstmt hsel =>
      cases hr
      rw [show q = _ from hstmt] at hs
      simp only [Job.leasable, Bool.and_eq_true, decide_eq_true_eq] at hsel
      exact .inr (hsel.1.1.1 ▸ hs)
    | leasedByType hstmt =>
      rw [show q = _ from hstmt] at hs
      exact .inr (hs.2 _)
    | updated hstmt _ hsel =>
      cases hr
      rw [show q = _ from hstmt] at hs
      exact .inr (may_of_selects hs hrow hsel)
    | inserted => cases hr

theorem jobs_untouched (hs : st.W may s) (hd : ¬ may d) (id : String) (row : Job)
    (hdevice : row.deviceID = d) :
    (s.exec c st).2.queue.jobs.find id = some row ↔ st.queue.jobs.find id = some row := by
  have hrow_may : ¬ may row.deviceID := by rw [hdevice]; exact hd
  constructor
  · intro hpost
    cases hpre : st.queue.jobs.find id with
    | none =>
      have hstep := siteRowStep s c st id
      rw [hpre, hpost] at hstep
      exact absurd (newRow hs hstep).2.1 hrow_may
    | some before =>
      obtain ⟨after, hafter, hspec⟩ := find_step (s := s) (c := c) hpre
      obtain rfl : row = after := Option.some.inj (hpost.symm.trans hafter)
      rcases row_kept (c := c) hs hpre with hkept | hmay
      · rw [← hpost, hkept]
      · rw [← show row.deviceID = before.deviceID from congrArg JobSpec.deviceID hspec] at hmay
        exact absurd hmay hrow_may
  · intro hpre
    exact (row_kept hs hpre).resolve_right hrow_may

/-! ### Sessions -/

theorem mem_update_sessions (hsound : st.Sound) {id : String} {f : Session → Session}
    (hf : ∀ session, (f session).id = session.id ∧ (f session).deviceID = session.deviceID)
    (howner : st.owner id ≠ some d) {session : Session} (hdevice : session.deviceID = d) :
    session ∈ Session.update st.queue.sessions id f ↔ session ∈ st.queue.sessions := by
  have hother : ∀ other ∈ st.queue.sessions, other.deviceID = d → other.id ≠ id := by
    intro other hmem hother hid
    refine howner ?_
    -- sessions are found by their id
    rw [← hid, ← hother, Site.owner, Keyed.find_of_mem hsound.sessions hmem]
    rfl
  constructor
  · intro h
    obtain ⟨other, hmem, rfl⟩ := mem_map.mp h
    by_cases hid : other.id = id
    · rw [if_pos hid, (hf other).2] at hdevice
      exact absurd hid (hother other hmem hdevice)
    · rw [if_neg hid]
      exact hmem
  · intro h
    exact mem_map.mpr ⟨session, h, if_neg (hother session h hdevice)⟩

theorem sessions_untouched (hsound : st.Sound) (hs : st.W may s) (hd : ¬ may d)
    {session : Session} (hdevice : session.deviceID = d) :
    session ∈ (s.exec c st).2.queue.sessions ↔ session ∈ st.queue.sessions := by
  by_cases hqueue : ∃ q, s = .queue q
  · obtain ⟨q, rfl⟩ := hqueue
    have hstep := sessionStep q c st.queue
    show session ∈ (exec q c st.queue).2.sessions ↔ _
    generalize (exec q c st.queue).2.sessions = sessions' at hstep
    cases hstep with
    | same => exact Iff.rfl
    | opened id d' hstmt _ =>
      rw [hstmt] at hs
      have hne : session ≠ { id := id, deviceID := d' } := by
        rintro rfl
        exact hd (hdevice ▸ hs)
      simp [hne]
    | changed id f hstmt hf =>
      have howner : ∃ d', st.owner id = some d' ∧ may d' := by
        rcases hstmt with hstmt | ⟨job, hstmt⟩
        · rw [hstmt] at hs
          exact hs
        · rw [hstmt] at hs
          exact hs
      obtain ⟨d', howner, hmay⟩ := howner
      refine mem_update_sessions hsound hf ?_ hdevice
      intro h
      rw [howner] at h
      exact hd (Option.some.inj h ▸ hmay)
  · rw [((siteChange s c st).frame fun q hq => hqueue ⟨q, hq⟩).1]
    exact Iff.rfl

/-! ### Values and names -/

theorem tables_untouched (hs : st.W may s) (hd : ¬ may d) :
    (s.exec c st).2.cache d = st.cache d ∧ (s.exec c st).2.tree d = st.tree d := by
  have hne : ∀ {d'}, may d' → d ≠ d' := fun hmay heq => hd (heq ▸ hmay)
  have hchange := siteChange s c st
  generalize (s.exec c st).2 = st' at hchange ⊢
  cases hchange with
  | values h =>
    refine ⟨?_, h.tree d (hne hs)⟩
    rw [h.cache, Function.update_of_ne (hne hs)]
    rfl
  | published d' snapshot => exact ⟨rfl, Function.update_of_ne (hne hs.1) _ _⟩
  | merged d' root t found => exact ⟨rfl, Function.update_of_ne (hne hs) _ _⟩
  | _ => exact ⟨rfl, rfl⟩

/-- **A statement leaves alone whatever it may not act for.** -/
theorem untouched_step (hsound : st.Sound) (hs : st.W may s) (hd : ¬ may d) :
    Untouched d st (s.exec c st).2 where
  jobs := jobs_untouched hs hd
  sessions _ := sessions_untouched hsound hs hd
  cache := (tables_untouched hs hd).1
  tree := (tables_untouched hs hd).2

end Site

/-- **A request that is authenticated as one device never changes a job, a session or the
cached parameters of another**, in any run and whatever else the request says. -/
theorem cwmp_request_isolated {devices : DeviceTable} {as : List SiteAction} {req : CwmpRequest}
    {ev : SiteEvent} (hev : (.cwmp req, ev) ∈ siteEvents devices as) {d : String}
    (hforeign : req.env.bound.Foreign ev.pre d) : Untouched d ev.pre ev.post := by
  have hknown := siteEvents_known _ hev
  have hstmt : ev.pre.W (req.env.bound.Speaks ev.pre) ev.stmt := hknown.stmt
  have hpre : ev.pre.Sound := hknown.pre
  obtain ⟨s, c, st, rfl⟩ := hknown.legal.eq_fire
  exact Site.untouched_step hpre hstmt hforeign.not_speaks

/-! ### An Inform with a credential -/

def neighbours : DeviceTable where
  rows := [{ id := "cpe1", ouiSerial := "00D09E+S1" }, { id := "cpe2", ouiSerial := "00D09E+S2" }]
  ids := by decide
  keys := by decide

/-- The first of them reports its version, with a credential of its own. -/
def boundInform : CwmpRequest where
  env := { bound := { credentialDeviceID := "cpe1" } }
  body := .inform {
    oui := "00d09e", serialNumber := "S1"
    parameterList := [⟨"Device.DeviceInfo.SoftwareVersion", "1.0", "xsd:string"⟩] }

def boundInformTrace : List SiteEvent :=
  Pool.trace SiteStmt.exec (fun _ => {}) (handleCWMP boundInform) (.init neighbours)

theorem boundInformTrace_length : 2 < boundInformTrace.length := by decide +kernel

/-- The statement that caches the version does not touch the other device. -/
theorem cwmp_request_isolated_boundInform : ∃ ev : SiteEvent,
    (SiteTask.cwmp boundInform, ev) ∈
      siteEvents neighbours [.atomic (.cwmp boundInform) fun _ => {}] ∧
    ev.pre.version "cpe1" = "" ∧ ev.post.version "cpe1" = "1.0" ∧
    Untouched "cpe2" ev.pre ev.post := by
  have hmem : (SiteTask.cwmp boundInform, boundInformTrace.get ⟨2, boundInformTrace_length⟩) ∈
      siteEvents neighbours [.atomic (.cwmp boundInform) fun _ => {}] :=
    mem_append_left _ (mem_append_left _
      (mem_map.mpr ⟨_, get_mem _ _, rfl⟩))
  exact ⟨_, hmem, by decide +kernel, by decide +kernel,
    cwmp_request_isolated hmem (.inl ⟨by decide, by decide⟩)⟩

end Acs
