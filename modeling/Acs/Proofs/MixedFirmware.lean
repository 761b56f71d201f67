/-
Of which firmware a published tree is.

A walk takes many answers, and the firmware of the device may change between them.  What
is to keep the names of two firmwares apart is one comparison: `SaveDiscovery` publishes a
walk only if the version that is cached when it ends is the one the walk was queued for.
That is enough as long as the cached version does not come to be what a walk waits for
after the walk was given names under another: `Tied` is then an invariant.  It is not
enough for a walk that waits for no version at all, nor for a version that comes back.
-/
import Acs.Proofs.SiteRuns

namespace Acs

/-! ### What is claimed of a tree -/

/-- Every name of the tree is from an answer that was given while the cached version was
the one the tree is evidence of. -/
def Site.OfOneFirmware (st : Site) (d : String) : Prop :=
  ∀ t ∈ st.tree d, ∀ name ∈ t.names.keys, ∃ r ∈ st.received,
    r.deviceID = d ∧ r.firmware = t.firmware ∧ name ∈ r.names

instance (st : Site) (d : String) : Decidable (st.OfOneFirmware d) := by
  unfold Site.OfOneFirmware
  infer_instance

/-- The event publishes a tree of the device. -/
def SiteEvent.publishes (d : String) : SiteEvent → Bool
  | ⟨.saveDiscovery d' _, .saved, _, _⟩ => d' = d
  | _ => false

/-- An `Upsert` that changes the version of a device finds no walk waiting for the new
version, or for none, that has been given names under another. -/
def SiteStmt.keepsWalks (st : Site) : SiteStmt → Bool
  | .upsert _ d values =>
    let version := cachedVersion (redactSecrets values ∪ st.cache d)
    version = st.version d || st.received.all fun r =>
      r.deviceID ≠ d || r.firmware = version || (st.aim r.jobID).all fun a =>
        a.firmware ≠ "" && a.firmware ≠ version
  | _ => true

/-! ### The invariant -/

/-- If the walk of a receipt could be published now, the receipt is of the version that is
cached now. -/
def Site.Tied (st : Site) : Prop :=
  ∀ r ∈ st.received, ∀ a, st.aim r.jobID = some a →
    a.firmware = "" ∨ a.firmware = st.version r.deviceID → r.firmware = st.version r.deviceID

theorem version_step (s : SiteStmt) (c : Choice) (st : Site) (d : String) :
    (s.exec c st).2.version d = st.version d ∨
      ∃ ids values, s = .upsert ids d values ∧
        (s.exec c st).2.version d = cachedVersion (redactSecrets values ∪ st.cache d) := by
  have hchange := siteChange s c st
  generalize (s.exec c st).2 = st' at hchange ⊢
  cases hchange with
  | @values ids d' values _ h =>
    by_cases hd : d = d'
    · subst hd
      refine .inr ⟨ids, values, rfl, ?_⟩
      rw [Site.version, h.cache, Function.update_self]
      rfl
    · refine .inl ?_
      rw [Site.version, h.cache, Function.update_of_ne hd]
      rfl
  | _ => exact .inl rfl

theorem tied_step {t : SiteTask} {ev : SiteEvent} (hknown : ev.Known t)
    (hkeeps : ev.stmt.keepsWalks ev.pre) (htied : ev.pre.Tied) : ev.post.Tied := by
  obtain ⟨s, c, st, rfl⟩ := hknown.legal.eq_fire
  intro r hr a ha hfirmware
  change (s.exec c st).2.aim r.jobID = some a at ha
  change a.firmware = "" ∨ a.firmware = (s.exec c st).2.version r.deviceID at hfirmware
  show r.firmware = (s.exec c st).2.version r.deviceID
  rcases (siteChange s c st).receipts with hsame | ⟨d, id, names, rfl, hpost⟩
  · -- an old receipt: it is for the same walk as before
    have hold : r ∈ st.received := hsame ▸ hr
    obtain ⟨a', ha', _⟩ := hknown.pre.receipts r hold
    obtain rfl : a = a' := Option.some.inj (ha.symm.trans (hknown.grows.aim ha'))
    rcases version_step s c st r.deviceID with hversion | ⟨ids, values, rfl, hversion⟩
    · rw [hversion] at hfirmware ⊢
      exact htied r hold a ha' hfirmware
    · rw [hversion] at hfirmware ⊢
      change SiteStmt.keepsWalks st (.upsert ids r.deviceID values) at hkeeps
      simp only [SiteStmt.keepsWalks, Bool.or_eq_true, decide_eq_true_eq, List.all_eq_true]
        at hkeeps
      rcases hkeeps with hunchanged | hkeeps
      · rw [hunchanged] at hfirmware ⊢
        exact htied r hold a ha' hfirmware
      · rcases hkeeps r hold with (hd | hversion) | hwaits
        · exact absurd rfl hd
        · exact hversion
        · change st.aim r.jobID = some a at ha'
          rw [ha'] at hwaits
          simp only [Option.all_some, Bool.and_eq_true, decide_eq_true_eq] at hwaits
          rcases hfirmware with hfirmware | hfirmware
          · exact absurd hfirmware hwaits.1
          · exact absurd hfirmware hwaits.2
  · -- the receipt of this answer
    have hr : r ∈ (⟨d, id, names, st.version d⟩ :: st.received : List Receipt) := hpost ▸ hr
    rcases List.mem_cons.mp hr with rfl | hold
    · rfl
    · obtain ⟨a', ha', _⟩ := hknown.pre.receipts r hold
      obtain rfl : a = a' := Option.some.inj (ha.symm.trans (hknown.grows.aim ha'))
      exact htied r hold a ha' hfirmware

/-- A walk that is published now was given all its names under the version of now. -/
theorem ofOneFirmware_of_publishes {t : SiteTask} {ev : SiteEvent} {d : String}
    (hknown : ev.Known t) (htied : ev.pre.Tied) (h : ev.publishes d) :
    ev.post.OfOneFirmware d := by
  obtain ⟨s, c, st, rfl⟩ := hknown.legal.eq_fire
  cases s with
  | saveDiscovery d' snapshot =>
    obtain ⟨_, id, p, hwalk, hnames, hexpected⟩ := hknown.stmt
    have hwalk : st.Walk d' id p := hwalk
    change SiteEvent.publishes d ⟨.saveDiscovery d' snapshot,
      (SiteStmt.exec (.saveDiscovery d' snapshot) c st).1, st, _⟩ at h
    show (SiteStmt.exec (.saveDiscovery d' snapshot) c st).2.OfOneFirmware d
    simp only [SiteStmt.exec, SiteStmt.effect] at h ⊢
    split at h
    · cases h
    next hfound =>
      rw [if_neg hfound]
      split at h
      · cases h
      next hversion =>
        rw [if_neg hversion]
        obtain rfl : d' = d := of_decide_eq_true h
        simp only [Bool.and_eq_true, decide_eq_true_eq, ne_eq, not_and_or, not_not] at hversion
        intro t ht name hname
        have htree : some t = some _ := ht.symm.trans (Function.update_self d' _ st.tree)
        obtain rfl := Option.some.inj htree
        obtain ⟨r, hr, hid, hgiven⟩ := hwalk.names name (hnames ▸ hname)
        obtain ⟨a, ha, hdevice⟩ := hknown.pre.receipts r hr
        change st.aim r.jobID = some a at ha
        rw [hid, hwalk.aim] at ha
        obtain rfl := Option.some.inj ha
        obtain rfl : d' = r.deviceID := hdevice
        refine ⟨r, hr, rfl, ?_, hgiven⟩
        refine htied r hr _ (by rw [hid]; exact hwalk.aim) ?_
        rw [hexpected]
        exact hversion
  | _ => cases h

/-- **No tree of mixed firmware is published**, as long as no `Upsert` brings a version that
a walk waits for and was not given all its names under. -/
theorem published_tree_of_one_firmware {devices : DeviceTable} {as : List SiteAction}
    (hkeeps : ∀ ev ∈ siteTrace devices as, ev.stmt.keepsWalks ev.pre = true) :
    ∀ ev ∈ siteTrace devices as, ∀ d, ev.publishes d = true → ev.post.OfOneFirmware d := by
  intro ev hev d hpublishes
  have htied : ∀ ev ∈ siteTrace devices as, ev.pre.Tied ∧ ev.post.Tied := by
    refine ((siteTrace_chain devices as).keeps (fun ev hev hpre => ?_)
      fun r hr => absurd hr (by simp [Site.init])).2
    obtain ⟨t, hknown⟩ := siteTrace_known hev
    exact tied_step hknown (hkeeps ev hev) hpre
  obtain ⟨t, hknown⟩ := siteTrace_known hev
  exact ofOneFirmware_of_publishes hknown (htied ev hev).1 hpublishes

/-! ### A walk over USP -/

def oneDevice : DeviceTable where
  rows := [{ id := "cpe1", ouiSerial := "00D09E+S1" }]
  ids := by decide
  keys := by decide

/-- The agent notifies of its version. -/
def reportsVersion (version : String) : SiteAction :=
  .atomic (.valueChange ("r" ++ version, "rk" ++ version) "cpe1"
    (AList.singleton softwareVersionDevice version)) fun _ => {}

def queuesWalk : SiteAction :=
  .atomic (.queueDiscovery ("j", "k") "cpe1") fun _ => {}

/-- The next request of the walk is sent, and answered with the given objects. -/
def walksOn (msgID : String) (objects : List SupportedObj) : List SiteAction :=
  [.atomic (.tryDispatch [{ conn := some ⟨1, "agent"⟩, msgID }] "cpe1") fun _ => {},
   .atomic (.response {} [] "agent"
     { msgID, msgType := "GET_SUPPORTED_DM_RESP",
       body := .response (.getSupportedDM [{ reqObjPath := "", supportedObjs := objects }]) })
     fun _ => {}]

/-- The root has a leaf and one object. -/
def answersRoot (msgID : String) : List SiteAction :=
  walksOn msgID [{ path := "Device.", params := [⟨"RootDataModelVersion", .readOnly, "", ""⟩] },
    { path := "Device.X." }]

/-- The object has a leaf, and that is all. -/
def answersObject (msgID : String) : List SiteAction :=
  walksOn msgID [{ path := "Device.X.", params := [⟨"Enable", .readWrite, "", ""⟩] }]

/-- The version is known before the walk is queued, and stays. -/
def steadyWalk : List SiteAction :=
  [reportsVersion "1.0", queuesWalk] ++ answersRoot "m1" ++ answersObject "m2"

theorem published_tree_of_one_firmware_steadyWalk :
    (∀ ev ∈ siteTrace oneDevice steadyWalk, ev.stmt.keepsWalks ev.pre = true) ∧
    ∃ ev ∈ siteTrace oneDevice steadyWalk, ev.publishes "cpe1" = true ∧
      ev.post.OfOneFirmware "cpe1" := by
  have hkeeps : ∀ ev ∈ siteTrace oneDevice steadyWalk, ev.stmt.keepsWalks ev.pre = true := by
    decide +kernel
  have hpublishes : ∃ ev ∈ siteTrace oneDevice steadyWalk, ev.publishes "cpe1" = true := by
    decide +kernel
  obtain ⟨ev, hev, h⟩ := hpublishes
  exact ⟨hkeeps, ev, hev, h, published_tree_of_one_firmware hkeeps ev hev "cpe1" h⟩

/-- The walk is queued before a version is known, and the firmware is upgraded halfway. -/
def upgradedWalk : List SiteAction :=
  [queuesWalk, reportsVersion "1.0"] ++ answersRoot "m1" ++ [reportsVersion "2.0"] ++
    answersObject "m2"

/-- The walk is queued for a version that is gone halfway, and comes back. -/
def revertedWalk : List SiteAction :=
  [reportsVersion "1.0", queuesWalk, reportsVersion "2.0"] ++ answersRoot "m1" ++
    [reportsVersion "1.0"] ++ answersObject "m2"

/-- The run publishes a tree as evidence of the version, and not all of it is. -/
def publishesMixed (as : List SiteAction) (version : String) : Prop :=
  ∃ ev ∈ siteTrace oneDevice as, ev.publishes "cpe1" = true ∧
    (ev.post.tree "cpe1").any (fun t => t.firmware = version && !t.stale) = true ∧
    ¬ ev.post.OfOneFirmware "cpe1"

instance (as : List SiteAction) (version : String) : Decidable (publishesMixed as version) := by
  unfold publishesMixed
  infer_instance

/-- **Two walks that mix firmwares.**  The names of the root were received under one version
and are published as evidence of another. -/
theorem mixed_firmware_published :
    publishesMixed upgradedWalk "2.0" ∧ publishesMixed revertedWalk "1.0" := by
  decide +kernel

end Acs
