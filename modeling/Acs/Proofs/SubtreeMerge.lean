/-
What completing the discovery of a subtree leaves alone.

A Merge discovery looks at one object, and completing it is meant to replace the names
below that object and nothing else.  Whether it does is decided by one thing: a handler
that publishes the names as a whole tree (`SaveDiscovery`) replaces every other name too.
The USP dispatcher does that whenever the walk is done, and the gateway when the walk ends
with an object it gives up on.  `Completion.publishes` says when, in terms of the payload
and the answer; in all other cases every statement of the completion leaves the rest of
the tree, and the root of the data model, as they were.
-/
import Acs.Site.System
import Acs.Proofs.DiscoveryStep

namespace Acs

open Text Site SiteStmt DeviceTable

/-! ### Programs of the queue on the site -/

variable {α : Type} {root : String}

theorem all_onQueue {R : (s : SiteStmt) → s.Res → Prop} {W : SiteStmt → Prop} {Q : α → Prop}
    {p : Handler α} :
    (onQueue p).All R W Q ↔
      p.All (fun s r => R (.queue s) r) (fun s => W (.queue s)) Q := by
  induction p with
  | done a => exact Iff.rfl
  | stmt s k ih => exact and_congr_right fun _ => forall_congr' fun r => imp_congr_right fun _ => ih r

/-- A statement of the queue. -/
def SiteStmt.IsQueue : SiteStmt → Prop
  | .queue _ => True
  | _ => False

theorem isQueue_onQueue (p : Handler α) :
    (onQueue p).Issues (fun _ _ => True) IsQueue :=
  all_onQueue.mpr (Prog.all_true p)

theorem after_onQueue (p : Handler α) (cs : Nat → Choice) (st : Site) :
    ((onQueue p).after SiteStmt.exec cs st).devices = st.devices ∧
      ((onQueue p).after SiteStmt.exec cs st).tree = st.tree ∧
      ((onQueue p).after SiteStmt.exec cs st).cache = st.cache := by
  refine Prog.after_keeps
    (I := fun st' : Site => st'.devices = st.devices ∧ st'.tree = st.tree ∧ st'.cache = st.cache)
    (W := IsQueue) ?_ (isQueue_onQueue p) ⟨rfl, rfl, rfl⟩
  intro s c st' hs hst'
  cases s with
  | queue s => exact hst'
  | _ => exact absurd hs id

/-! ### What is left alone -/

/-- The recorded name and writable flag of a path. -/
def Site.recorded (st : Site) (deviceID path : String) : Option Bool :=
  (st.tree deviceID).bind (·.names.lookup path)

/-- The root of the device's data model. -/
def Site.dataModelRoot (st : Site) (deviceID : String) : Option DataModelRoot :=
  (st.devices.find deviceID).map (·.dataModelRoot)

/-- The second site has of the device, outside of the subtree, what the first one has. -/
structure Undisturbed (deviceID root : String) (st st' : Site) : Prop where
  names : ∀ path, hasPrefix path root = false → st'.recorded deviceID path = st.recorded deviceID path
  dataModelRoot : st'.dataModelRoot deviceID = st.dataModelRoot deviceID

theorem Undisturbed.trans {d : String} {st₁ st₂ st₃ : Site} (h : Undisturbed d root st₁ st₂)
    (h' : Undisturbed d root st₂ st₃) : Undisturbed d root st₁ st₃ where
  names path hpath := (h'.names path hpath).trans (h.names path hpath)
  dataModelRoot := h'.dataModelRoot.trans h.dataModelRoot

theorem Undisturbed.of_eq {d : String} {st st' : Site} (htree : st'.tree = st.tree)
    (hdevices : st'.devices = st.devices) : Undisturbed d root st st' where
  names path _ := by unfold recorded; rw [htree]
  dataModelRoot := by unfold Site.dataModelRoot; rw [hdevices]

theorem lookup_mergeNames {path : String} (hpath : hasPrefix path root = false)
    (names found : StringMap Bool) :
    (mergeNames root names found).lookup path = names.lookup path := by
  have hout : path ∉ Assoc.restrict (hasPrefix · root) found := by
    rw [← AList.lookup_eq_none]
    simp [hpath]
  rw [mergeNames, AList.lookup_union_right hout]
  simp [hpath]

/-! ### Statements that leave it alone -/

/-- The statement merges the given subtree only, and publishes nothing unless the subtree
is everything. -/
def SiteStmt.Spares (root : String) : SiteStmt → Prop
  | .queue _ | .received _ _ _ | .queueDiscoveryIfNeeded _ _ => True
  | .mergeDiscoveredSubtree _ r _ => r = root
  | .saveDiscovery _ _ => root = ""
  | _ => False

theorem exec_spares (d : String) {s : SiteStmt} (hs : s.Spares root) (c : Choice) (st : Site) :
    Undisturbed d root st (s.exec c st).2 := by
  cases s with
  | queue | received => exact .of_eq rfl rfl
  | queueDiscoveryIfNeeded ids d' =>
    simp only [SiteStmt.exec, effect]
    split <;> exact .of_eq rfl rfl
  | mergeDiscoveredSubtree d' r found =>
    obtain rfl : r = root := hs
    simp only [SiteStmt.exec, effect]
    split
    · exact .of_eq rfl rfl
    · split
      · exact .of_eq rfl rfl
      · split
        · exact .of_eq rfl rfl
        next t htree =>
          refine ⟨?_, rfl⟩
          intro path hpath
          by_cases hd : d = d'
          · subst hd
            have htree' : st.tree d = some t := htree
            simp [recorded, mergeSubtree, htree', lookup_mergeNames hpath]
          · simp [recorded, mergeSubtree, Function.update_of_ne hd, tick]
  | saveDiscovery d' snapshot =>
    obtain rfl : root = "" := hs
    refine ⟨fun path hpath => ?_, ?_⟩
    · cases hpath
    · simp only [SiteStmt.exec, effect]
      split
      · rfl
      · split <;> rfl
  | _ => exact absurd hs id

/-- A program that issues such statements only. -/
abbrev Spares {α : Type} (root : String) (p : SiteProg α) : Prop :=
  p.All (fun _ _ => True) (SiteStmt.Spares root) fun _ => True

theorem Spares.after {p : SiteProg α} (h : Spares root p) (d : String) (cs : Nat → Choice)
    (st : Site) : Undisturbed d root st (p.after SiteStmt.exec cs st) :=
  Prog.after_keeps (I := Undisturbed d root st)
    (fun _ c st' hs hst' => hst'.trans (exec_spares d hs c st')) h (.of_eq rfl rfl)

theorem spares_onQueue (root : String) (p : Handler α) : Spares root (onQueue p) :=
  all_onQueue.mpr (Prog.all_true p)

/-! ### Ways to complete a discovery -/

/-- What a discovery that is under way is given. -/
inductive Completion where
  /-- The answer of the device in a CWMP session. -/
  | cwmp (env : SiteEnv) (body : InboundBody)
  /-- No answer: the session is over, and the device opens a new one. -/
  | dropped (env : SiteEnv)
  /-- The message of an agent that answers the request. -/
  | usp (env : UspEnv) (retries : List UspEnv) (msg : UspMsg)

section

variable (job : Job) (p : ParameterDiscoveryPayload)

/-- The handler that completes the job. -/
def Completion.prog : Completion → SiteProg Unit
  | .cwmp env body =>
    Site.completeParameterDiscovery env (.answer job.id job.attempts) job.deviceID job body
  | .dropped env =>
    if !p.incremental || p.cursor = "" then pure ()
    else Site.skipDiscoveryObject env .recovery job.deviceID job p
  | .usp env retries msg => Site.resolvePending env retries msg job

/-- The walk is on its last object, and gives up on it. -/
def givesUpLast : Bool :=
  p.incremental && p.cursor ≠ "" &&
    match skipDiscoveryCursor p with
    | .ok (done, _, _) => done
    | .error _ => false

/-- The names of a response are the last that the walk waits for. -/
def lastNames (outcome : ResponseOutcome) : Bool :=
  !outcome.discoveredNames.keys.isEmpty &&
    (!p.incremental ||
      match advanceDiscovery (mergeCapabilities p outcome.discoveredCapabilities)
          outcome.discoveredNames with
      | .ok (done, _) => done
      | .error _ => false)

/-- The response that ends a request without an error. -/
def UspMsg.outcome (msg : UspMsg) : Option ResponseOutcome :=
  match msg.body with
  | .response r =>
    if (classifyResponse r).stillPending || (classifyResponse r).uspErr.isSome then none
    else some (classifyResponse r)
  | .error _ => none

/-- The completion publishes the names it has as the tree of the device, and there may be
something else in it. -/
def Completion.publishes : Completion → Bool
  | .cwmp _ body => body.fault.isSome && givesUpLast p
  | .dropped _ => givesUpLast p
  | .usp _ _ msg => p.root ≠ "" && msg.outcome.any (lastNames p)

end

section Completions

variable {job : Job} {p : ParameterDiscoveryPayload}

variable (env : SiteEnv) (cause : Cause) (d : String)

theorem spares_skipDiscoveryObject (hinc : p.incremental) (hcursor : p.cursor ≠ "")
    (hlast : givesUpLast p = false) :
    Spares p.root (Site.skipDiscoveryObject env cause d job p) := by
  unfold Site.skipDiscoveryObject
  split
  · exact spares_onQueue _ _
  next hskip =>
    simp [givesUpLast, hinc, hcursor, hskip] at hlast
  · exact spares_onQueue _ _

theorem spares_completeParameterDiscovery (body : InboundBody)
    (hpayload : job.payload.asDiscovery = some p) (hmerge : p.merge)
    (hpublish : (Completion.cwmp env body).publishes p = false) :
    Spares p.root (Site.completeParameterDiscovery env cause d job body) := by
  unfold Site.completeParameterDiscovery
  simp only [hpayload]
  cases hfault : body.fault with
  | some f =>
    by_cases hwalk : (p.incremental && p.cursor ≠ "")
    · simp only [hwalk]
      simp only [Bool.and_eq_true, decide_eq_true_eq] at hwalk
      refine spares_skipDiscoveryObject env cause d hwalk.1 hwalk.2 ?_
      simpa [Completion.publishes, hfault] using hpublish
    · simp only [hwalk]
      exact spares_onQueue _ _
  | none =>
    cases body.getParameterNamesResponse with
    | none => exact spares_onQueue _ _
    | some list =>
      by_cases hempty : (list.isEmpty && p.cursor = "")
      · simp only [hempty]
        exact spares_onQueue _ _
      · simp only [hempty]
        refine Prog.all_ask trivial fun _ _ => ?_
        rw [if_pos hmerge]
        exact (Prog.all_perform (by exact rfl)).bind fun _ _ => spares_onQueue _ _

/-- Publishing leaves the root of the data model alone. -/
theorem spares_saveSupportedDM (env : UspEnv) (cause : Cause) (detail : ResultDetail)
    (retry : Handler Unit) (s : DiscoverySnapshot) :
    Spares "" (Site.saveSupportedDM env cause job detail retry s) := by
  refine (Prog.all_perform (by exact rfl)).bind fun (r : SaveResult) _ => ?_
  cases r with
  | saved | failed => exact spares_onQueue _ _
  | firmwareChanged =>
    exact (spares_onQueue _ _).bind fun _ _ => ⟨trivial, fun _ _ => trivial⟩

theorem spares_completeSupportedDM (env : UspEnv) (cause : Cause) (outcome : ResponseOutcome)
    (detail : ResultDetail) (retry : Handler Unit) (hpayload : job.payload.asDiscovery = some p)
    (hlast : lastNames p outcome = false ∨ p.root = "") :
    Spares p.root (Site.completeSupportedDM env cause job outcome detail retry) := by
  unfold Site.completeSupportedDM
  simp only [hpayload]
  by_cases hnames : outcome.discoveredNames.keys.isEmpty
  · rw [if_pos hnames]
    exact spares_onQueue _ _
  · rw [if_neg hnames]
    refine Prog.all_ask trivial fun _ _ => ?_
    by_cases hinc : p.incremental
    · simp only [hinc, Bool.not_true, Bool.false_eq_true, if_false]
      split
      · exact spares_onQueue _ _
      next hadvance =>
        rcases hlast with hlast | hroot
        · simp [lastNames, hnames, hadvance] at hlast
        · rw [hroot]
          exact spares_saveSupportedDM ..
      · refine (spares_onQueue _ _).bind fun count _ => ?_
        split <;> exact spares_onQueue _ _
    · rcases hlast with hlast | hroot
      · simp [lastNames, hnames, hinc] at hlast
      · simp only [hinc, hroot]
        exact spares_saveSupportedDM ..

theorem spares_resolvePending (env : UspEnv) (retries : List UspEnv) (msg : UspMsg)
    (htype : job.type = .parameterDiscovery) (hpayload : job.payload.asDiscovery = some p)
    (hpublish : (Completion.usp env retries msg).publishes p = false) :
    Spares p.root (Site.resolvePending env retries msg job) := by
  unfold Site.resolvePending
  cases hbody : msg.body with
  | error e => exact spares_onQueue _ _
  | response r =>
    dsimp only
    by_cases hpending : (classifyResponse r).stillPending
    · rw [if_pos hpending]
      trivial
    · rw [if_neg hpending]
      refine (spares_onQueue _ _).bind fun taken _ => ?_
      by_cases htaken : taken
      · rw [if_pos htaken]
        cases herr : (classifyResponse r).uspErr with
        | some e => exact spares_onQueue _ _
        | none =>
          simp only [Site.completeResponse, htype]
          refine spares_completeSupportedDM _ _ _ _ _ hpayload ?_
          simp only [Completion.publishes, UspMsg.outcome, hbody, hpending, herr] at hpublish
          by_cases hroot : p.root = ""
          · exact .inr hroot
          · exact .inl (by simpa [hroot] using hpublish)
      · rw [if_neg htaken]
        trivial

theorem spares_completion (htype : job.type = .parameterDiscovery)
    (hpayload : job.payload.asDiscovery = some p) (hmerge : p.merge) {c : Completion}
    (hpublish : c.publishes p = false) : Spares p.root (c.prog job p) := by
  cases c with
  | cwmp env body => exact spares_completeParameterDiscovery env _ _ body hpayload hmerge hpublish
  | dropped env =>
    simp only [Completion.prog]
    split
    · trivial
    next hwalk =>
      simp only [Bool.or_eq_true, Bool.not_eq_true', decide_eq_true_eq, not_or,
        Bool.not_eq_false] at hwalk
      exact spares_skipDiscoveryObject env _ _ hwalk.1 hwalk.2 hpublish
  | usp env retries msg => exact spares_resolvePending env retries msg htype hpayload hpublish

end Completions

/-! ### Completions that publish -/

/-- A site with one device of the given version, and a request of the given message id. -/
def publishingSite (job : Job) (version msgID : String) (tree : Option DiscoveredTree) : Site where
  queue := { World.init with pending := AList.singleton msgID ⟨job, ⟨1, ""⟩⟩ }
  devices := ⟨[{ id := job.deviceID, ouiSerial := job.deviceID }], by simp, by simp⟩
  cache _ := AList.singleton softwareVersionDevice version
  tree _ := tree

/-- The site after a program that runs alone and without errors. -/
abbrev Site.still {α : Type} (p : SiteProg α) (st : Site) : Site :=
  p.after SiteStmt.exec (fun _ => {}) st

section Publish

variable {job : Job} {version msgID : String} {tree : Option DiscoveredTree}

theorem publishingSite_version (d : String) :
    (publishingSite job version msgID tree).version d = version := by
  simp [Site.version, publishingSite, cachedVersion]

theorem publishingSite_device : (publishingSite job version msgID tree).devices.find job.deviceID =
    some { id := job.deviceID, ouiSerial := job.deviceID } := by
  simp [publishingSite, find]

theorem after_saveDiscovery {α : Type} {st : Site} {d : String} {s : DiscoverySnapshot}
    {f : SaveResult → SiteProg α} (hdevice : (st.devices.find d).isSome)
    (hfirmware : s.expectedFirmware = st.version d) :
    still (SiteDb.saveDiscovery d s >>= f) st
      = still (f .saved) ((st.tick {}).publish d s) := by
  have hexec : SiteStmt.exec (.saveDiscovery d s) {} st = (.saved, (st.tick {}).publish d s) := by
    have hfound : ((st.tick {}).devices.find d).isNone = false := by
      simpa [tick] using hdevice
    have hsame : s.expectedFirmware = (st.tick {}).version d := hfirmware
    simp [SiteStmt.exec, effect, hfound, hsame]
  show still (f (SiteStmt.exec (.saveDiscovery d s) {} st).1)
    (SiteStmt.exec (.saveDiscovery d s) {} st).2 = _
  rw [hexec]

/-- The gateway that publishes a walk also sets the root of the data model. -/
theorem dataModelRoot_finishParameterDiscovery (env : SiteEnv) (cause : Cause)
    (p : ParameterDiscoveryPayload) (names : StringMap Bool) :
    (still (Site.finishParameterDiscovery env cause job.deviceID job p names)
      (publishingSite job p.firmware msgID tree)).dataModelRoot job.deviceID ≠ some .unknown := by
  have hroot : ∀ root, ((publishingSite job p.firmware msgID tree).devices.setRoot job.deviceID
      root).find job.deviceID = some ⟨job.deviceID, job.deviceID, root⟩ := by
    simp [find, setRoot, publishingSite, Device.setRoot]
  unfold Site.finishParameterDiscovery
  rw [after_saveDiscovery (by rw [publishingSite_device]; rfl) (publishingSite_version _).symm,
    still, Prog.after_bind, dataModelRoot, (after_onQueue _ _ _).1]
  show ((((publishingSite job p.firmware msgID tree).devices.setRoot job.deviceID _).find
    job.deviceID).map (·.dataModelRoot)) ≠ _
  rw [hroot]
  split <;> simp

theorem recorded_saveSupportedDM (env : UspEnv) (cause : Cause) (detail : ResultDetail)
    (retry : Handler Unit) {s : DiscoverySnapshot} {st : Site} (path : String)
    (hdevice : (st.devices.find job.deviceID).isSome)
    (hfirmware : s.expectedFirmware = st.version job.deviceID) :
    (still (Site.saveSupportedDM env cause job detail retry s) st).recorded job.deviceID path
      = s.names.lookup path := by
  unfold Site.saveSupportedDM
  rw [after_saveDiscovery hdevice hfirmware, recorded, (after_onQueue _ _ _).2.1]
  simp [publish]

variable {p : ParameterDiscoveryPayload}

theorem recorded_completeSupportedDM (env : UspEnv) (cause : Cause) (outcome : ResponseOutcome)
    (detail : ResultDetail) (retry : Handler Unit) (hpayload : job.payload.asDiscovery = some p)
    (hlast : lastNames p outcome) :
    ∃ names : StringMap Bool, ∀ st : Site, (st.devices.find job.deviceID).isSome →
      p.firmware = st.version job.deviceID → ∀ path,
      (still (Site.completeSupportedDM env cause job outcome detail retry) st).recorded
        job.deviceID path = names.lookup path := by
  simp only [lastNames, Bool.and_eq_true, Bool.not_eq_true'] at hlast
  obtain ⟨hnames, hdone⟩ := hlast
  unfold Site.completeSupportedDM
  simp only [hpayload, hnames, Bool.false_eq_true, if_false]
  unfold takeSupportedDM
  by_cases hinc : p.incremental
  · cases hadvance : advanceDiscovery (mergeCapabilities p outcome.discoveredCapabilities)
        outcome.discoveredNames with
    | error msg => simp [hinc, hadvance] at hdone
    | ok result =>
      obtain ⟨done, q⟩ := result
      obtain rfl : done := by simpa [hinc, hadvance] using hdone
      have hq : q.firmware = p.firmware := (advanceDiscovery_keeps hadvance).1
      refine ⟨q.names, fun st hdevice hfirmware path => ?_⟩
      simp only [hinc, Bool.not_true]
      refine recorded_saveSupportedDM env cause detail retry path ?_ ?_
      · exact hdevice
      · exact hq.trans hfirmware
  · refine ⟨outcome.discoveredNames, fun st hdevice hfirmware path => ?_⟩
    simp only [hinc]
    exact recorded_saveSupportedDM env cause detail retry path hdevice hfirmware

/-- A walk that gives up on its last object does not leave the data model alone. -/
theorem disturbed_skipDiscoveryObject (job : Job) (env : SiteEnv) (cause : Cause)
    (hlast : givesUpLast p) :
    ∃ cs st, ¬ Undisturbed job.deviceID p.root st
      ((Site.skipDiscoveryObject env cause job.deviceID job p).after SiteStmt.exec cs st) := by
  unfold givesUpLast at hlast
  cases hskip : skipDiscoveryCursor p with
  | error msg => simp [hskip] at hlast
  | ok result =>
    obtain ⟨done, skipped, q⟩ := result
    obtain rfl : done := by simpa [hskip] using (Bool.and_eq_true_iff.mp hlast).2
    unfold Site.skipDiscoveryObject
    simp only [hskip]
    refine ⟨fun _ => {}, publishingSite job q.firmware "" none, fun h => ?_⟩
    refine dataModelRoot_finishParameterDiscovery env cause q q.names (h.dataModelRoot.trans ?_)
    rw [dataModelRoot, publishingSite_device]
    rfl

theorem empty_not_hasPrefix {root : String} (h : root ≠ "") : hasPrefix "" root = false := by
  unfold hasPrefix
  cases hroot : root.toList with
  | nil => exact absurd (String.toList_eq_nil_iff.mp hroot) h
  | cons c cs => rfl

/-- The last names of a walk over USP do not leave the other names alone. -/
theorem disturbed_resolvePending (job : Job) (env : UspEnv) (retries : List UspEnv) (msg : UspMsg)
    (htype : job.type = .parameterDiscovery) (hpayload : job.payload.asDiscovery = some p)
    (hroot : p.root ≠ "") (hlast : msg.outcome.any (lastNames p)) :
    ∃ cs st, ¬ Undisturbed job.deviceID p.root st
      ((Site.resolvePending env retries msg job).after SiteStmt.exec cs st) := by
  cases hbody : msg.body with
  | error e => simp [UspMsg.outcome, hbody] at hlast
  | response r =>
    by_cases hopen : ((classifyResponse r).stillPending || (classifyResponse r).uspErr.isSome)
    · simp [UspMsg.outcome, hbody, hopen] at hlast
    · have hnames : lastNames p (classifyResponse r) := by
        simpa [UspMsg.outcome, hbody, hopen] using hlast
      simp only [Bool.or_eq_true, not_or, Bool.not_eq_true, Option.isSome_eq_false_iff,
        Option.isNone_iff_eq_none] at hopen
      obtain ⟨names, hrecorded⟩ := recorded_completeSupportedDM env
        (.answer job.id job.attempts) (classifyResponse r)
        (.dispatch msg.msgType (classifyResponse r).params) (tryDispatch retries job.deviceID)
        hpayload hnames
      -- A tree whose only entry is one that the published names do not have.
      refine ⟨fun _ => {}, publishingSite job p.firmware msg.msgID
        (some { names := AList.singleton "" (!(names.lookup "").getD true) }), fun h => ?_⟩
      have hsame := h.names "" (empty_not_hasPrefix hroot)
      have htaken : ∀ tree, ((onQueue (Db.pendingTake msg.msgID)).run SiteStmt.exec (fun _ => {})
          (publishingSite job p.firmware msg.msgID tree)).1 := fun tree => by
        show ((publishingSite job _ msg.msgID tree).queue.pending.lookup msg.msgID).isSome
        simp [publishingSite]
      unfold Site.resolvePending at hsame
      simp only [hbody, hopen.1, hopen.2, Bool.false_eq_true, if_false] at hsame
      rw [Prog.after_bind, htaken] at hsame
      simp only [if_true, Site.completeResponse, htype] at hsame
      rw [hrecorded] at hsame
      · cases hlookup : names.lookup "" with
        | none | some => simp [recorded, publishingSite, hlookup] at hsame
      · rw [(after_onQueue _ _ _).1, publishingSite_device]
        rfl
      · rw [version, (after_onQueue _ _ _).2.2]
        exact (publishingSite_version job.deviceID).symm

/-- **When the rest of the tree survives.**  Completing a Merge discovery leaves every name
outside of its root, and the root of the data model, as they were, whatever they were and
however the database answers, exactly if the completion does not publish. -/
theorem subtree_merge_undisturbed_iff (job : Job) (p : ParameterDiscoveryPayload)
    (htype : job.type = .parameterDiscovery) (hpayload : job.payload.asDiscovery = some p)
    (hmerge : p.merge = true) (completion : Completion) :
    (∀ (cs : Nat → Choice) (st : Site), Undisturbed job.deviceID p.root st
      ((completion.prog job p).after SiteStmt.exec cs st)) ↔
    completion.publishes p = false := by
  constructor
  · intro h
    by_contra hpublish
    rw [Bool.not_eq_false] at hpublish
    suffices hnot : ∃ cs st, ¬ Undisturbed job.deviceID p.root st
        ((completion.prog job p).after SiteStmt.exec cs st) by
      obtain ⟨cs, st, hnot⟩ := hnot
      exact hnot (h cs st)
    cases completion with
    | cwmp env body =>
      simp only [Completion.publishes, Bool.and_eq_true] at hpublish
      obtain ⟨f, hfault⟩ := Option.isSome_iff_exists.mp hpublish.1
      have hwalk : (p.incremental && p.cursor ≠ "") = true :=
        (Bool.and_eq_true_iff.mp hpublish.2).1
      have hskip : (Completion.cwmp env body).prog job p =
          Site.skipDiscoveryObject env (.answer job.id job.attempts) job.deviceID job p := by
        simp only [Completion.prog, Site.completeParameterDiscovery, hpayload, hfault, hwalk,
          if_true]
      rw [hskip]
      exact disturbed_skipDiscoveryObject job env _ hpublish.2
    | dropped env =>
      have hwalk : p.incremental = true ∧ p.cursor ≠ "" := by
        simpa using (Bool.and_eq_true_iff.mp hpublish).1
      have hskip : (Completion.dropped env).prog job p =
          Site.skipDiscoveryObject env .recovery job.deviceID job p := by
        simp [Completion.prog, hwalk.1, hwalk.2]
      rw [hskip]
      exact disturbed_skipDiscoveryObject job env _ hpublish
    | usp env retries msg =>
      simp only [Completion.publishes, Bool.and_eq_true, decide_eq_true_eq] at hpublish
      exact disturbed_resolvePending job env retries msg htype hpayload hpublish.1 hpublish.2
  · intro hpublish cs st
    exact (spares_completion htype hpayload hmerge hpublish).after job.deviceID cs st

end Publish

/-! ### The subtree of a new XMPP connection -/

def xmppSubtree : ParameterDiscoveryPayload :=
  { root := "Device.XMPP.", merge := true }

/-- The job the provisioner queues for it, under way. -/
def xmppMerge : Job :=
  { id := "j", commandKey := "k", deviceID := "cpe1", type := .parameterDiscovery,
    status := .rpcSent, payload := .parameterDiscovery xmppSubtree, attempts := 1 }

/-- The device names the leaves of the connection in its session. -/
def xmppOverCwmp : Completion :=
  .cwmp {} { getParameterNamesResponse := some [("Device.XMPP.Connection.1.Enable", "1")] }

/-- The agent of the device names them. -/
def xmppOverUsp : Completion :=
  .usp {} []
    { msgID := "m", msgType := "GET_SUPPORTED_DM_RESP",
      body := .response (.getSupportedDM [{
        reqObjPath := "Device.XMPP."
        supportedObjs := [{ path := "Device.XMPP.Connection.\x7bi\x7d."
                            params := [⟨"Enable", .readWrite, "", ""⟩] }] }]) }

/-- In a session nothing else is touched. -/
theorem subtree_merge_undisturbed_xmppOverCwmp :
    xmppMerge.type = .parameterDiscovery ∧
    xmppMerge.payload.asDiscovery = some xmppSubtree ∧ xmppSubtree.merge = true ∧
    ∀ (cs : Nat → Choice) (st : Site), Undisturbed xmppMerge.deviceID xmppSubtree.root st
      ((xmppOverCwmp.prog xmppMerge xmppSubtree).after SiteStmt.exec cs st) :=
  ⟨rfl, rfl, rfl, (subtree_merge_undisturbed_iff xmppMerge xmppSubtree rfl rfl rfl
    xmppOverCwmp).mpr (by decide)⟩

/-- A device that was discovered before. -/
def discoveredSite : Site :=
  publishingSite xmppMerge "1.0" "m" (some {
    names := (AList.singleton "Device.DeviceInfo.SoftwareVersion" false).insert
      "Device.XMPP.Connection.1.Alias" true
    firmware := "1.0" })

/-- **Over USP the tree is gone.**  The software version, which is not under the root, is
recorded before the answer and not after it. -/
theorem xmppOverUsp_loses_tree :
    xmppMerge.type = .parameterDiscovery ∧ xmppMerge.payload = .parameterDiscovery xmppSubtree ∧
    xmppSubtree.merge = true ∧
    hasPrefix "Device.DeviceInfo.SoftwareVersion" xmppSubtree.root = false ∧
    discoveredSite.recorded "cpe1" "Device.DeviceInfo.SoftwareVersion" = some false ∧
    ((xmppOverUsp.prog xmppMerge xmppSubtree).after SiteStmt.exec (fun _ => {})
      discoveredSite).recorded "cpe1" "Device.DeviceInfo.SoftwareVersion" = none := by
  refine ⟨rfl, rfl, rfl, by decide, by decide +kernel, by decide +kernel⟩

end Acs
