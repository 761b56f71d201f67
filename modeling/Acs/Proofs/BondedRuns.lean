/-
Runs that keep all sales bonded.

For a bond, the conditions on the events of a run and what a pass relies on, this checks
every task once.  A pass knows that its sale is still there with the same customer
(`Known`), and as long as nobody disturbs it what it found out about the device when it
loaded the sale (`X`).
-/
import Acs.Proofs.SaleBonds

namespace Acs

open OnboardingTask

open OnboardingWorld (KeepsSales)

/-- What a pass knows of the sale it has loaded, whatever others do. -/
structure Known (deviceID saleID : String) (o : Onboarding) (w : OnboardingWorld) : Prop where
  seen : w.Seen saleID o
  device : o.deviceID = none ∨ o.deviceID = some deviceID
  planned : o.state = .planned → o.deviceID = o.recordedFor

theorem Known.grows {deviceID saleID : String} {o : Onboarding} {w w' : OnboardingWorld}
    (h : Known deviceID saleID o w) (hgrows : KeepsSales w w') : Known deviceID saleID o w' :=
  ⟨h.seen.grows hgrows, h.device, h.planned⟩

namespace Bond

section Runs

variable {B : Bond} {env : OnboardingEnv}
  {rely : OnboardingStmt → OnboardingWorld → OnboardingWorld → Prop}
  {G W : OnboardingEvent → Prop} {X : String → Onboarding → OnboardingWorld → Prop}

/-- What is to be shown for a bond: the events allowed by `G` are careful with it; what a
pass finds out about its device lasts; a pass that queues configuration may do so. -/
structure RunProof (B : Bond) (env : OnboardingEnv)
    (rely : OnboardingStmt → OnboardingWorld → OnboardingWorld → Prop)
    (G W : OnboardingEvent → Prop) (X : String → Onboarding → OnboardingWorld → Prop) : Prop where
  refl : ∀ s w, rely s w w
  trans : ∀ s w₁ w₂ w₃, rely s w₁ w₂ → rely s w₂ w₃ → rely s w₁ w₃
  retries : ∀ {s c w}, G (Pool.fire (OnboardingStmt.exec env) s c w) → B.Bonded w →
    RetriesFit (B := B) s w
  spares : ∀ {s c w}, G (Pool.fire (OnboardingStmt.exec env) s c w) → B.Bonded w →
    B.Spares s.ended w (s.exec env c w).2
  lasts : ∀ {deviceID saleID o s w w'}, rely (.ofPass deviceID saleID o s) w w' → X deviceID o w →
    X deviceID o w'
  devices : ∀ {deviceID o w w'}, w'.devices = w.devices → X deviceID o w → X deviceID o w'
  loads : ∀ {deviceID saleID device o w₀ w₁}, w₀.devices.lookup deviceID = some device →
    rely (.openForDevice deviceID device) w₀ w₁ → B.Bonded w₁ →
    w₁.sales.lookup saleID = some o → (o.deviceID = none ∨ o.deviceID = some deviceID) →
    belongsToOther o device = false → o.state.inProgress → X deviceID o w₁
  queues : ∀ {deviceID saleID o createdBy part writes c w}, Known deviceID saleID o w →
    X deviceID o w → W (passEvent env deviceID saleID o (.createConfigJob createdBy part writes) c w)
  others : ∀ {s c w}, (∀ deviceID saleID o createdBy part writes,
    s ≠ .ofPass deviceID saleID o (.createConfigJob createdBy part writes)) →
    W (Pool.fire (OnboardingStmt.exec env) s c w)

/-- The facts of a pass from stage to stage. -/
def stageFact (X : String → Onboarding → OnboardingWorld → Prop) (deviceID saleID : String)
    (o : Onboarding) (device : OnboardingDevice) : PassStage → OnboardingWorld → Prop
  | .loaded, w | .looked _, w => Known deviceID saleID o w ∧
      (belongsToOther o device = false → o.state.inProgress = true → X deviceID o w)
  | .queued .., w | .failed, w => Known deviceID saleID o w ∧ X deviceID o w
  | .applied, _ => True

theorem stageFact.imp {deviceID saleID : String} {o : Onboarding} {device : OnboardingDevice}
    {stage : PassStage} {w w' : OnboardingWorld} (h : stageFact X deviceID saleID o device stage w)
    (hgrows : KeepsSales w w') (hX : X deviceID o w → X deviceID o w') :
    stageFact X deviceID saleID o device stage w' := by
  cases stage with
  | loaded | looked => exact ⟨h.1.grows hgrows, fun hother ho => hX (h.2 hother ho)⟩
  | queued | failed => exact ⟨h.1.grows hgrows, hX h.2⟩
  | applied => trivial

variable (h : RunProof B env rely G W X)

include h

theorem pass_tables {deviceID saleID : String} {o : Onboarding} {device : OnboardingDevice}
    {s : PassStmt} {c : OnboardingChoice} {w : OnboardingWorld} {stage : PassStage}
    (hs : ∀ d b k, s ≠ .apply d b k) (hJ : B.Bonded w)
    (hF : stageFact X deviceID saleID o device stage w)
    (hW : W (passEvent env deviceID saleID o s c w)) :
    Sound KeepsSales B.Bonded W (passEvent env deviceID saleID o s c w) ∧
      stageFact X deviceID saleID o device stage (passEvent env deviceID saleID o s c w).post := by
  have hsales : (s.exec deviceID saleID o c w).2.sales = w.sales := (PassStmt.exec_tables hs).1
  have hdevices : (s.exec deviceID saleID o c w).2.devices = w.devices :=
    (PassStmt.exec_tables hs).2
  have hkeeps : KeepsSales w (s.exec deviceID saleID o c w).2 := .of_eq hsales
  exact ⟨⟨hW, hJ.spared hsales (.of_devices hdevices), hkeeps⟩,
    hF.imp hkeeps fun hX => h.devices hdevices hX⟩

theorem passProof (deviceID saleID : String) (o : Onboarding) (device : OnboardingDevice) :
    PassProof env rely KeepsSales B.Bonded G W (fun _ => True) deviceID saleID o device
      (stageFact X deviceID saleID o device) where
  stable hrely hgrows hF := hF.imp hgrows fun hX => h.lasts hrely hX
  quiet {stage s c w} hs hJ hF := by
    refine pass_tables h (fun d b k heq => ?_) hJ hF (h.others ?_)
    · subst heq
      cases hs
    · rintro d sid o' createdBy part writes heq
      cases heq
      cases hs
  plan _ _ := trivial
  noJobs _ hF := hF
  outcome _ hF := hF
  start hother ho _ hF := ⟨hF.1, hF.2 hother ho⟩
  lose hF := hF
  queue _ _ hJ hF _ := by
    obtain ⟨hsound, hpost⟩ := pass_tables h (by simp) hJ hF (h.queues hF.1 hF.2)
    exact ⟨hsound, fun _ _ => hpost, fun _ => hpost⟩
  apply {stage d bindTo configJobs c w} hasked hJ hF hG := by
    have hknown : Known deviceID saleID o w := by
      cases hasked with
      | held | evaluated | configured | unqueued => exact hF.1
    have hspares := h.spares hG hJ
    have hpost : B.Bonded (passEvent env deviceID saleID o (.apply d bindTo configJobs) c w).post ∧
        KeepsSales w (passEvent env deviceID saleID o (.apply d bindTo configJobs) c w).post := by
      rcases c.delivery.deliver_state (w.apply saleID o d bindTo configJobs).1 w
        (w.apply saleID o d bindTo configJobs).2 with heq | heq
      · rw [show (passEvent env deviceID saleID o (.apply d bindTo configJobs) c w).post = w from heq]
        exact ⟨hJ, .refl w⟩
      · refine hJ.apply hasked hknown.seen hknown.device hknown.planned heq.symm ?_
        intro id' o' d' _ hlookup hjoined hdevice hfits
        exact hspares id' o' d' (by simp [OnboardingStmt.ended]) hlookup hjoined hdevice hfits
    exact ⟨⟨h.others (by simp), hpost.1, hpost.2⟩, trivial⟩
  returns _ hJ hF := (pass_tables h (by simp) hJ hF (h.others (by simp))).1

theorem keeps_reconcile (deviceID : String) (onInform : Bool) (w : OnboardingWorld) :
    PassProof.Keeps env rely KeepsSales B.Bonded G W (fun _ _ => True)
      (reconcileOnboarding env deviceID onInform) w := by
  refine PassProof.reconcileOnboarding (passProof h deviceID)
    (fun hJ => ⟨h.others (by simp), hJ, .refl _⟩) ?_ onInform w
  intro device c w₀ w₁ hdevice hrely hJ hG
  obtain ⟨hbonded, hkeeps⟩ := hJ.exec env c (by simp) (h.retries hG hJ) (h.spares hG hJ)
  refine ⟨⟨h.others (by simp), hbonded, hkeeps⟩, fun saleID o hfound hpost => ?_⟩
  obtain ⟨hlookup, -, hbound⟩ := OnboardingWorld.openForDevice_some hfound
  have hknown : Known deviceID saleID o w₁ :=
    ⟨⟨o, hlookup, rfl, rfl⟩, hbound, (hJ saleID o hlookup).planned⟩
  rw [hpost] at hkeeps
  exact ⟨hknown.grows hkeeps, fun hother hprogress => h.devices (w := w₁) rfl
    (h.loads hdevice hrely hJ hlookup hbound hother hprogress)⟩

theorem keeps_task (t : OnboardingTask) (w : OnboardingWorld) :
    PassProof.Keeps env rely KeepsSales B.Bonded G W (fun _ _ => True)
      (prog env t) w := by
  have hone : ∀ s, (∀ deviceID saleID o p, s ≠ .ofPass deviceID saleID o p) →
      PassProof.Keeps env rely KeepsSales B.Bonded G W (fun _ _ => True)
        (Prog.perform s >>= fun _ => pure ()) w := by
    intro s hs w' c hrely hG
    obtain ⟨hbonded, hkeeps⟩ := hG.2.exec env c hs (h.retries hG.1 hG.2)
      (h.spares hG.1 hG.2)
    exact ⟨⟨h.others fun d i o _ _ _ => hs d i o _, hbonded, hkeeps⟩, trivial⟩
  cases t with
  | reconcile deviceID onInform => exact keeps_reconcile h deviceID onInform w
  | _ => exact hone _ (by simp)

theorem run_bonded (as : List OnboardingAction) {w : OnboardingWorld} (hsales : w.sales = ∅)
    (hleft : Pool.Undisturbed (OnboardingStmt.exec env) (prog env) rely as ⟨w, []⟩)
    (hG : ∀ ev ∈ (Pool.run (OnboardingStmt.exec env) (prog env) as ⟨w, []⟩).1,
      G ev) :
    (∀ ev ∈ (Pool.run (OnboardingStmt.exec env) (prog env) as ⟨w, []⟩).1, W ev) ∧
      B.Bonded (Pool.run (OnboardingStmt.exec env) (prog env) as
        ⟨w, []⟩).2.shared := by
  have hstart : B.Bonded w := by
    intro id o ho
    rw [hsales] at ho
    cases ho
  obtain ⟨hevents, hend⟩ := Pool.run_kept (J := B.Bonded) h.refl h.trans KeepsSales.refl
    (fun _ _ _ h h' => h.trans h') hstart (by simp)
    (fun t _ st => keeps_task h t st) hleft hG
  exact ⟨fun ev hev => (hevents ev hev).1, hend⟩

end Runs

end Bond

end Acs
