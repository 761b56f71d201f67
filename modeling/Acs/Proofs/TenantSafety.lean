/-
Configuration queued for one customer on the device of another.

The reconciler compares customers when it loads a PLANNED sale, and `Apply` once more when
it moves one.  Configuration is queued in between, and later passes compare nothing.  It
reaches only devices that are nobody's or the customer's as long as a device does not change
hands under a pass, or under a sale that has joined it, and a retried sale fits its device.
-/
import Acs.Proofs.BondedRuns

namespace Acs

open OnboardingStmt OnboardingTask

/-- The device is nobody's, the sale is nobody's, or the customers are the same. -/
def mayConfigure (device sale : Option String) : Bool :=
  device.isNone || sale.isNone || decide (device = sale)

theorem mayConfigure_iff {x c : Option String} :
    mayConfigure x c ↔ x = none ∨ c = none ∨ x = c := by
  simp [mayConfigure, or_assoc]

/-- Sales that are yet to be configured. -/
def configBond : Bond where
  joined s _ := s.inProgress && decide (s ≠ .planned)
  fits x c := mayConfigure x c = true
  active hs hne := by simp [hs, hne]
  apart := by
    rintro s code (rfl | rfl | rfl) <;> rfl
  held := rfl
  contact {x c} h := by
    rw [mayConfigure_iff]
    cases x with
    | none => exact .inr (.inr rfl)
    | some y => exact h
  locked h := mayConfigure_iff.mpr (.inr h)

/-! ### Undisturbed passes -/

/-- What a pass survives: the device it has read becomes nobody's at most; the device it is
about to configure may still be configured. -/
def OnboardingStmt.customerKept (s : OnboardingStmt) (w w' : OnboardingWorld) : Prop :=
  match s with
  | .openForDevice deviceID device =>
    (w.customerOf deviceID = none ∨ w.customerOf deviceID = device.customerID) →
      (w'.customerOf deviceID = none ∨ w'.customerOf deviceID = device.customerID)
  | .ofPass deviceID _ o _ =>
    mayConfigure (w.customerOf deviceID) o.customerID = true →
      mayConfigure (w'.customerOf deviceID) o.customerID = true
  | _ => True

instance (s : OnboardingStmt) (w w' : OnboardingWorld) : Decidable (s.customerKept w w') := by
  apply @OnboardingStmt.casesOn _ s <;> intros <;> dsimp only [customerKept] <;> infer_instance

/-! ### Careful operations -/

/-- The sale fits the device it is bound to, if it is. -/
def OnboardingWorld.fitsDevice (w : OnboardingWorld) (o : Onboarding) : Bool :=
  o.deviceID.all fun d => mayConfigure (w.customerOf d) o.customerID

/-- A retried sale fits its device, and no device changes hands under a sale that has joined
it. -/
def OnboardingEvent.fitting (ev : OnboardingEvent) : Bool :=
  (match ev.stmt with
    | .retry saleID => (ev.pre.sales.lookup saleID).all ev.pre.fitsDevice
    | _ => true) &&
  ev.pre.sales.entries.all fun e =>
    !(configBond.joined e.2.state e.2.stateCode && ev.pre.fitsDevice e.2) || ev.post.fitsDevice e.2

/-- The customers of the sale and of the device, when configuration is queued. -/
def OnboardingEvent.configures (ev : OnboardingEvent) : Option (Option String × Option String) :=
  match ev.stmt with
  | .ofPass deviceID saleID _ (.createConfigJob ..) =>
    some ((ev.pre.sales.lookup saleID).bind (·.customerID), ev.pre.customerOf deviceID)
  | _ => none

theorem OnboardingEvent.spares_of_fitting {ev : OnboardingEvent} (h : ev.fitting)
    {id : Option String} : configBond.Spares id ev.pre ev.post := by
  intro id' o d _ ho hjoined hd hfits
  obtain ⟨-, hall⟩ := Bool.and_eq_true_iff.mp h
  have hentry := List.all_eq_true.mp hall ⟨id', o⟩ (AList.mem_lookup_iff.mp ho)
  have hpre : ev.pre.fitsDevice o := by
    rw [OnboardingWorld.fitsDevice, hd]
    exact hfits
  rw [hjoined, hpre] at hentry
  have hpost : ev.post.fitsDevice o := hentry
  rwa [OnboardingWorld.fitsDevice, hd] at hpost

theorem configRunProof (env : OnboardingEnv) :
    Bond.RunProof configBond env customerKept
      (fun ev => OnboardingEvent.fitting ev)
      (fun ev => ∀ c x, OnboardingEvent.configures ev = some (some c, x) → x = none ∨ x = some c)
      (fun deviceID o w => mayConfigure (w.customerOf deviceID) o.customerID) where
  refl s w := by
    cases s with
    | openForDevice | ofPass => exact id
    | _ => trivial
  trans s _ _ _ h h' := by
    cases s with
    | openForDevice | ofPass => exact h' ∘ h
    | _ => trivial
  retries {s c w} hG _ := by
    rintro saleID o d rfl ho - hd
    obtain ⟨hretry, -⟩ := Bool.and_eq_true_iff.mp hG
    have hfits : w.fitsDevice o := by
      have hsome : (w.sales.lookup saleID).all w.fitsDevice := hretry
      rwa [ho] at hsome
    rwa [OnboardingWorld.fitsDevice, hd] at hfits
  spares hG _ := OnboardingEvent.spares_of_fitting hG
  lasts hrely h := hrely h
  devices {deviceID o w w'} hdevices h := by
    have hsame : w'.customerOf deviceID = w.customerOf deviceID := by
      unfold OnboardingWorld.customerOf
      rw [hdevices]
    rwa [hsame]
  loads {deviceID saleID device o w₀ w₁} hdevice hrely hbonded ho hbound hother hprogress := by
    by_cases hplanned : o.state = .planned
    · -- compared with the device as it was read
      have hread : w₀.customerOf deviceID = device.customerID := by
        unfold OnboardingWorld.customerOf
        rw [hdevice]
        rfl
      have hfits : device.customerID = none ∨ o.customerID = none ∨
          device.customerID = o.customerID := by
        simpa [belongsToOther, hplanned, or_iff_not_imp_left] using hother
      rw [mayConfigure_iff]
      rcases hrely (.inr hread) with hnone | hsame
      · exact .inl hnone
      · rwa [hsame]
    · -- a sale past PLANNED is bound to the device
      obtain ⟨d, hd, hfits⟩ := (hbonded saleID o ho).bound (configBond.active hprogress hplanned)
      rcases hbound with hnone | hsome
      · rw [hd] at hnone
        cases hnone
      · rw [hd] at hsome
        cases hsome
        exact hfits
  queues {deviceID saleID o createdBy part writes c w} hknown hX := by
    intro customer x hconfigures
    obtain ⟨row, hrow, hcustomer, -⟩ := hknown.seen
    have hpair : ((w.sales.lookup saleID).bind (·.customerID), w.customerOf deviceID) =
        (some customer, x) := Option.some.inj hconfigures
    obtain ⟨hsale, rfl⟩ := Prod.mk.inj hpair
    rw [hrow] at hsale
    have ho : o.customerID = some customer := hcustomer.symm.trans hsale
    rcases mayConfigure_iff.mp hX with hnone | hnone | hsame
    · exact .inl hnone
    · rw [ho] at hnone
      cases hnone
    · exact .inr (hsame.trans ho)
  others {s c w} hs := by
    intro customer x hconfigures
    unfold OnboardingEvent.configures at hconfigures
    split at hconfigures
    next deviceID saleID o createdBy part writes heq =>
      exact absurd heq (hs deviceID saleID o createdBy part writes)
    · cases hconfigures

/-! ### Every run -/

/-- Whenever configuration is queued for a sale of a customer, the device is nobody's or that
customer's. -/
theorem configured_device_is_customers (env : OnboardingEnv) (as : List OnboardingAction)
    (w : OnboardingWorld) (hsales : w.sales = ∅)
    (hleft : Pool.Undisturbed (OnboardingStmt.exec env) (prog env)
      customerKept as ⟨w, []⟩)
    (hfitting : ∀ ev ∈ (Pool.run (OnboardingStmt.exec env) (prog env) as ⟨w, []⟩).1,
      OnboardingEvent.fitting ev = true) :
    ∀ ev ∈ (Pool.run (OnboardingStmt.exec env) (prog env) as ⟨w, []⟩).1,
      ∀ customer owner, OnboardingEvent.configures ev = some (some customer, owner) →
        owner = none ∨ owner = some customer :=
  (Bond.run_bonded (configRunProof env) as hsales hleft hfitting).1

namespace OnboardingWorld

/-- `d` is sold and configured, and then `c`'s in the registry too. -/
def configuredOnce : List OnboardingAction :=
  [soldWithPlan "S" none, .atomic (.reconcile "d" true) loadable,
   .atomic (.assignCustomer "d" (some "c")) loadable]

/-- `e` is sold; the sale is put on hold and retried. -/
def retriedOnOther : List OnboardingAction :=
  [soldWithPlan "T" (some "e"), .atomic (.reconcile "e" true) loadable,
   .atomic (.retry "s") loadable, .atomic (.reconcile "e" true) loadable]

/-- `d` changes hands while the sale waits for it to authenticate. -/
def movedWhileWaiting : List OnboardingAction :=
  [soldWithPlan "S" none,
   .atomic (.reconcile "d" true) fun n => { loadable n with secured := false },
   .atomic (.assignCustomer "d" (some "b")) loadable, .atomic (.reconcile "d" true) loadable]

/-- `d` changes hands under a pass that has compared the customers. -/
def movedUnderPass : List OnboardingAction :=
  [soldWithPlan "S" none, .spawn (.reconcile "d" true)] ++
    (List.range 7).map (fun n => .step 0 (loadable n)) ++
    [.atomic (.assignCustomer "d" (some "b")) loadable, .step 0 (loadable 8)]

end OnboardingWorld

open OnboardingWorld in
theorem configured_device_is_customers_once :
    (Pool.run (OnboardingStmt.exec .plain) (prog .plain) configuredOnce
      ⟨planAndDevices, []⟩).1.filterMap OnboardingEvent.configures = [(some "c", none)] ∧
    ∀ ev ∈ (Pool.run (OnboardingStmt.exec .plain) (prog .plain) configuredOnce
        ⟨planAndDevices, []⟩).1,
      ∀ customer owner, OnboardingEvent.configures ev = some (some customer, owner) →
        owner = none ∨ owner = some customer :=
  ⟨by decide, configured_device_is_customers .plain configuredOnce planAndDevices rfl (by decide)
    (by decide)⟩

open OnboardingWorld in
/-- Configuration for customer `c` is queued on a device of customer `b`: after a retry, after
the device has changed hands between two passes, and when it changes hands during one. -/
theorem configured_device_is_anothers :
    ([retriedOnOther, movedWhileWaiting, movedUnderPass].map fun as =>
      (Pool.run (OnboardingStmt.exec .plain) (prog .plain) as
        ⟨planAndDevices, []⟩).1.filterMap OnboardingEvent.configures) =
      List.replicate 3 [(some "c", some "b")] := by
  decide

end Acs
