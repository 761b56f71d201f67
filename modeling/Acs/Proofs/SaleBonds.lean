/-
Sales and the customers of their devices.

A sale that has joined its device should fit the device's customer.  Which sales have
joined and what fits is a parameter, a `Bond`: one for what may be configured, one for what
is in service.  Every transaction keeps all sales bonded, under two conditions that the
code does not check: that a retried sale fits its device, and that a device whose customer
changes still fits the other sales that have joined it (`Spares`).
-/
import Acs.Proofs.Passes

namespace Acs

open OnboardingWorld Option

namespace OnboardingWorld

variable {w w' : OnboardingWorld} {id dev : String} {o : Onboarding}

/-! ### Lookups -/

@[simp] theorem lookup_putSale (w : OnboardingWorld) (id id' : String) (o : Onboarding) :
    (w.putSale id o).sales.lookup id' = if id' = id then some o else w.sales.lookup id' :=
  Assoc.lookup_insert_if id id' o w.sales

theorem customerOf_congr (h : w'.devices = w.devices) : w'.customerOf = w.customerOf := by
  funext d
  rw [customerOf, h, customerOf]

theorem customerOf_updateDevice (w : OnboardingWorld) (dev d : String)
    (f : OnboardingDevice → OnboardingDevice) :
    (w.updateDevice dev f).customerOf d =
      if d = dev then ((w.devices.lookup dev).map f).bind (·.customerID) else w.customerOf d := by
  unfold customerOf updateDevice
  rw [Assoc.lookup_mapValues]
  split
  next hd =>
    subst hd
    simp
  · simp only [*, map_id']

/-- The three things `Apply` does: nothing, move the sale, or bind it on first contact. -/
theorem apply_cases {d : OnboardingDecision} {bindTo : Option String}
    {configJobs : Option (List String)} (h : (w.apply id o d bindTo configJobs).2 = w') :
    w' = w ∨
    (∃ row, w.sales.lookup id = some row ∧ row.state = o.state ∧
      (bindTo = none ∨ o.state ≠ .planned) ∧
      w' = w.putSale id (row.applied d bindTo configJobs)) ∨
    ∃ row dev, w.sales.lookup id = some row ∧ row.state = o.state ∧ bindTo = some dev ∧
      o.state = .planned ∧
      (dev ∈ w.devices ∧
        (w.customerOf dev = none ∨ o.customerID = none ∨ w.customerOf dev = o.customerID)) ∧
      w' = (w.putSale id (row.applied d bindTo configJobs)).updateDevice dev fun x =>
        { x with siteID := o.siteID.or x.siteID, customerID := x.customerID.or o.customerID } := by
  unfold apply at h
  split at h
  · exact .inl h.symm
  next row hrow =>
    split at h
    · exact .inl h.symm
    next hstate =>
      have hstate : row.state = o.state := not_not.mp hstate
      dsimp only at h
      split at h
      · exact .inr (.inl ⟨row, hrow, hstate, .inl rfl, h.symm⟩)
      next dev =>
        split at h
        next hne =>
          exact .inr (.inl ⟨row, hrow, hstate, .inr hne, h.symm⟩)
        next hplanned =>
          split at h
          next hguard =>
            exact .inr (.inr ⟨row, dev, hrow, hstate, rfl, not_not.mp hplanned, hguard, h.symm⟩)
          · exact .inl h.symm

theorem customerOf_contact (hdev : dev ∈ w.devices) {row : Onboarding} :
    ((w.putSale id row).updateDevice dev fun x =>
      { x with siteID := o.siteID.or x.siteID, customerID := x.customerID.or o.customerID }).customerOf
        dev = (w.customerOf dev).or o.customerID := by
  obtain ⟨x, hx⟩ := isSome_iff_exists.mp (AList.lookup_isSome.mpr hdev)
  rw [customerOf_updateDevice, if_pos rfl]
  show ((w.devices.lookup dev).map _).bind _ = _
  unfold customerOf
  rw [hx]
  rfl

/-! ### What transactions do -/

/-- One sale is written; jobs, plans and passes are left alone. -/
structure Puts (id : String) (o : Onboarding) (w w' : OnboardingWorld) : Prop where
  sales : w'.sales = (w.putSale id o).sales
  jobs : w'.jobs = w.jobs
  plans : w'.plans = w.plans
  underway : w'.underway = w.underway

/-- A sale stays the one that was recorded, and in its round or a later one. -/
structure SameSale (o o' : Onboarding) : Prop where
  customerID : o'.customerID = o.customerID
  recordedFor : o'.recordedFor = o.recordedFor
  deviceID : o'.deviceID = o.deviceID
  round : o.round ≤ o'.round

/-- What transactions that are not of a pass do to a sale; it is retried only if `again`. -/
inductive Changes (again : Prop) (id : String) (w w' : OnboardingWorld) : Prop
  | records {o' : Onboarding} (hputs : Puts id o' w w') (hnew : w.sales.lookup id = none)
      (hstate : o'.state = .planned) (hdevice : o'.deviceID = o'.recordedFor)
  | stops {o o' : Onboarding} (hputs : Puts id o' w w') (ho : w.sales.lookup id = some o)
      (hsame : SameSale o o') (hstate : o'.state = .cancelled ∨ o'.state = .ended)
  | retries {o o' : Onboarding} (hagain : again) (hputs : Puts id o' w w')
      (ho : w.sales.lookup id = some o) (hsame : SameSale o o') (hround : o.round < o'.round)
      (hdevices : w'.devices = w.devices) (hfrom : o.state = .failed ∨ o.state = .onHold)
      (hstate : o'.state = if o.deviceID = none then .planned else .contacted)
  | replans {o o' : Onboarding} {dev : String} (hputs : Puts id o' w w')
      (ho : w.sales.lookup id = some o) (hsame : SameSale o o') (hround : o.round < o'.round)
      (hdevices : w'.devices = w.devices) (hfrom : o.state = .inService)
      (hstate : o'.state = .discovered ∨ o'.state = .inService) (hdev : o.deviceID = some dev)
      (hfits : o.customerID = none ∨ w.customerOf dev = o.customerID)

theorem create_changes {again : Prop} {toUpper : String → String}
    (h : w.create toUpper id o = some ((), w')) : Changes again id w w' ∧ w'.devices = w.devices := by
  obtain ⟨hfree, h⟩ := ite_none_left_eq_some.mp h
  cases h
  have hnew := AList.lookup_eq_none.mpr fun hmem => hfree (.inr (.inl hmem))
  exact ⟨.records ⟨rfl, rfl, rfl, rfl⟩ hnew rfl rfl, rfl⟩

theorem updateSale_cases {p : Onboarding → Bool} {f : Onboarding → Onboarding} {found : Bool}
    (h : w.updateSale id p f = (found, w')) :
    w' = w ∨ ∃ o, w.sales.lookup id = some o ∧ p o ∧ w' = w.putSale id (f o) := by
  unfold updateSale at h
  split at h
  next o ho =>
    split at h
    next hp =>
      cases h
      exact .inr ⟨o, ho, hp, rfl⟩
    · cases h
      exact .inl rfl
  · cases h
    exact .inl rfl

theorem lockInService_ok (h : w.lockInService id = .ok (o, dev)) :
    w.sales.lookup id = some o ∧ o.state = .inService ∧ o.deviceID = some dev ∧
      (o.customerID = none ∨ w.customerOf dev = o.customerID) := by
  unfold lockInService at h
  split at h
  · cases h
  next o' ho' =>
    split at h
    · cases h
    next hstate =>
      split at h
      · cases h
      next dev' hdev' =>
        split at h
        · cases h
        next hmoved =>
          cases h
          refine ⟨ho', not_not.mp hstate, hdev', ?_⟩
          by_contra hne
          exact hmoved (not_or.mp hne)

/-- The sale stops, and its device is released and no other. -/
def Ends (id : String) (w w' : OnboardingWorld) : Prop :=
  Changes False id w w' ∧ ∀ d, (∀ o, w.sales.lookup id = some o → o.deviceID ≠ some d) →
    w'.customerOf d = w.customerOf d

variable {reason : UnassignReason} {now : Time} {result : EndResult}

theorem endService_ends (h : w.endService id reason now = .ok (result, w')) : Ends id w w' := by
  unfold endService at h
  split at h
  · cases h
  next o dev hlock =>
    obtain ⟨ho, -, hdev, -⟩ := lockInService_ok hlock
    cases h
    refine ⟨.stops ⟨rfl, rfl, rfl, rfl⟩ ho ⟨rfl, rfl, rfl, le_rfl⟩ (.inr rfl),
      fun d hd => (customerOf_updateDevice _ dev d _).trans (if_neg ?_)⟩
    rintro rfl
    exact hd o ho hdev

theorem swap_ends {toUpper : String → String} {newID newSerial newOUI : String}
    (h : w.swap toUpper id newID reason newSerial newOUI now = .ok (result, w')) :
    ∃ w₁, Ends id w w₁ ∧ Changes False newID w₁ w' ∧ w'.devices = w₁.devices := by
  unfold swap at h
  dsimp only at h
  split at h
  · cases h
  · split at h
    next o result' w₁ ho hend =>
      split at h
      · cases h
      next hnew =>
        split at h
        · cases h
        · cases h
          exact ⟨w₁, endService_ends hend,
            .records ⟨rfl, rfl, rfl, rfl⟩ (AList.lookup_eq_none.mpr hnew) rfl rfl, rfl⟩
    · cases h
    · cases h

theorem changePlan_changes {again : Prop} {planID : String} {configures : Bool}
    (h : w.changePlan id planID configures = .ok ((), w')) :
    Changes again id w w' ∧ w'.devices = w.devices := by
  unfold changePlan at h
  split at h
  · cases h
  · cases h
  next o dev plan hlock hplan =>
    obtain ⟨ho, hstate, hdev, hfits⟩ := lockInService_ok hlock
    split at h
    · cases h
    · split at h
      · cases h
      · cases h
        refine ⟨.replans ⟨rfl, rfl, rfl, rfl⟩ ho ⟨rfl, rfl, rfl, Nat.le_succ _⟩ (Nat.lt_succ_self _)
          rfl hstate ?_ hdev hfits, rfl⟩
        dsimp only
        split
        · exact .inl rfl
        · exact .inr hstate

theorem commit_cases {ε α : Type} {r : Except ε (α × OnboardingWorld)} {a : Except ε α}
    (h : w.commit r = (a, w')) : w' = w ∨ ∃ b, r = .ok (b, w') := by
  cases r with
  | error e =>
    cases h
    exact .inl rfl
  | ok p =>
    cases h
    exact .inr ⟨p.1, rfl⟩

/-- Sales stay, with their customer and the device they were recorded for. -/
def KeepsSales (w w' : OnboardingWorld) : Prop :=
  ∀ id o, w.sales.lookup id = some o → ∃ o', w'.sales.lookup id = some o' ∧
    o'.customerID = o.customerID ∧ o'.recordedFor = o.recordedFor

theorem KeepsSales.refl (w : OnboardingWorld) : KeepsSales w w :=
  fun _ o h => ⟨o, h, rfl, rfl⟩

theorem KeepsSales.trans {w₁ w₂ w₃ : OnboardingWorld} (h : KeepsSales w₁ w₂)
    (h' : KeepsSales w₂ w₃) : KeepsSales w₁ w₃ := by
  intro id o ho
  obtain ⟨o₂, ho₂, hcustomer, hrecorded⟩ := h id o ho
  obtain ⟨o₃, ho₃, hcustomer', hrecorded'⟩ := h' id o₂ ho₂
  exact ⟨o₃, ho₃, hcustomer'.trans hcustomer, hrecorded'.trans hrecorded⟩

theorem KeepsSales.of_eq (h : w'.sales = w.sales) : KeepsSales w w' := by
  intro id o ho
  exact ⟨o, by rw [h]; exact ho, rfl, rfl⟩

theorem KeepsSales.put {o' : Onboarding} (hsales : w'.sales = (w.putSale id o').sales)
    (h : ∀ o, w.sales.lookup id = some o → o'.customerID = o.customerID ∧
      o'.recordedFor = o.recordedFor) : KeepsSales w w' := by
  intro id' o ho
  rw [hsales, lookup_putSale]
  split
  next hid =>
    rw [hid] at ho
    exact ⟨o', rfl, h o ho⟩
  · exact ⟨o, ho, rfl, rfl⟩

theorem Changes.keepsSales {again : Prop} (h : Changes again id w w') : KeepsSales w w' := by
  have hput : ∀ {o o'}, Puts id o' w w' → w.sales.lookup id = some o → SameSale o o' →
      KeepsSales w w' := by
    intro o o' hputs ho hsame
    refine .put hputs.sales fun o₁ ho₁ => ?_
    cases some.inj (ho₁.symm.trans ho)
    exact ⟨hsame.customerID, hsame.recordedFor⟩
  cases h with
  | records hputs hnew => exact .put hputs.sales fun o ho => nomatch hnew.symm.trans ho
  | stops hputs ho hsame => exact hput hputs ho hsame
  | retries _ hputs ho hsame => exact hput hputs ho hsame
  | replans hputs ho hsame => exact hput hputs ho hsame

/-- The sale is one that was loaded as `o`. -/
def Seen (w : OnboardingWorld) (id : String) (o : Onboarding) : Prop :=
  ∃ row, w.sales.lookup id = some row ∧ row.customerID = o.customerID ∧
    row.recordedFor = o.recordedFor

theorem Seen.grows (h : w.Seen id o) (hgrows : KeepsSales w w') : w'.Seen id o := by
  obtain ⟨row, hrow, hcustomer, hrecorded⟩ := h
  obtain ⟨row', hrow', hcustomer', hrecorded'⟩ := hgrows id row hrow
  exact ⟨row', hrow', hcustomer'.trans hcustomer, hrecorded'.trans hrecorded⟩

end OnboardingWorld

open OnboardingWorld (KeepsSales Puts Changes Ends)

/-- What is asked for by a pass, as far as bonds go: the device is held, or bound; then the
sale is in progress. -/
theorem Asked.cases {deviceID : String} {o : Onboarding} {device : OnboardingDevice}
    {P : ServicePlan → Prop} {stage : PassStage} {d : OnboardingDecision} {bindTo : Option String}
    {configJobs : Option (List String)}
    (h : Asked deviceID o device P stage d bindTo configJobs) :
    d.state ≠ .planned ∧
      (bindTo = none ∧ d.state = .onHold ∧ d.code = some .deviceOtherCustomer ∨
        bindTo = some deviceID ∧ o.state.inProgress) := by
  cases h with
  | held _ hs hcode => exact ⟨by simp [hs], .inl ⟨rfl, hs, hcode⟩⟩
  | evaluated _ ho hd _ _ _ =>
    refine ⟨?_, .inr ⟨rfl, ho⟩⟩
    rcases hd with ⟨-, -, hs⟩ | ⟨-, -, hs⟩ | ⟨-, -, hs⟩
    · simp [hs]
    · intro hp
      rw [hp] at hs
      simp at hs
    · rcases hs with hs | hs | ⟨hs, -⟩ <;> simp [hs]
  | configured _ ho _ hs _ _ => exact ⟨by simp [hs], .inr ⟨rfl, ho⟩⟩
  | unqueued _ ho hs => exact ⟨by simp [hs], .inr ⟨rfl, ho⟩⟩

/-- The sale a statement ends. -/
def OnboardingStmt.ended : OnboardingStmt → Option String
  | .endService saleID _ | .swap saleID .. => some saleID
  | _ => none

/-- What a statement that is not of a pass does, if it does anything. -/
inductive OnboardingStmt.Does (w : OnboardingWorld) : OnboardingStmt → OnboardingWorld → Prop
  | opens {deviceID saleID : String} {device : OnboardingDevice} :
      Does w (.openForDevice deviceID device) { w with underway := saleID :: w.underway }
  | changes {s : OnboardingStmt} {w' : OnboardingWorld} {id : String} (hs : s.ended = none)
      (hchanges : Changes (s = .retry id) id w w') (hdevices : w'.devices = w.devices) : Does w s w'
  | ends {s : OnboardingStmt} {w' : OnboardingWorld} {id : String} (hs : s.ended = some id)
      (hends : Ends id w w') : Does w s w'
  | swaps {s : OnboardingStmt} {w₁ w' : OnboardingWorld} {id newID : String}
      (hs : s.ended = some id) (hends : Ends id w w₁) (hchanges : Changes False newID w₁ w')
      (hdevices : w'.devices = w₁.devices) : Does w s w'
  | assigns {deviceID : String} {customerID : Option String} :
      Does w (.assignCustomer deviceID customerID) (w.assignCustomer deviceID customerID)
  | claims {deviceID customerID : String} :
      Does w (.claimDevice deviceID customerID) (w.claimDevice deviceID customerID)
  | status {key fault : String} {status : Status} :
      Does w (.setJobStatus key status fault) (w.setJobStatus key status fault)

theorem OnboardingStmt.exec_keeps {env : OnboardingEnv} {s : OnboardingStmt}
    {c : OnboardingChoice} {w : OnboardingWorld} {I : OnboardingWorld → Prop}
    (hpass : ∀ deviceID saleID o p, s ≠ .ofPass deviceID saleID o p) (h : I w)
    (hdoes : ∀ w', s.Does w w' → I w') : I (s.exec env c w).2 := by
  have hcommit : ∀ {ε α : Type} {r : Except ε (α × OnboardingWorld)},
      (∀ b w', r = .ok (b, w') → s.Does w w') → I (c.delivery.attempt w (some (w.commit r))).2 := by
    intro ε α r hr
    refine c.delivery.attempt_keeps h fun a w' hsome => ?_
    rcases commit_cases (some.inj hsome) with rfl | ⟨b, hok⟩
    · exact h
    · exact hdoes w' (hr b w' hok)
  have hupdate : ∀ {id : String} {p : Onboarding → Bool} {f : Onboarding → Onboarding},
      (∀ o, w.sales.lookup id = some o → p o → s.Does w (w.putSale id (f o))) →
      I (c.delivery.attempt w (some (w.updateSale id p f))).2 := by
    intro id p f hf
    refine c.delivery.attempt_keeps h fun a w' hsome => ?_
    rcases updateSale_cases (some.inj hsome) with rfl | ⟨o, ho, hp, rfl⟩
    · exact h
    · exact hdoes _ (hf o ho hp)
  cases s with
  | ofPass deviceID saleID o p => exact absurd rfl (hpass deviceID saleID o p)
  | getDevice => exact h
  | openForDevice deviceID device =>
    unfold OnboardingStmt.exec
    dsimp only
    split
    · exact hdoes _ .opens
    · exact h
  | create o =>
    refine c.delivery.attempt_keeps h fun a w' hr => hdoes w' ?_
    obtain ⟨hchanges, hdevices⟩ := create_changes hr
    exact .changes rfl hchanges hdevices
  | retry saleID =>
    exact hupdate fun o ho hp => .changes rfl
      (.retries rfl ⟨rfl, rfl, rfl, rfl⟩ ho ⟨rfl, rfl, rfl, Nat.le_succ _⟩ (Nat.lt_succ_self _) rfl
        (of_decide_eq_true hp) rfl) rfl
  | cancel | cancelWithReason =>
    exact hupdate fun o ho _ => .changes rfl
      (.stops ⟨rfl, rfl, rfl, rfl⟩ ho ⟨rfl, rfl, rfl, le_rfl⟩ (.inl rfl)) rfl
  | endService => exact hcommit fun _ _ hok => .ends rfl (endService_ends hok)
  | swap =>
    refine hcommit fun _ _ hok => ?_
    obtain ⟨w₁, hends, hchanges, hdevices⟩ := swap_ends hok
    exact .swaps rfl hends hchanges hdevices
  | changePlan =>
    refine hcommit fun _ _ hok => ?_
    obtain ⟨hchanges, hdevices⟩ := changePlan_changes hok
    exact .changes rfl hchanges hdevices
  | assignCustomer => exact c.delivery.deliver_keeps h (hdoes _ .assigns)
  | claimDevice => exact c.delivery.deliver_keeps h (hdoes _ .claims)
  | setJobStatus => exact c.delivery.deliver_keeps h (hdoes _ .status)

/-! ### Bonds -/

/-- Which sales have joined their device, and which customers of a device fit that of a
sale. -/
structure Bond where
  joined : OnboardingState → Option ReasonCode → Bool
  fits : Option String → Option String → Prop
  active : ∀ {s code}, s.inProgress → s ≠ .planned → joined s code
  apart : ∀ {s code}, s = .planned ∨ s = .cancelled ∨ s = .ended → joined s code = false
  held : joined .onHold (some .deviceOtherCustomer) = false
  /-- What `Apply` checks on first contact, and what it makes of it. -/
  contact : ∀ {x c}, x = none ∨ c = none ∨ x = c → fits (x.or c) c
  /-- What `lockInService` checks. -/
  locked : ∀ {x c}, c = none ∨ x = c → fits x c

namespace Bond

variable (B : Bond)

/-- The sale is bound to a device that fits it, if it has joined it.  A sale keeps the
device it was recorded for, and gets another only when it leaves PLANNED. -/
structure Holds (customerOf : String → Option String) (o : Onboarding) : Prop where
  bound : B.joined o.state o.stateCode →
    ∃ d, o.deviceID = some d ∧ B.fits (customerOf d) o.customerID
  recorded : o.recordedFor ≠ none → o.deviceID = o.recordedFor
  planned : o.state = .planned → o.deviceID = o.recordedFor

def Bonded (w : OnboardingWorld) : Prop :=
  ∀ id o, w.sales.lookup id = some o → B.Holds w.customerOf o

/-- Sales that have joined their device still fit it; one may be left out. -/
def Spares (id : Option String) (w w' : OnboardingWorld) : Prop :=
  ∀ id' o d, some id' ≠ id → w.sales.lookup id' = some o → B.joined o.state o.stateCode = true →
    o.deviceID = some d → B.fits (w.customerOf d) o.customerID →
    B.fits (w'.customerOf d) o.customerID

variable {B} {w w' : OnboardingWorld} {id dev : String}

theorem Spares.of_devices {id : Option String} (h : w'.devices = w.devices) : B.Spares id w w' := by
  intro id' o d _ _ _ _ hfits
  rwa [customerOf_congr h]

theorem Holds.spared {o : Onboarding} {c c' : String → Option String} (h : B.Holds c o)
    (hs : ∀ d, o.deviceID = some d → B.joined o.state o.stateCode →
      B.fits (c d) o.customerID → B.fits (c' d) o.customerID) : B.Holds c' o where
  bound hjoined := by
    obtain ⟨d, hd, hfits⟩ := h.bound hjoined
    exact ⟨d, hd, hs d hd hjoined hfits⟩
  recorded := h.recorded
  planned := h.planned

theorem Bonded.spared (h : B.Bonded w) (hsales : w'.sales = w.sales)
    (hs : B.Spares none w w') : B.Bonded w' := by
  intro id o ho
  rw [hsales] at ho
  exact (h id o ho).spared fun d hd hjoined => hs id o d (by simp) ho hjoined hd

theorem Bonded.put (h : B.Bonded w) {o' : Onboarding} (hsales : w'.sales = (w.putSale id o').sales)
    (hs : B.Spares (some id) w w') (ho' : B.Holds w'.customerOf o') : B.Bonded w' := by
  intro id' o ho
  rw [hsales, lookup_putSale] at ho
  split at ho
  · cases ho
    exact ho'
  next hne =>
    exact (h id' o ho).spared fun d hd hjoined => hs id' o d (by simpa using hne) ho hjoined hd

/-! ### Transactions -/

/-- A retried sale has to fit the device it is bound to. -/
theorem Bonded.changes (h : B.Bonded w) {again : Prop} (hchanges : Changes again id w w')
    (hs : B.Spares (some id) w w')
    (hfits : again → ∀ o d, w.sales.lookup id = some o → o.state = .failed ∨ o.state = .onHold →
      o.deviceID = some d → B.fits (w.customerOf d) o.customerID) : B.Bonded w' := by
  have hrecorded : ∀ {o o'}, w.sales.lookup id = some o → SameSale o o' →
      o'.recordedFor ≠ none → o'.deviceID = o'.recordedFor := by
    intro o o' ho hsame hrec
    rw [hsame.deviceID, hsame.recordedFor]
    exact (h id o ho).recorded (hsame.recordedFor ▸ hrec)
  cases hchanges with
  | records hputs hnew hstate hdevice =>
    refine h.put hputs.sales hs ⟨fun hjoined => ?_, fun _ => hdevice, fun _ => hdevice⟩
    rw [hstate, B.apart (.inl rfl)] at hjoined
    cases hjoined
  | stops hputs ho hsame hstate =>
    refine h.put hputs.sales hs ⟨fun hjoined => ?_, hrecorded ho hsame, fun hplanned => ?_⟩
    · rw [B.apart (.inr hstate)] at hjoined
      cases hjoined
    · rw [hplanned] at hstate
      simp at hstate
  | @retries o o' hagain hputs ho hsame _ hdevices hfrom hstate =>
    refine h.put hputs.sales hs ⟨fun hjoined => ?_, hrecorded ho hsame, fun hplanned => ?_⟩
    · rcases eq_none_or_eq_some o.deviceID with hd | ⟨d, hd⟩
      · rw [hstate, if_pos hd, B.apart (.inl rfl)] at hjoined
        cases hjoined
      · rw [hsame.deviceID, hsame.customerID, customerOf_congr hdevices]
        exact ⟨d, hd, hfits hagain o d ho hfrom hd⟩
    · rw [hstate] at hplanned
      split at hplanned
      next hnone =>
        by_contra hne
        rw [hsame.deviceID, hnone] at hne
        exact hne ((hrecorded ho hsame (Ne.symm hne)) ▸ (hsame.deviceID.trans hnone).symm)
      · cases hplanned
  | replans hputs ho hsame _ hdevices _ hstate hdev hfits =>
    refine h.put hputs.sales hs ⟨fun _ => ?_, hrecorded ho hsame, fun hplanned => ?_⟩
    · rw [hsame.deviceID, hsame.customerID, customerOf_congr hdevices]
      exact ⟨_, hdev, B.locked hfits⟩
    · rw [hplanned] at hstate
      simp at hstate

theorem Bonded.apply (h : B.Bonded w) {deviceID : String} {o : Onboarding}
    {device : OnboardingDevice} {P : ServicePlan → Prop} {stage : PassStage}
    {d : OnboardingDecision} {bindTo : Option String} {configJobs : Option (List String)}
    (hasked : Asked deviceID o device P stage d bindTo configJobs) (hseen : w.Seen id o)
    (hdevice : o.deviceID = none ∨ o.deviceID = some deviceID)
    (hplanned : o.state = .planned → o.deviceID = o.recordedFor)
    (happly : (w.apply id o d bindTo configJobs).2 = w') (hs : B.Spares (some id) w w') :
    B.Bonded w' ∧ KeepsSales w w' := by
  obtain ⟨row, hrow, hcustomer, hrecorded⟩ := hseen
  obtain ⟨hnotPlanned, hbind⟩ := hasked.cases
  have hkeeps : w'.sales = (w.putSale id (row.applied d bindTo configJobs)).sales →
      KeepsSales w w' := by
    intro hsales
    refine .put hsales fun o₁ ho₁ => ?_
    rw [hrow] at ho₁
    cases ho₁
    exact ⟨rfl, rfl⟩
  have hstays : row.recordedFor ≠ none →
      (row.applied d bindTo configJobs).deviceID = row.recordedFor := by
    intro hrec
    obtain ⟨x, hx⟩ := ne_none_iff_exists'.mp hrec
    show row.deviceID.or bindTo = row.recordedFor
    rw [(h id row hrow).recorded hrec, hx, some_or]
  rcases apply_cases happly with rfl | ⟨row', hrow', hstate, hwhy, rfl⟩ |
    ⟨row', dev, hrow', hstate, hdev, hfirst, hguard, rfl⟩
  · exact ⟨h, .refl _⟩
  · rw [hrow] at hrow'
    cases hrow'
    refine ⟨h.put rfl hs ⟨fun hjoined => ?_, hstays, fun hp => absurd hp hnotPlanned⟩, hkeeps rfl⟩
    rcases hbind with ⟨-, honHold, hcode⟩ | ⟨hbound, hprogress⟩
    · have hstate' : (row.applied d bindTo configJobs).state = .onHold := honHold
      have hcode' : (row.applied d bindTo configJobs).stateCode = some .deviceOtherCustomer := hcode
      rw [hstate', hcode', B.held] at hjoined
      cases hjoined
    · -- past PLANNED the sale has joined its device before
      have hne : row.state ≠ .planned := by
        rw [hstate]
        exact hwhy.resolve_left (by simp [hbound])
      obtain ⟨x, hx, hfits⟩ := (h id row hrow).bound
        (B.active (by rw [hstate]; exact hprogress) hne)
      exact ⟨x, by show row.deviceID.or bindTo = some x; rw [hx, some_or], hfits⟩
  · rw [hrow] at hrow'
    cases hrow'
    have hdev' : dev = deviceID := by
      rcases hbind with ⟨hnone, -⟩ | ⟨hbound, -⟩
      · rw [hdev] at hnone
        cases hnone
      · rw [hdev] at hbound
        exact some.inj hbound
    subst hdev'
    -- a PLANNED sale is bound to the device it was recorded for, or to none
    have hbound : (row.applied d bindTo configJobs).deviceID = some dev := by
      show row.deviceID.or bindTo = some dev
      rw [(h id row hrow).planned (by rw [hstate, hfirst]), hrecorded, ← hplanned hfirst, hdev]
      rcases hdevice with hnone | hsome
      · rw [hnone, none_or]
      · rw [hsome, some_or]
    refine ⟨h.put rfl hs ⟨fun _ => ⟨dev, hbound, ?_⟩, hstays, fun hp => absurd hp hnotPlanned⟩,
      hkeeps rfl⟩
    have hcustomer' : (row.applied d bindTo configJobs).customerID = o.customerID := hcustomer
    rw [customerOf_contact hguard.1, hcustomer']
    exact B.contact hguard.2

/-! ### Statements -/

/-- A retried sale that is bound to a device fits it. -/
def RetriesFit (s : OnboardingStmt) (w : OnboardingWorld) : Prop :=
  ∀ saleID o d, s = .retry saleID → w.sales.lookup saleID = some o →
    o.state = .failed ∨ o.state = .onHold → o.deviceID = some d →
    B.fits (w.customerOf d) o.customerID

theorem Bonded.exec (h : B.Bonded w) (env : OnboardingEnv) {s : OnboardingStmt}
    (c : OnboardingChoice) (hpass : ∀ deviceID saleID o p, s ≠ .ofPass deviceID saleID o p)
    (hretry : RetriesFit (B := B) s w) (hs : B.Spares s.ended w (s.exec env c w).2) :
    B.Bonded (s.exec env c w).2 ∧ KeepsSales w (s.exec env c w).2 := by
  refine OnboardingStmt.exec_keeps (I := fun w' => B.Spares s.ended w w' →
    B.Bonded w' ∧ KeepsSales w w') hpass (fun _ => ⟨h, .refl w⟩) (fun w' hdoes hs => ?_) hs
  cases hdoes with
  | opens | assigns | claims | status => exact ⟨h.spared rfl hs, .of_eq rfl⟩
  | changes _ hchanges hdevices =>
    exact ⟨h.changes hchanges (.of_devices hdevices) fun hs o d => hretry _ o d hs,
      hchanges.keepsSales⟩
  | ends hended hends =>
    rw [hended] at hs
    exact ⟨h.changes hends.1 hs nofun, hends.1.keepsSales⟩
  | @swaps _ w₁ _ _ _ hended hends hchanges hdevices =>
    rw [hended] at hs
    rw [Spares, customerOf_congr hdevices] at hs
    exact ⟨(h.changes hends.1 hs nofun).changes hchanges (.of_devices hdevices) nofun,
      hends.1.keepsSales.trans hchanges.keepsSales⟩

end Bond

/-- Only `Apply` changes sales and devices. -/
theorem PassStmt.exec_tables {deviceID saleID : String} {o : Onboarding} {s : PassStmt}
    {c : OnboardingChoice} {w : OnboardingWorld} (hs : ∀ d b k, s ≠ .apply d b k) :
    (s.exec deviceID saleID o c w).2.sales = w.sales ∧
      (s.exec deviceID saleID o c w).2.devices = w.devices := by
  have hjob : ∀ {key : String} {j : OnboardingJob},
      (c.delivery.attempt w (w.createJob key j)).2.sales = w.sales ∧
        (c.delivery.attempt w (w.createJob key j)).2.devices = w.devices := by
    intro key j
    rcases c.delivery.attempt_state w (w.createJob key j) with heq | ⟨a, w', hsome, heq⟩
    · rw [heq]
      exact ⟨rfl, rfl⟩
    · rw [heq]
      obtain ⟨-, hsome⟩ := ite_none_left_eq_some.mp hsome
      cases hsome
      exact ⟨rfl, rfl⟩
  have hread : ∀ {α : Type} (a : α), (c.delivery.deliver a w w).2.sales = w.sales ∧
      (c.delivery.deliver a w w).2.devices = w.devices := by
    intro α a
    rw [or_self_iff.mp (c.delivery.deliver_state a w w)]
    exact ⟨rfl, rfl⟩
  cases s with
  | apply d b k => exact absurd rfl (hs d b k)
  | createSIMRead | createConfigJob => exact hjob
  | configOutcome | hasOpenJobByCreator => exact hread _
  | _ => exact ⟨rfl, rfl⟩

end Acs
