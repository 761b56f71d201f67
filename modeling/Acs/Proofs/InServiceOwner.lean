/-
Sales in service and the customers of their devices.

A sale joins its device on first contact, when `Apply` makes its customer the device's
owner.  Two things can part them while the sale is IN_SERVICE.  Ending or swapping a sale
releases the device, whoever else is served by it: a device may carry several sales, since
only open ones have to have different serials.  And `Retry` sends a sale that is on hold
because its device is another customer's past the only state in which that is checked.
Without these every sale in service is bound to a device of its customer.
-/
import Acs.Proofs.BondedRuns

namespace Acs

open OnboardingStmt OnboardingTask Option Onboarding

/-- A sale past PLANNED has joined its device, unless it is held because the device is
another customer's, or over. -/
def Onboarding.joinedFor (s : OnboardingState) (code : Option ReasonCode) : Bool :=
  match s with
  | .planned | .cancelled | .ended => false
  | .onHold => decide (code ≠ some .deviceOtherCustomer)
  | _ => true

/-- A sale with a customer is served by a device of that customer. -/
def serviceBond : Bond where
  joined := joinedFor
  fits x c := c = none ∨ x = c
  active {s _} hs hne := by
    cases s <;> first | rfl | exact absurd rfl hne | cases hs
  apart := by
    rintro s code (rfl | rfl | rfl) <;> rfl
  held := by decide
  contact {x c} h := by
    cases x with
    | none => exact .inr rfl
    | some y =>
      rcases h with h | h | h
      · cases h
      · exact .inl h
      · exact .inr h
  locked h := h

/-! ### Customers of devices -/

namespace OnboardingWorld

variable {w w' : OnboardingWorld} {id : String}

/-- Devices that have a customer keep it. -/
def KeepsCustomers (w w' : OnboardingWorld) : Prop :=
  ∀ d, w.customerOf d ≠ none → w'.customerOf d = w.customerOf d

theorem KeepsCustomers.of_devices (h : w'.devices = w.devices) : KeepsCustomers w w' :=
  fun _ _ => by rw [customerOf_congr h]

theorem KeepsCustomers.claimed {dev : String} {c : Option String}
    {f : OnboardingDevice → OnboardingDevice} (hf : ∀ x, (f x).customerID = x.customerID.or c)
    (hdevices : w'.devices = (w.updateDevice dev f).devices) : KeepsCustomers w w' := by
  intro d hd
  rw [customerOf_congr hdevices, customerOf_updateDevice]
  split
  next heq =>
    subst heq
    obtain ⟨c', hc'⟩ := ne_none_iff_exists'.mp hd
    obtain ⟨x, hx, hcustomer⟩ := bind_eq_some_iff.mp hc'
    rw [hc', hx]
    show (f x).customerID = some c'
    rw [hf, hcustomer, some_or]
  · rfl

theorem KeepsCustomers.apply {o : Onboarding} {d : OnboardingDecision} {bindTo : Option String}
    {configJobs : Option (List String)} :
    KeepsCustomers w (w.apply id o d bindTo configJobs).2 := by
  rcases apply_cases (rfl : (w.apply id o d bindTo configJobs).2 = _) with
    heq | ⟨row, -, -, -, heq⟩ | ⟨row, dev, -, -, -, -, -, heq⟩
  · exact .of_devices (by rw [heq])
  · exact .of_devices (by rw [heq]; rfl)
  · rw [heq]
    exact .claimed (c := o.customerID) (fun _ => rfl) rfl

end OnboardingWorld

open OnboardingWorld (KeepsCustomers)

/-- `AssignDeviceCustomer`, the one operation that moves a device between customers. -/
def OnboardingStmt.reassigns : OnboardingStmt → Bool
  | .assignCustomer .. => true
  | _ => false

/-- Only `AssignDeviceCustomer` and the end of a sale take a device from its customer. -/
theorem OnboardingStmt.keepsCustomers {env : OnboardingEnv} {s : OnboardingStmt}
    {c : OnboardingChoice} {w : OnboardingWorld} (hs : s.ended = none)
    (hassign : s.reassigns = false) : KeepsCustomers w (s.exec env c w).2 := by
  by_cases hpass : ∃ deviceID saleID o p, s = .ofPass deviceID saleID o p
  · obtain ⟨deviceID, saleID, o, p, rfl⟩ := hpass
    by_cases hp : ∃ d b k, p = .apply d b k
    · obtain ⟨d, b, k, rfl⟩ := hp
      exact c.delivery.deliver_keeps (.of_devices rfl) .apply
    · exact .of_devices (PassStmt.exec_tables fun d b k heq => hp ⟨d, b, k, heq⟩).2
  · refine exec_keeps (fun d i o p heq => hpass ⟨d, i, o, p, heq⟩) (.of_devices rfl)
      fun w' hdoes => ?_
    cases hdoes with
    | opens | status => exact .of_devices rfl
    | changes _ _ hdevices => exact .of_devices hdevices
    | ends hended | swaps hended => cases hs.symm.trans hended
    | assigns => cases hassign
    | claims => exact .claimed (c := some _) (fun _ => rfl) rfl

/-! ### Careful operations -/

namespace OnboardingWorld

variable (w : OnboardingWorld)

/-- No other sale of a customer is served by the device of the sale. -/
def servedAlone (id : String) : Bool :=
  w.sales.entries.all fun e => decide (e.1 = id) || e.2.customerID.isNone ||
    !joinedFor e.2.state e.2.stateCode || e.2.deviceID.isNone ||
    decide (e.2.deviceID ≠ (w.sales.lookup id).bind (·.deviceID))

/-- The sale is not on hold because the device it is bound to is another customer's. -/
def retriesOwn (id : String) : Bool :=
  !(w.sales.lookup id).any fun o => o.deviceID.isSome ∧ o.state = .onHold ∧
    o.stateCode = some .deviceOtherCustomer

end OnboardingWorld

/-- A device is released only when it serves no other sale, and a sale held for its device
is not retried. -/
def OnboardingEvent.careful (ev : OnboardingEvent) : Bool :=
  match ev.stmt with
  | .retry saleID => ev.pre.retriesOwn saleID
  | .endService saleID _ | .swap saleID .. => ev.pre.servedAlone saleID
  | _ => true

theorem spares_of_keepsCustomers {id : Option String} {w w' : OnboardingWorld}
    (h : KeepsCustomers w w') : serviceBond.Spares id w w' := by
  intro id' o d _ _ _ _ hfits
  rcases hfits with hnone | heq
  · exact .inl hnone
  · rcases eq_none_or_eq_some o.customerID with hnone | ⟨c, hc⟩
    · exact .inl hnone
    · right
      rw [h d (by rw [heq, hc]; simp), heq]

theorem spares_of_servedAlone {id : String} {w w' : OnboardingWorld} (h : w.servedAlone id)
    (hcustomer : ∀ d, (∀ o, w.sales.lookup id = some o → o.deviceID ≠ some d) →
      w'.customerOf d = w.customerOf d) : serviceBond.Spares (some id) w w' := by
  intro id' o d hne ho hjoined hd hfits
  have hentry := List.all_eq_true.mp h ⟨id', o⟩ (AList.mem_lookup_iff.mp ho)
  have hne' : id' ≠ id := fun heq => hne (by rw [heq])
  have hjoined' : joinedFor o.state o.stateCode := hjoined
  simp only [hne', hjoined', hd, decide_false, Bool.false_or, Bool.not_true, Bool.or_false,
    isNone_some, Bool.or_eq_true, decide_eq_true_eq, isNone_iff_eq_none] at hentry
  rcases hentry with hnone | hother
  · exact .inl hnone
  · rw [hcustomer d fun o' ho' hd' => ?_]
    · exact hfits
    · rw [ho'] at hother
      exact hother hd'.symm

theorem serviceRunProof (env : OnboardingEnv) :
    Bond.RunProof serviceBond env (fun _ _ _ => True)
      (fun ev => ev.stmt.reassigns = false ∧ ev.careful) (fun _ => True)
      (fun _ _ _ => True) where
  refl _ _ := trivial
  trans _ _ _ _ _ _ := trivial
  retries {s c w} hG hJ := by
    rintro saleID o d rfl ho hstate hd
    have hown : w.retriesOwn saleID := hG.2
    have hjoined : serviceBond.joined o.state o.stateCode := by
      rcases hstate with hstate | hstate
      · rw [hstate]
        rfl
      · simp only [OnboardingWorld.retriesOwn, ho, any_some, hd, hstate] at hown
        simpa [hstate, serviceBond, joinedFor] using hown
    obtain ⟨d', hd', hfits⟩ := (hJ saleID o ho).bound hjoined
    rw [hd] at hd'
    cases hd'
    exact hfits
  spares {s c w} hG hJ := by
    have hends : ∀ {saleID : String} {w' : OnboardingWorld}, s.ended = some saleID →
        OnboardingWorld.Ends saleID w w' → serviceBond.Spares s.ended w w' := by
      intro saleID w' hs hends
      have hown : w.servedAlone saleID := by
        have hcareful := hG.2
        cases s <;> cases hs <;> exact hcareful
      rw [hs]
      exact spares_of_servedAlone hown hends.2
    cases hs : s.ended with
    | none => exact spares_of_keepsCustomers (keepsCustomers hs hG.1)
    | some saleID =>
      rw [← hs]
      refine exec_keeps (by rintro _ _ _ _ rfl; cases hs) (.of_devices rfl)
        fun w' hdoes => ?_
      cases hdoes with
      | opens | status | assigns | claims => cases hs
      | changes hended => cases hs.symm.trans hended
      | ends hended h => exact hends hended h
      | swaps hended h _ hdevices =>
        have hspares := hends hended h
        rwa [Bond.Spares, ← OnboardingWorld.customerOf_congr hdevices] at hspares
  lasts _ h := h
  devices _ h := h
  loads _ _ _ _ _ _ _ := trivial
  queues _ _ := trivial
  others _ := trivial

/-! ### Every run -/

/-- Every sale of a customer in service is bound to a device of that customer. -/
theorem in_service_device_is_customers (env : OnboardingEnv) (as : List OnboardingAction)
    (w : OnboardingWorld) (hsales : w.sales = ∅)
    (hops : ∀ ev ∈ (Pool.run (OnboardingStmt.exec env) (prog env) as ⟨w, []⟩).1,
      ev.stmt.reassigns = false)
    (hcareful : ∀ ev ∈ (Pool.run (OnboardingStmt.exec env) (prog env) as ⟨w, []⟩).1,
      OnboardingEvent.careful ev = true)
    (id : String) (o : Onboarding) (customer : String)
    (ho : (Pool.run (OnboardingStmt.exec env) (prog env) as
      ⟨w, []⟩).2.shared.sales.lookup id = some o)
    (hstate : o.state = .inService) (hcustomer : o.customerID = some customer) :
    ∃ d, o.deviceID = some d ∧
      (Pool.run (OnboardingStmt.exec env) (prog env) as
        ⟨w, []⟩).2.shared.customerOf d = some customer := by
  obtain ⟨-, hend⟩ := Bond.run_bonded (serviceRunProof env) as hsales
    (Pool.undisturbed_of_forall (fun _ _ _ => trivial) as _) fun ev hev => ⟨hops ev hev, hcareful ev hev⟩
  obtain ⟨d, hd, hfits⟩ := (hend id o ho).bound (by rw [hstate]; rfl)
  refine ⟨d, hd, ?_⟩
  rcases hfits with hnone | heq
  · rw [hcustomer] at hnone
    cases hnone
  · rw [heq, hcustomer]

namespace OnboardingWorld

/-- Device `d` is nobody's, `e` is customer `b`'s. -/
def twoDevices : OnboardingWorld where
  devices := ((∅ : AList fun _ : String => OnboardingDevice).insert "e"
    { oui := "O", serialNumber := "T", customerID := some "b" }).insert "d"
    { oui := "O", serialNumber := "S" }
  plans _ := none

def soldTo (customer serial : String) (deviceID : Option String) : OnboardingTask :=
  .create { customerID := some customer, expectedSerial := serial, deviceID }

/-- `d` is sold to `c` and `e` to `b`; the service of `b` ends. -/
def twoSales : List OnboardingAction :=
  [.atomic (soldTo "c" "S" none) fun _ => { fresh := "s1" },
   .atomic (.reconcile "d" true) fun _ => {},
   .atomic (soldTo "b" "T" none) fun _ => { fresh := "s2" },
   .atomic (.reconcile "e" true) fun _ => {},
   .atomic (.endService "s2" .return) fun _ => {}]

/-- `d` is sold to `c`, and again while in service; the second service ends. -/
def soldTwice : List OnboardingAction :=
  [.atomic (soldTo "c" "S" none) fun _ => { fresh := "s1" },
   .atomic (.reconcile "d" true) fun _ => {},
   .atomic (soldTo "c" "S" none) fun _ => { fresh := "s2" },
   .atomic (.reconcile "d" true) fun _ => {},
   .atomic (.endService "s2" .return) fun _ => {}]

/-- `e` is sold to `c`; the sale is put on hold and retried. -/
def heldAndRetried : List OnboardingAction :=
  [.atomic (soldTo "c" "T" (some "e")) fun _ => { fresh := "s1" },
   .atomic (.reconcile "e" true) fun _ => {},
   .atomic (.retry "s1") fun _ => {},
   .atomic (.reconcile "e" true) fun _ => {}]

/-- State and customer of a sale, and the customer of its device. -/
def service (w : OnboardingWorld) (id : String) :
    Option (OnboardingState × Option String × Option String) :=
  (w.sales.lookup id).map fun o => (o.state, o.customerID, o.deviceID.bind w.customerOf)

end OnboardingWorld

open OnboardingWorld in
theorem in_service_device_is_customers_twoSales :
    (Pool.run (OnboardingStmt.exec .plain) (prog .plain) twoSales
      ⟨twoDevices, []⟩).2.shared.service "s1" = some (.inService, some "c", some "c") ∧
    ∃ d, (some "d" : Option String) = some d ∧
      (Pool.run (OnboardingStmt.exec .plain) (prog .plain) twoSales
        ⟨twoDevices, []⟩).2.shared.customerOf d = some "c" :=
  ⟨by decide, in_service_device_is_customers .plain twoSales twoDevices rfl (by decide) (by decide)
    "s1" { customerID := some "c", expectedSerial := "S", deviceID := some "d",
           state := .inService } "c" (by decide) rfl rfl⟩

open OnboardingWorld in
/-- Ending the second sale takes the device from the first one, which stays in service.
And a sale goes into service on the device of another customer. -/
theorem in_service_device_is_not_customers :
    (Pool.run (OnboardingStmt.exec .plain) (prog .plain) soldTwice
      ⟨twoDevices, []⟩).2.shared.service "s1" = some (.inService, some "c", none) ∧
    (Pool.run (OnboardingStmt.exec .plain) (prog .plain) heldAndRetried
      ⟨twoDevices, []⟩).2.shared.service "s1" = some (.inService, some "c", some "b") := by
  decide

end Acs
