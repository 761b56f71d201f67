/-
What a lookup can tell about accounts that the operator may not see.

A profile enters a row at one place, the join, and everything else of a lookup is computed
from the rows.  A row that the operator's customers let through belongs to a device of one
of them; the join gives it a profile only if the account is that customer's.
-/
import Acs.Subscribers.Lookup

namespace Acs

open SqlBool List

namespace SqlBool

@[simp] theorem eq_eq_true {a b : Option String} :
    eq a b = some true ↔ ∃ c, a = some c ∧ b = some c := by
  cases a <;> cases b <;> simp [eq, eq_comm]

@[simp] theorem eqAny_eq_true {a : Option String} {l : List String} :
    eqAny a l = some true ↔ ∃ c ∈ l, a = some c := by
  cases a <;> simp [eqAny]

theorem or_eq_true {a b : SqlBool} :
    or a b = some true ↔ a = some true ∨ b = some true := by
  rcases a with _ | _ | _ <;> rcases b with _ | _ | _ <;> simp [or]

theorem and_eq_true {a b : SqlBool} :
    and a b = some true ↔ a = some true ∧ b = some true := by
  rcases a with _ | _ | _ <;> rcases b with _ | _ | _ <;> simp [and]

theorem foldr_and {l : List SqlBool} :
    l.foldr and (some true) = some true ↔ ∀ b ∈ l, b = some true := by
  induction l with
  | nil => simp
  | cons b l ih => simp [and_eq_true, ih]

end SqlBool

namespace SubscriberDb

variable {db : SubscriberDb} {customers : List String}

/-- The customers may see the account: one of them owns it, or nobody does and the devices
mapped to it are all of one of them.  An account without owner and devices is nobody's. -/
def visible (db : SubscriberDb) (customers : List String) (accountID : String) : Bool :=
  match db.bssAccounts.lookup accountID with
  | some owner => owner ∈ customers
  | none => db.mappedDevices accountID ≠ [] ∧
      customers.any fun c => (db.mappedDevices accountID).all (·.customerID = some c)

theorem mem_mappedDevices {deviceID accountID : String} {d : SubscriberDevice}
    (hd : db.devices.lookup deviceID = some d) (h : db.accountOf deviceID = some accountID) :
    d ∈ db.mappedDevices accountID := by
  obtain ⟨m, hm, rfl⟩ := Option.map_eq_some_iff.mp h
  have hmem := mem_of_mem_head? hm
  rw [(perm_insertionSort _ _).mem_iff, mem_filter] at hmem
  obtain ⟨hmapped, hkey⟩ := hmem
  obtain ⟨hdevice, hcurrent⟩ := of_decide_eq_true hkey
  refine mem_filterMap.mpr ⟨m, mem_filter.mpr ⟨hmapped, ?_⟩, ?_⟩
  · simpa using hcurrent
  · rw [hdevice, hd]

/-- A device of one of the customers shows the profile of its account only if they may see
the account. -/
theorem visible_of_showsProfile {deviceID accountID c : String} {d : SubscriberDevice}
    (hd : db.devices.lookup deviceID = some d) (haccount : db.accountOf deviceID = some accountID)
    (hc : d.customerID = some c) (hmem : c ∈ customers)
    (h : db.showsProfile accountID d.customerID = some true) : db.visible customers accountID := by
  unfold showsProfile at h
  unfold visible
  cases howner : db.bssAccounts.lookup accountID with
  | some owner =>
    rw [howner] at h
    rcases or_eq_true.mp h with hsame | hnone
    · obtain ⟨c', hc', hd'⟩ := eq_eq_true.mp hsame
      rw [hc] at hd'
      cases hc'
      cases hd'
      simpa using hmem
    · have := (and_eq_true.mp hnone).1
      cases this
  | none =>
    rw [howner] at h
    rcases or_eq_true.mp h with hsame | hnone
    · obtain ⟨c', hc', -⟩ := eq_eq_true.mp hsame
      cases hc'
    · have hall := (and_eq_true.mp hnone).2
      have hhere := mem_mappedDevices hd haccount
      refine decide_eq_true ⟨ne_nil_of_mem hhere, ?_⟩
      rw [any_eq_true]
      refine ⟨c, hmem, all_eq_true.mpr fun d' hd' => ?_⟩
      simp only [Option.some.injEq, Bool.not_eq_true', any_eq_false, decide_eq_true_eq,
        not_not] at hall
      rw [hall d' hd', hc]
      simp

/-- The same database with other profiles. -/
def withProfiles (db : SubscriberDb) (profiles : AList fun _ : String => AccountProfile) :
    SubscriberDb :=
  { db with profiles }

/-- The row of a device of one of the customers is the same, whatever the profiles of the
accounts are that they may not see. -/
theorem row_withProfiles {profiles : AList fun _ : String => AccountProfile}
    (h : ∀ a, db.visible customers a → profiles.lookup a = db.profiles.lookup a)
    {deviceID c : String} {d : SubscriberDevice} (hd : db.devices.lookup deviceID = some d)
    (hc : d.customerID = some c) (hmem : c ∈ customers) :
    (db.withProfiles profiles).row deviceID d = db.row deviceID d := by
  have hprofile : (db.withProfiles profiles).profileFor (db.accountOf deviceID) d.customerID =
      db.profileFor (db.accountOf deviceID) d.customerID := by
    cases haccount : db.accountOf deviceID with
    | none => rfl
    | some a =>
      show (if db.showsProfile a d.customerID = some true then profiles.lookup a else none) =
        if db.showsProfile a d.customerID = some true then db.profiles.lookup a else none
      split
      next hshows =>
        exact h a (visible_of_showsProfile hd haccount hc hmem hshows)
      · rfl
  exact congrArg (fun profile => (⟨deviceID, d, db.accountOf deviceID, profile, _⟩ : SubscriberRow))
    hprofile

end SubscriberDb

namespace Lookup

variable {env : LookupEnv} {p : LookupParams} {db : SubscriberDb}

/-- The rows are those of devices of the customers, which hidden profiles do not enter. -/
theorem rows_withProfiles {profiles : AList fun _ : String => AccountProfile}
    (hscoped : p.isScoped)
    (h : ∀ a, db.visible p.customerIDs a → profiles.lookup a = db.profiles.lookup a) :
    rows env p (db.withProfiles profiles) = rows env p db := by
  have hrow : ∀ e ∈ db.devices.entries,
      Option.guard (accepts env p ·) ((db.withProfiles profiles).row e.1 e.2) =
        Option.guard (accepts env p ·) (db.row e.1 e.2) := by
    intro e he
    by_cases hc : ∃ c ∈ p.customerIDs, e.2.customerID = some c
    · obtain ⟨c, hmem, hc⟩ := hc
      have hlookup : db.devices.lookup e.1 = some e.2 := AList.mem_lookup_iff.mpr he
      rw [SubscriberDb.row_withProfiles h hlookup hc hmem]
    · have hreject : ∀ r, r.device = e.2 →
          Option.guard (accepts env p ·) r = none := by
        intro r hr
        refine Option.guard_eq_none_iff.mpr (Bool.eq_false_iff.mpr fun haccept => hc ?_)
        rw [← hr]
        have hall := foldr_and.mp (of_decide_eq_true haccept)
        exact eqAny_eq_true.mp (hall _ (by simp [conditions, hscoped]))
      rw [hreject _ rfl, hreject _ rfl]
  unfold rows
  rw [show (db.withProfiles profiles).devices = db.devices from rfl, filterMap_congr hrow]

/-- A scoped lookup returns the same hits, whatever the profiles of the accounts are that
its customers may not see. -/
theorem lookup_ignores_hidden_profiles (env : LookupEnv) (p : LookupParams) (db : SubscriberDb)
    (profiles : AList fun _ : String => AccountProfile) (hscoped : p.isScoped = true)
    (h : ∀ a, db.visible p.customerIDs a → profiles.lookup a = db.profiles.lookup a) :
    lookup env p { db with profiles } = lookup env p db := by
  have hrows : rows env p { db with profiles } = rows env p db := rows_withProfiles hscoped h
  unfold lookup
  rw [hrows]

/-- Device `d` of customer `c1` is mapped to account `a2`, which is `c2`'s. -/
def foreignAccount : SubscriberDb where
  devices := (∅ : AList fun _ : String => SubscriberDevice).insert "d"
    { ouiSerial := "A4FC77-0215", customerID := some "c1" }
  mappings :=
    [{ id := "m", accountID := "a2", deviceID := "d", ouiSerial := "A4FC77-0215",
       role := .gateway }]
  bssAccounts := (∅ : AList fun _ : String => String).insert "a2" "c2"
  profiles := (∅ : AList fun _ : String => AccountProfile).insert "a2"
    { displayName := some "jane smith", vip := true }
  sites := ∅

def asciiEnv : LookupEnv where
  toLower := Text.toLower
  lower := Text.toLower
  lastFour s := String.ofList (s.toList.drop (s.toList.length - 4))

/-- What `c1` finds under `a2` is the same without the profile of that account. -/
theorem lookup_ignores_hidden_profiles_foreign :
    lookup asciiEnv { query := "a2", customerIDs := ["c1"], isScoped := true }
        { foreignAccount with profiles := ∅ } =
      lookup asciiEnv { query := "a2", customerIDs := ["c1"], isScoped := true } foreignAccount ∧
    (lookup asciiEnv { query := "a2", customerIDs := ["c1"], isScoped := true }
      foreignAccount).map (fun h => (h.deviceID, h.subscriberName, h.vip, h.score)) =
        [("d", none, false, 140)] := by
  refine ⟨lookup_ignores_hidden_profiles asciiEnv _ foreignAccount ∅ rfl fun a ha => ?_, by decide⟩
  by_cases h : a = "a2"
  · subst h
    exact absurd ha (by decide)
  · exact (AList.lookup_insert_ne h).symm

end Lookup

end Acs
