/-
A mapped device belongs to the owner of the account.

A transaction that maps a device reads the customer of the device, and if there is none it
sets one with an UPDATE that does nothing when somebody else has been faster.  Nobody looks
at how many rows the UPDATE changed.  If it finds no other customer there, the transaction
holds the device, or the device already is the owner's, and the customer of a device never
changes again: what the mapping needs at the insert is still so at the commit.
-/
import Acs.Bss.Mapping
import Acs.Lib.Growing

namespace Acs

open List BssWorld Option BssStmt Prog AList

namespace BssWorld

variable {w w' : BssWorld} {n m : Nat} {t : BssTx} {deviceID customer : String}

theorem mem_of_customerOf (h : w.customerOf deviceID = some customer) : deviceID ∈ w.devices := by
  obtain ⟨d, hd, -⟩ := bind_eq_some_iff.mp h
  exact lookup_isSome.mp (by rw [hd]; rfl)

/-! ### Transactions in the list -/

theorem openTx_iff : w.openTx n = some t ↔ w.txs[n]? = some t ∧ t.phase = .open := by
  simp [openTx]

theorem mem_otherTxs (hne : m ≠ n) (h : w.openTx m = some t) : t ∈ w.otherTxs n := by
  obtain ⟨hm, hopen⟩ := openTx_iff.mp h
  refine mem_map.mpr ⟨(t, m), mem_filter.mpr ⟨?_, ?_⟩, rfl⟩
  · exact mem_zipIdx_iff_getElem?.mpr hm
  · simp [hne, hopen]

theorem txs_putTx (h : w.txs[n]? = some t) (t' : BssTx) (m : Nat) :
    (w.putTx n t').txs[m]? = if m = n then some t' else w.txs[m]? := by
  have hlt : n < w.txs.length := (List.getElem?_eq_some_iff.mp h).1
  show (w.txs.set n t')[m]? = _
  rw [getElem?_set]
  by_cases hm : n = m
  · subst hm
    simp [hlt]
  · have hm' : ¬ m = n := fun heq => hm heq.symm
    rw [if_neg hm, if_neg hm']

/-! ### What is never lost -/

/-- The device is the customer's: committed, or by a write of the transaction. -/
def Holds (w : BssWorld) (n : Nat) (deviceID customer : String) : Prop :=
  (∃ t, w.txs[n]? = some t ∧ t.claimed deviceID = some customer) ∨
    w.customerOf deviceID = some customer

/-- The transaction is one for the account. -/
def TxFor (w : BssWorld) (n : Nat) (accountID : String) : Prop :=
  ∃ t, w.txs[n]? = some t ∧ t.accountID = accountID

/-- What transactions never take back. -/
structure Grows (w w' : BssWorld) : Prop where
  owner : w'.owner = w.owner
  device : ∀ d ∈ w.devices, d ∈ w'.devices
  customer : ∀ d c, w.customerOf d = some c → w'.customerOf d = some c
  tx : ∀ (n : Nat) (t : BssTx), w.txs[n]? = some t → ∃ t' : BssTx, w'.txs[n]? = some t' ∧
    t'.accountID = t.accountID ∧ ∀ d c, t.claimed d = some c → t'.claimed d = some c

theorem Grows.refl (w : BssWorld) : Grows w w :=
  ⟨rfl, fun _ h => h, fun _ _ h => h, fun _ t h => ⟨t, h, rfl, fun _ _ h => h⟩⟩

theorem Grows.trans {w₁ w₂ w₃ : BssWorld} (h : Grows w₁ w₂) (h' : Grows w₂ w₃) : Grows w₁ w₃ := by
  refine ⟨h'.owner.trans h.owner, fun d hd => h'.device d (h.device d hd),
    fun d c hc => h'.customer d c (h.customer d c hc), ?_⟩
  intro n t ht
  obtain ⟨t₂, ht₂, haccount₂, hclaims₂⟩ := h.tx n t ht
  obtain ⟨t₃, ht₃, haccount₃, hclaims₃⟩ := h'.tx n t₂ ht₂
  exact ⟨t₃, ht₃, haccount₃.trans haccount₂, fun d c hc => hclaims₃ d c (hclaims₂ d c hc)⟩

theorem Holds.grows (h : w.Holds n deviceID customer) (hgrows : Grows w w') :
    w'.Holds n deviceID customer := by
  rcases h with ⟨t, ht, hclaim⟩ | hcustomer
  · obtain ⟨t', ht', -, hclaims⟩ := hgrows.tx n t ht
    exact .inl ⟨t', ht', hclaims _ _ hclaim⟩
  · exact .inr (hgrows.customer _ _ hcustomer)

theorem TxFor.grows {accountID : String} (h : w.TxFor n accountID) (hgrows : Grows w w') :
    w'.TxFor n accountID := by
  obtain ⟨t, ht, haccount⟩ := h
  obtain ⟨t', ht', haccount', -⟩ := hgrows.tx n t ht
  exact ⟨t', ht', haccount'.trans haccount⟩

theorem grows_putTx {t' : BssTx} (ht : w.txs[n]? = some t) (haccount : t'.accountID = t.accountID)
    (hclaims : ∀ d c, t.claimed d = some c → t'.claimed d = some c) : Grows w (w.putTx n t') := by
  refine ⟨rfl, fun _ h => h, fun _ _ h => h, ?_⟩
  intro m u hu
  rw [txs_putTx ht]
  split
  next hm =>
    subst hm
    cases ht.symm.trans hu
    exact ⟨t', rfl, haccount, hclaims⟩
  · exact ⟨u, hu, rfl, fun _ _ h => h⟩

/-! ### The invariant -/

/-- What an open transaction has written, it may commit. -/
structure TxSound (w : BssWorld) (n : Nat) (t : BssTx) : Prop where
  device : ∀ d c, t.claimed d = some c → d ∈ w.devices
  /-- A device it has claimed is nobody's. -/
  free : ∀ d c, t.claimed d = some c → w.customerOf d = none
  owner : ∀ d c, t.claimed d = some c → w.owner t.accountID = some c
  alone : ∀ m u d c, w.openTx m = some u → m ≠ n → t.claimed d = some c → u.claimed d = none
  backed : ∀ row ∈ t.opened, ∀ c, w.owner row.accountID = some c → w.Holds n row.deviceID c

/-- All open transactions are so. -/
def Sound (w : BssWorld) : Prop :=
  ∀ n t, w.openTx n = some t → w.TxSound n t

theorem TxSound.grows (h : w.TxSound n t) (hgrows : Grows w w')
    (hfree : ∀ d c, t.claimed d = some c → w'.customerOf d = none)
    (halone : ∀ m u d c, w'.openTx m = some u → m ≠ n → t.claimed d = some c →
      u.claimed d = none) : w'.TxSound n t where
  device d c hc := hgrows.device d (h.device d c hc)
  free := hfree
  owner d c hc := by
    rw [hgrows.owner]
    exact h.owner d c hc
  alone := halone
  backed row hrow c hc := by
    rw [hgrows.owner] at hc
    exact (h.backed row hrow c hc).grows hgrows

/-- An open transaction after a step of another one, or of itself. -/
theorem openTx_putTx {t' u : BssTx} (ht : w.txs[n]? = some t)
    (hu : (w.putTx n t').openTx m = some u) :
    (m = n ∧ u = t' ∧ t'.phase = .open) ∨ (m ≠ n ∧ w.openTx m = some u) := by
  obtain ⟨hget, hopen⟩ := openTx_iff.mp hu
  rw [txs_putTx ht] at hget
  split at hget
  next hm =>
    cases hget
    exact .inl ⟨hm, rfl, hopen⟩
  next hm =>
    exact .inr ⟨hm, openTx_iff.mpr ⟨hget, hopen⟩⟩

/-- A transaction that has written more.  What it claims newly is nobody's, and no other
transaction holds it. -/
theorem Sound.putTx {t' : BssTx} (h : w.Sound) (ht : w.openTx n = some t)
    (haccount : t'.accountID = t.accountID)
    (hkept : ∀ d c, t.claimed d = some c → t'.claimed d = some c)
    (hnew : ∀ d c, t'.claimed d = some c → t.claimed d = some c ∨ d ∈ w.devices ∧
      w.customerOf d = none ∧ w.owner t.accountID = some c ∧
        ∀ u ∈ w.otherTxs n, u.claimed d = none)
    (hbacked : t'.phase = .open → ∀ row ∈ t'.opened, ∀ c, w.owner row.accountID = some c →
      w.Holds n row.deviceID c) : (w.putTx n t').Sound ∧ Grows w (w.putTx n t') := by
  have hget := (openTx_iff.mp ht).1
  have hgrows : Grows w (w.putTx n t') := grows_putTx hget haccount hkept
  have hclaim : ∀ d c, t'.claimed d = some c → d ∈ w.devices ∧ w.customerOf d = none ∧
      w.owner t.accountID = some c ∧
        ∀ m u, w.openTx m = some u → m ≠ n → u.claimed d = none := by
    intro d c hc
    rcases hnew d c hc with hc | ⟨hdevice, hfree, howner, hunlocked⟩
    · have hsound := h n t ht
      exact ⟨hsound.device d c hc, hsound.free d c hc, hsound.owner d c hc,
        fun m u hu hne => hsound.alone m u d c hu hne hc⟩
    · exact ⟨hdevice, hfree, howner, fun m u hu hne => hunlocked u (mem_otherTxs hne hu)⟩
  refine ⟨fun m u hu => ?_, hgrows⟩
  rcases openTx_putTx hget hu with ⟨rfl, rfl, hopen⟩ | ⟨hne, hother⟩
  · refine ⟨fun d c hc => (hclaim d c hc).1, fun d c hc => (hclaim d c hc).2.1,
      fun d c hc => haccount ▸ (hclaim d c hc).2.2.1, ?_,
      fun row hrow c hc => (hbacked hopen row hrow c hc).grows hgrows⟩
    intro m' u' d c hu' hne hc
    rcases openTx_putTx hget hu' with ⟨heq, -, -⟩ | ⟨-, hu'⟩
    · exact absurd heq hne
    · exact (hclaim d c hc).2.2.2 m' u' hu' hne
  · refine (h m u hother).grows hgrows (h m u hother).free ?_
    intro m' u' d c hu' hne' hc
    rcases openTx_putTx hget hu' with ⟨rfl, rfl, -⟩ | ⟨-, hu'⟩
    · refine eq_none_iff_forall_ne_some.mpr fun c' hc' => ?_
      cases ((hclaim d c' hc').2.2.2 m u hother hne).symm.trans hc
    · exact (h m u hother).alone m' u' d c hu' hne' hc

/-! ### Operations -/

theorem sound_begin (h : w.Sound) {accountID : String} {r : Nat}
    (hbegin : w.begin accountID = some (r, w')) :
    w'.Sound ∧ Grows w w' ∧ w'.TxFor r accountID := by
  cases hbegin
  have hold : ∀ (m : Nat) (u : BssTx), w.txs[m]? = some u →
      (w.txs ++ [({ accountID } : BssTx)])[m]? = some u := by
    intro m u hu
    rw [getElem?_append_left (List.getElem?_eq_some_iff.mp hu).1]
    exact hu
  have hgrows : Grows w { w with txs := w.txs ++ [({ accountID } : BssTx)] } :=
    ⟨rfl, fun _ h => h, fun _ _ h => h, fun m u hu => ⟨u, hold m u hu, rfl, fun _ _ h => h⟩⟩
  have hcases : ∀ m u, ({ w with txs := w.txs ++ [({ accountID } : BssTx)] } : BssWorld).openTx m =
      some u → w.openTx m = some u ∨ u = { accountID } := by
    intro m u hu
    obtain ⟨hget, hopen⟩ := openTx_iff.mp hu
    by_cases hm : m < w.txs.length
    · exact .inl (openTx_iff.mpr ⟨by rwa [getElem?_append_left hm] at hget, hopen⟩)
    · rw [getElem?_append_right (le_of_not_gt hm)] at hget
      exact .inr (by simpa using mem_of_getElem? hget)
  refine ⟨?_, hgrows, ⟨{ accountID }, by simp, rfl⟩⟩
  intro m u hu
  rcases hcases m u hu with hu | rfl
  · refine (h m u hu).grows hgrows (h m u hu).free ?_
    intro m' u' d c hu' hne hc
    rcases hcases m' u' hu' with hu' | rfl
    · exact (h m u hu).alone m' u' d c hu' hne hc
    · rfl
  · constructor
    · intro d c hc; cases hc
    · intro d c hc; cases hc
    · intro d c hc; cases hc
    · intro m' u' d c _ _ hc; cases hc
    · intro row hrow; cases hrow

theorem sound_closeMapping (h : w.Sound) {accountID : String} {role : DeviceRole}
    {reason : UnassignReason} {now : Time} {r : Option (Option String)}
    (hclose : w.closeMapping n accountID role reason now = some (r, w')) :
    w'.Sound ∧ Grows w w' := by
  obtain ⟨t, ht, hrest⟩ := bind_eq_some_iff.mp hclose
  dsimp only at hrest
  split at hrest
  · cases hrest
  · cases hrest
    exact h.putTx ht rfl (fun _ _ hc => hc) (fun _ _ => .inl) fun _ => (h n t ht).backed

theorem sound_insertMapping (h : w.Sound) {row : AccountDeviceMapping} {r : InsertOutcome}
    (hbacked : ∀ c, w.owner row.accountID = some c → w.Holds n row.deviceID c)
    (hinsert : w.insertMapping n row = some (r, w')) : w'.Sound ∧ Grows w w' := by
  obtain ⟨t, ht, hrest⟩ := bind_eq_some_iff.mp hinsert
  dsimp only at hrest
  split at hrest
  · cases hrest
    exact ⟨h, .refl w⟩
  split at hrest
  · cases hrest
    exact ⟨h, .refl w⟩
  split at hrest
  · cases hrest
  · cases hrest
    refine h.putTx ht rfl (fun _ _ hc => hc) (fun _ _ => .inl) fun _ row' hrow' => ?_
    rcases mem_cons.mp hrow' with rfl | hrow'
    · exact hbacked
    · exact (h n t ht).backed row' hrow'

theorem sound_rollback (h : w.Sound) {r : Unit} (hrollback : w.rollback n = some (r, w')) :
    w'.Sound ∧ Grows w w' := by
  obtain ⟨t, ht, heq⟩ := map_eq_some_iff.mp hrollback
  cases heq
  exact h.putTx ht rfl (fun _ _ hc => hc) (fun _ _ => .inl) nofun

theorem customerOf_commit {r : Unit} (ht : w.openTx n = some t)
    (hcommit : w.commit n = some (r, w')) (hdevice : deviceID ∈ w.devices) :
    w'.customerOf deviceID = (t.claimed deviceID).or (w.customerOf deviceID) := by
  rw [commit, ht] at hcommit
  cases hcommit
  obtain ⟨d, hd⟩ := isSome_iff_exists.mp (lookup_isSome.mpr hdevice)
  simp [customerOf, hd, claimedDevice]

theorem sound_commit (h : w.Sound) {r : Unit} (hcommit : w.commit n = some (r, w')) :
    w'.Sound ∧ Grows w w' := by
  obtain ⟨t, ht, heq⟩ := map_eq_some_iff.mp hcommit
  have hcustomer : ∀ {d}, d ∈ w.devices →
      w'.customerOf d = (t.claimed d).or (w.customerOf d) := customerOf_commit ht hcommit
  have hgrows : Grows w (w.putTx n { t with phase := .committed }) :=
    grows_putTx (openTx_iff.mp ht).1 rfl fun _ _ hc => hc
  have hkept : ∀ d c, w.customerOf d = some c → w'.customerOf d = some c := by
    intro d c hc
    have hd : d ∈ w.devices := mem_of_customerOf hc
    rw [hcustomer hd, hc]
    cases hclaim : t.claimed d with
    | none => rfl
    | some c' => cases ((h n t ht).free d c' hclaim).symm.trans hc
  have hdevices : ∀ d ∈ w.devices, d ∈ w'.devices := by
    intro d hd
    cases heq
    rw [← lookup_isSome] at hd ⊢
    simpa using hd
  have htxs : w'.txs = (w.putTx n { t with phase := .committed }).txs := by
    cases heq
    rfl
  have hgrows' : Grows w w' := by
    refine ⟨by cases heq; rfl, hdevices, hkept, ?_⟩
    rw [htxs]
    exact hgrows.tx
  refine ⟨?_, hgrows'⟩
  intro m u hu
  have hopen : ∀ m' u', w'.openTx m' = some u' → m' ≠ n ∧ w.openTx m' = some u' := by
    intro m' u' hu'
    have hu' : (w.putTx n { t with phase := .committed }).openTx m' = some u' := by
      rw [openTx, ← htxs]
      exact hu'
    rcases openTx_putTx (openTx_iff.mp ht).1 hu' with ⟨-, -, hphase⟩ | hother
    · cases hphase
    · exact hother
  obtain ⟨hne, hu⟩ := hopen m u hu
  refine (h m u hu).grows hgrows' ?_ ?_
  · intro d c hc
    have halone : t.claimed d = none := (h m u hu).alone n t d c ht hne.symm hc
    rw [hcustomer ((h m u hu).device d c hc), halone]
    exact (h m u hu).free d c hc
  · intro m' u' d c hu' hne' hc
    exact (h m u hu).alone m' u' d c (hopen m' u' hu').2 hne' hc

theorem sound_claimDevice (h : w.Sound) {r : Unit} (hdevice : deviceID ∈ w.devices)
    (htx : ∃ accountID, w.TxFor n accountID ∧ w.owner accountID = some customer)
    (hclaim : w.claimDevice n deviceID customer = some (r, w')) :
    w'.Sound ∧ Grows w w' ∧
      (w.customerOf deviceID = none ∨ w.customerOf deviceID = some customer →
        w'.Holds n deviceID customer) := by
  obtain ⟨t, ht, hrest⟩ := bind_eq_some_iff.mp hclaim
  obtain ⟨accountID, ⟨t₀, ht₀, rfl⟩, howner⟩ := htx
  have hget := (openTx_iff.mp ht).1
  cases ht₀.symm.trans hget
  split at hrest
  · cases hrest
  rename_i hunlocked
  split at hrest
  next hfree =>
    cases hrest
    have hcons : ∀ d, BssTx.claimed { t with claims := (deviceID, customer) :: t.claims } d =
        if d = deviceID then some customer else t.claimed d := by
      intro d
      by_cases hd : d = deviceID
      · rw [hd, if_pos rfl]
        exact lookup_cons_self
      · rw [if_neg hd, BssTx.claimed, lookup_cons, beq_false_of_ne hd]
        rfl
    refine and_assoc.mp ⟨h.putTx ht rfl (fun d c hc => ?_) (fun d c hc => ?_)
      fun _ => (h n t ht).backed, fun _ => .inl ⟨_, (txs_putTx hget _ n).trans (if_pos rfl),
        lookup_cons_self⟩⟩
    · rw [hcons, if_neg, hc]
      rintro rfl
      cases hfree.2.2.symm.trans hc
    · rw [hcons] at hc
      split at hc
      next hd =>
        subst hd
        cases hc
        refine .inr ⟨hdevice, hfree.2.1, howner, fun u hu => ?_⟩
        by_contra hsome
        exact hunlocked (any_eq_true.mpr ⟨u, hu, isSome_iff_ne_none.mpr hsome⟩)
      next => exact .inl hc
  next hnot =>
    cases hrest
    refine ⟨h, .refl w, ?_⟩
    rintro (hnone | hsome)
    · -- the transaction holds the device already, for the owner of its account
      cases hown : t.claimed deviceID with
      | none => exact absurd ⟨hdevice, hnone, hown⟩ hnot
      | some c =>
        cases howner.symm.trans ((h n t ht).owner deviceID c hown)
        exact .inl ⟨t, hget, hown⟩
    · exact .inr hsome

theorem selectDevice_some {ouiSerial accountID : String} {seen owner : Option String}
    (ht : w.openTx n = some t)
    (h : w.selectDevice t ouiSerial accountID = some (deviceID, seen, owner)) :
    deviceID ∈ w.devices ∧ owner = w.owner accountID ∧
      ∀ c, seen = some c → w.Holds n deviceID c := by
  obtain ⟨⟨id, d⟩, hfind, heq⟩ := map_eq_some_iff.mp h
  cases heq
  have hlookup : w.devices.lookup id = some d :=
    mem_lookup_iff.mpr (mem_of_find?_eq_some hfind)
  refine ⟨lookup_isSome.mp (by rw [hlookup]; rfl), rfl, ?_⟩
  intro c hc
  cases hclaim : t.claimed id with
  | some c' =>
    rw [hclaim] at hc
    cases hc
    exact .inl ⟨t, (openTx_iff.mp ht).1, hclaim⟩
  | none =>
    rw [hclaim] at hc
    right
    rw [customerOf, hlookup]
    exact hc

end BssWorld

/-! ### Statements -/

/-- What an answer tells, for good. -/
def BssStmt.Told (w : BssWorld) : (s : BssStmt) → s.Res → Prop
  | .begin accountID, some n => w.TxFor n accountID
  | .selectDevice n _ accountID, some (some (deviceID, seen, owner)) =>
    deviceID ∈ w.devices ∧ owner = w.owner accountID ∧ ∀ c, seen = some c → w.Holds n deviceID c
  | .claimDevice n deviceID customer, some _ => w.Holds n deviceID customer
  | _, _ => True

/-- What a statement rests on. -/
def BssStmt.Founded (w : BssWorld) : BssStmt → Prop
  | .claimDevice n deviceID customer =>
    deviceID ∈ w.devices ∧ ∃ accountID, w.TxFor n accountID ∧ w.owner accountID = some customer
  | .insertMapping n m => ∀ c, w.owner m.accountID = some c → w.Holds n m.deviceID c
  | _ => True

/-- An UPDATE that was to give a device a customer has not found another one there. -/
def unraced : BssEvent → Bool
  | ⟨.claimDevice _ deviceID customer, some _, pre, _⟩ =>
    pre.customerOf deviceID = none ∨ pre.customerOf deviceID = some customer
  | _ => true

theorem told_mono (w w' : BssWorld) (s : BssStmt) (r : s.Res) (hgrows : Grows w w')
    (h : s.Told w r) : s.Told w' r := by
  cases s with
  | begin accountID =>
    cases r with
    | none => trivial
    | some n => exact TxFor.grows h hgrows
  | selectDevice n ouiSerial accountID =>
    rcases r with _ | _ | ⟨deviceID, seen, owner⟩
    · trivial
    · trivial
    · obtain ⟨hdevice, howner, hseen⟩ := h
      exact ⟨hgrows.device _ hdevice, howner.trans (congrFun hgrows.owner accountID).symm,
        fun c hc => (hseen c hc).grows hgrows⟩
  | claimDevice n deviceID customer =>
    cases r with
    | none => trivial
    | some _ => exact Holds.grows h hgrows
  | _ => trivial

theorem bss_exec (s : BssStmt) (c : BssChoice) (w : BssWorld)
    (hrace : unraced (Pool.fire BssStmt.exec s c w)) (hfounded : s.Founded w) (h : w.Sound) :
    s.Told (s.exec c w).2 (s.exec c w).1 ∧ (s.exec c w).2.Sound ∧
      Grows w (s.exec c w).2 := by
  have hplain : ∀ {α : Type} {r : Option (α × BssWorld)},
      (∀ a w', r = some (a, w') → w'.Sound ∧ Grows w w') →
      (c.delivery.attempt w r).2.Sound ∧ Grows w (c.delivery.attempt w r).2 :=
    fun hr => c.delivery.attempt_keeps (I := fun w' => w'.Sound ∧ Grows w w')
      ⟨h, .refl w⟩ hr
  cases s with
  | begin accountID =>
    refine c.delivery.attempt_rule (P := fun r w' => (begin accountID).Told w' r ∧
      w'.Sound ∧ Grows w w') ⟨trivial, h, .refl w⟩ fun n w' heq => ?_
    obtain ⟨hsound, hgrows, htx⟩ := sound_begin h heq
    exact ⟨fun _ => ⟨htx, hsound, hgrows⟩, trivial, hsound, hgrows⟩
  | selectDevice n ouiSerial accountID =>
    refine c.delivery.attempt_rule (P := fun r w' =>
      (selectDevice n ouiSerial accountID).Told w' r ∧ w'.Sound ∧ Grows w w')
      ⟨trivial, h, .refl w⟩ fun found w' heq => ?_
    obtain ⟨t, ht, heq⟩ := map_eq_some_iff.mp heq
    cases heq
    refine ⟨fun _ => ⟨?_, h, .refl w⟩, trivial, h, .refl w⟩
    cases hfound : w.selectDevice t ouiSerial accountID with
    | none => trivial
    | some row => exact selectDevice_some ht hfound
  | claimDevice n deviceID customer =>
    refine c.delivery.attempt_rule (P := fun r w' =>
      (claimDevice n deviceID customer).Told w' r ∧ w'.Sound ∧ Grows w w')
      ⟨trivial, h, .refl w⟩ fun r w' heq => ?_
    obtain ⟨hsound, hgrows, hholds⟩ :=
      sound_claimDevice h hfounded.1 hfounded.2 heq
    refine ⟨fun hanswer => ⟨hholds ?_, hsound, hgrows⟩, trivial, hsound, hgrows⟩
    have hrace : unraced ⟨.claimDevice n deviceID customer,
      (c.delivery.attempt w (w.claimDevice n deviceID customer)).1, w, _⟩ := hrace
    rw [hanswer] at hrace
    exact of_decide_eq_true hrace
  | closeMapping n accountID role reason =>
    exact ⟨trivial, hplain fun _ _ heq => sound_closeMapping h heq⟩
  | insertMapping n m =>
    exact ⟨trivial, hplain fun _ _ heq => sound_insertMapping h (by exact hfounded) heq⟩
  | commit n => exact ⟨trivial, hplain fun _ _ heq => sound_commit h heq⟩
  | rollback n => exact ⟨trivial, hplain fun _ _ heq => sound_rollback h heq⟩
  | getByAccountDevice accountID deviceID =>
    refine ⟨trivial, hplain fun _ w' heq => ?_⟩
    cases heq
    exact ⟨h, .refl w⟩

/-! ### The transactions -/

section Programs

variable {w : BssWorld} {tx : Nat} {accountID : String}

/-- The program rests on nothing but what it was told. -/
abbrev RestsOnTold {α : Type} (w : BssWorld) (Q : α → Prop) (p : BssProg α) : Prop :=
  p.All (Told w) (Founded w) Q

theorem founded_deviceForAccount (htx : w.TxFor tx accountID) (ouiSerial : String) :
    RestsOnTold w (fun r => ∀ d, r = .ok d → ∀ c, w.owner accountID = some c → w.Holds tx d c)
      (deviceForAccount tx ouiSerial accountID) := by
  refine all_ask trivial fun found htold => ?_
  rcases found with _ | _ | ⟨deviceID, seen, owner⟩
  · intro d hd; cases hd
  · intro d hd; cases hd
  obtain ⟨hdevice, howner, hseen⟩ := htold
  cases owner with
  | none =>
    intro d _ c hc
    rw [← howner] at hc
    cases hc
  | some owner =>
    cases seen with
    | none =>
      refine all_ask ⟨hdevice, accountID, htx, howner.symm⟩ fun r hr => ?_
      cases r with
      | none => intro d hd; cases hd
      | some _ =>
        rintro d ⟨⟩ c hc
        cases howner.trans hc
        exact hr
    | some customer =>
      dsimp only
      split
      · intro d hd; cases hd
      next heq =>
        rintro d ⟨⟩ c hc
        cases howner.trans hc
        exact hseen owner (by rw [not_not.mp heq])

theorem founded_rollbackWith {α : Type} (e : MappingError) :
    RestsOnTold w (fun _ => True) (rollbackWith tx e : BssProg (Except MappingError α)) :=
  ⟨trivial, fun _ _ => trivial⟩

theorem founded_openAssignment (htx : w.TxFor tx accountID) (id ouiSerial : String)
    (role : DeviceRole) (servicePlan : Option String) (status : MappingStatus) :
    RestsOnTold w (fun _ => True)
      (openAssignment tx id accountID ouiSerial role servicePlan status) := by
  refine (founded_deviceForAccount htx ouiSerial).bind fun r hr => ?_
  cases r with
  | error e => exact founded_rollbackWith e
  | ok deviceID =>
    have hinsert : RestsOnTold w (fun _ => True) (insertAssignment tx
        { id, accountID, deviceID, ouiSerial, servicePlan, status, role }) := by
      refine (all_perform (hr deviceID rfl)).bind fun outcome _ => ?_
      rcases outcome with _ | _ | _ | _ <;> trivial
    refine hinsert.bind fun inserted _ => ?_
    cases inserted with
    | error e => exact founded_rollbackWith e
    | ok _ =>
      refine all_ask trivial fun committed _ => ?_
      cases committed with
      | none => exact founded_rollbackWith .database
      | some _ =>
        refine all_ask trivial fun row _ => ?_
        rcases row with _ | _ | _ <;> trivial

theorem founded_assignDeviceStatus (id ouiSerial role servicePlan : String)
    (status : MappingStatus) :
    RestsOnTold w (fun _ => True)
      (assignDeviceStatus id accountID ouiSerial role servicePlan status) := by
  unfold assignDeviceStatus
  cases DeviceRole.parse role with
  | none => trivial
  | some role =>
    refine all_ask trivial fun tx htx => ?_
    cases tx with
    | none => trivial
    | some tx => exact founded_openAssignment htx id ouiSerial role _ status

theorem founded_swapDevice (id role newOUISerial reason : String) :
    RestsOnTold w (fun _ => True) (swapDevice id accountID role newOUISerial reason) := by
  unfold swapDevice
  cases DeviceRole.parse role with
  | none => trivial
  | some role =>
    cases UnassignReason.parse reason with
    | none => trivial
    | some reason =>
      refine all_ask trivial fun tx htx => ?_
      cases tx with
      | none => trivial
      | some tx =>
        refine all_ask trivial fun plan _ => ?_
        rcases plan with _ | _ | servicePlan
        · exact founded_rollbackWith .database
        · exact founded_rollbackWith (.noDeviceForRole accountID role)
        · exact founded_openAssignment htx id newOUISerial role servicePlan .active

theorem founded_prog (task : BssTask) : RestsOnTold w (fun _ => True) task.prog := by
  cases task with
  | assign id accountID ouiSerial role servicePlan status =>
    exact (founded_assignDeviceStatus id ouiSerial role servicePlan status).bind
      fun _ _ => trivial
  | swap id accountID role newOUISerial reason =>
    exact (founded_swapDevice id role newOUISerial reason).bind fun _ _ => trivial

end Programs

/-! ### Runs -/

theorem bss_sound (as : List BssAction) (w : BssWorld)
    (hrace : ∀ ev ∈ bssTrace as w, unraced ev) :
    ∀ ev ∈ bssTrace as w, ev.Legal BssStmt.exec ∧ ev.pre.Sound := by
  intro ev hev
  have hempty : ({ w with txs := [] } : BssWorld).Sound := by
    intro n t ht
    cases (openTx_iff.mp ht).1
  obtain ⟨_, hgrown⟩ := Pool.run_growing (R := Told) (W := fun _ w s => s.Founded w)
    (G := (unraced ·)) Grows.refl (fun _ _ _ => Grows.trans) told_mono
    (fun _ => bss_exec) hempty (fun task _ w' => founded_prog task) hrace ev hev
  exact ⟨hgrown.legal, hgrown.pre⟩

theorem BssWorld.mem_commit {w w' : BssWorld} {n : Nat} {t : BssTx} {r : Unit}
    {row : AccountDeviceMapping} (ht : w.openTx n = some t) (hcommit : w.commit n = some (r, w'))
    (hrow : row ∈ w'.mappings) (hcurrent : row.current) (hnew : row ∉ w.mappings) :
    row ∈ t.opened := by
  rw [commit, ht] at hcommit
  cases hcommit
  rcases mem_append.mp hrow with hrow | hrow
  · obtain ⟨old, hold, rfl⟩ := mem_map.mp hrow
    unfold closedMapping at hcurrent hnew
    split at hcurrent
    next hnone =>
      rw [hnone] at hnew
      exact absurd hold hnew
    · cases hcurrent
  · exact hrow

/-- Whenever a transaction commits a current mapping of an account that has an owner, the
device is the owner's, as long as no transaction gives a device a customer between another's
reading it without one and its own UPDATE. -/
theorem mapped_device_is_owners (as : List BssAction) (w : BssWorld)
    (hrace : ∀ ev ∈ bssTrace as w, unraced ev = true) :
    ∀ ev ∈ bssTrace as w, ∀ n, ev.stmt = .commit n →
      ∀ m ∈ ev.post.mappings, m.current = true → m ∉ ev.pre.mappings →
      ∀ customer, ev.post.owner m.accountID = some customer →
        ev.post.customerOf m.deviceID = some customer := by
  intro ev hev n hstmt m hm hcurrent hnew customer howner
  obtain ⟨hlegal, hsound⟩ := bss_sound as w hrace ev hev
  obtain ⟨s, c, pre, rfl⟩ := hlegal.eq_fire
  cases hstmt
  revert hm howner
  refine c.delivery.attempt_keeps (I := fun post : BssWorld => m ∈ post.mappings →
    post.owner m.accountID = some customer → post.customerOf m.deviceID = some customer) ?_ ?_
  · intro hm
    exact absurd hm hnew
  · intro r post hcommit hm howner
    obtain ⟨t, ht, -⟩ := map_eq_some_iff.mp hcommit
    have hopened := mem_commit ht hcommit hm hcurrent hnew
    have hgrows := (sound_commit hsound hcommit).2
    rw [hgrows.owner] at howner
    rcases (hsound n t ht).backed m hopened customer howner with ⟨t', ht', hclaim⟩ | hcustomer
    · cases ht'.symm.trans (openTx_iff.mp ht).1
      have hdevice := (hsound n t ht).device _ _ hclaim
      rw [customerOf_commit ht hcommit hdevice, hclaim]
      rfl
    · exact hgrows.customer _ _ hcustomer

/-- A device of no customer, and two accounts with different owners. -/
def unownedDevice : BssWorld where
  devices := AList.singleton "d" { ouiSerial := "oui-serial" }
  owner account := if account = "a1" then some "c1" else if account = "a2" then some "c2" else none

/-- Two accounts of different owners ask for the device, one after the other. -/
def oneAfterTheOther : List BssAction :=
  [.atomic (.assign "m1" "a1" "oui-serial" "gateway" "" .active) fun _ => {},
    .atomic (.assign "m2" "a2" "oui-serial" "gateway" "" .active) fun _ => {}]

theorem mapped_device_is_owners_in_turn :
    (bssTrace oneAfterTheOther unownedDevice).any (fun ev => ev.stmt = .commit 0 ∧
      ev.post.mappings.any (·.current)) = true ∧
    ∀ ev ∈ bssTrace oneAfterTheOther unownedDevice, ∀ n, ev.stmt = .commit n →
      ∀ m ∈ ev.post.mappings, m.current = true → m ∉ ev.pre.mappings →
      ∀ customer, ev.post.owner m.accountID = some customer →
        ev.post.customerOf m.deviceID = some customer :=
  ⟨by decide +kernel, mapped_device_is_owners oneAfterTheOther unownedDevice (by decide +kernel)⟩

/-- Both have read the device before either gives it a customer.  The second waits for the
first to commit, and its UPDATE then changes nothing. -/
def bothAtOnce : List BssAction :=
  [.spawn (.assign "m1" "a1" "oui-serial" "gateway" "" .active),
    .spawn (.assign "m2" "a2" "oui-serial" "gateway" "" .active),
    .step 0 {}, .step 0 {}, .step 1 {}, .step 1 {}, .step 0 {}, .step 0 {}, .step 0 {},
    .step 1 {}, .step 1 {}, .step 1 {}]

theorem mapped_device_is_anothers :
    (bssTrace bothAtOnce unownedDevice).any (fun ev => ev.stmt = .commit 1 ∧
      ev.post.mappings.any (fun m => m.current ∧ m.id = "m2" ∧ m ∉ ev.pre.mappings ∧
        m.deviceID = "d" ∧ ev.post.owner m.accountID = some "c2" ∧
        ev.post.customerOf m.deviceID = some "c1")) = true := by
  decide +kernel

end Acs
