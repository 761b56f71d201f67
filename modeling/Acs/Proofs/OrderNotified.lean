/-
Every subscription is notified of an order once.

`notifyTerminalOrders` lists orders, enqueues a delivery for each subscription and marks
the order, one statement after the other and without a claim; a failed enqueue is only
logged.  What holds is said for runs in which no enqueue fails, a pass works on an order
only while no other pass has listed it since, and no pass lists an order that already has
deliveries.

A pass owns each order it has listed, as a token that tells the subscriptions that matched
and those that have their delivery.  At the mark these are the same.
-/
import Acs.Lib.Tokens
import Acs.Proofs.WebhookDelivered

namespace Acs.Bss

open List WebhookWorld WebhookStmt Option Assoc
open EventStream (Env)

/-! ### The deliveries of an order -/

/-- A delivery of an order: the order, the pass that has enqueued it, and the subscription. -/
def WebhookDelivery.jobRow (d : WebhookDelivery) : Option (String × Option Nat × String) :=
  match d.payload with
  | .jobCompleted p => some (p.externalOrderID, d.enqueuedBy, d.subscriptionID)
  | .event _ => none

section

variable (w : WebhookWorld) (pass : Nat) (orderID : String)

def WebhookWorld.jobRows : List (String × Option Nat × String) :=
  w.deliveries.filterMap WebhookDelivery.jobRow

/-- The subscriptions that have a delivery of the order, one for each delivery. -/
def WebhookWorld.notifiedSubs : List String :=
  (w.jobRows.filter (·.1 = orderID)).map (·.2.2)

/-- Those that the pass has enqueued. -/
def WebhookWorld.enqueuedSubs : List String :=
  (w.jobRows.filter fun x => x.1 = orderID ∧ x.2.1 = some pass).map (·.2.2)

/-! ### The conditions -/

/-- Enqueues are executed, enqueues and marks are those of the pass that has listed the order
last, and an order that is listed has no deliveries yet. -/
def WebhookEvent.orderly : WebhookEvent → Bool
  | ⟨.enqueueDelivery pass _ payload _ _, r, pre, _⟩ =>
    (show Option Unit from r).isSome ∧
      pre.ordersListedBy.lookup payload.externalOrderID = some pass
  | ⟨.markOrderNotified pass orderID _, _, pre, _⟩ =>
    pre.ordersListedBy.lookup orderID = some pass
  | ⟨.unnotifiedOrders limit, _, pre, _⟩ =>
    (pre.orders.unnotifiedOrders limit).all fun o => pre.notifiedSubs o.externalOrderID = []
  | _ => true

/-! ### Orders as tokens -/

/-- A pass that works on an order: it has listed it, or matched these subscriptions and
enqueued for those. -/
structure Processing where
  pass : Nat
  orderID : String
  stage : Option (List String × List String) := none

def WebhookStmt.issues : (s : WebhookStmt) → s.Res → Set Processing
  | .unnotifiedOrders _, r => {t | ∃ pass os,
      (show Option (Nat × List OrderRecord) from r) = some (pass, os) ∧
      ∃ o ∈ os, t = { pass, orderID := o.externalOrderID }}
  | .matchingSubscriptions pass orderID _ _, r => {t | ∃ subs,
      (show Option (List Subscription) from r) = some subs ∧
      t = { pass, orderID, stage := some (subs.map (·.id), []) }}
  | .enqueueDelivery pass sub payload done subs, _ =>
    {{ pass, orderID := payload.externalOrderID, stage := some (subs, done ++ [sub]) }}
  | _, _ => ∅

def WebhookStmt.spends : WebhookStmt → Option Processing
  | .matchingSubscriptions pass orderID _ _ => some { pass, orderID }
  | .enqueueDelivery pass _ payload done subs =>
    some { pass, orderID := payload.externalOrderID, stage := some (subs, done) }
  | .markOrderNotified pass orderID subs => some { pass, orderID, stage := some (subs, subs) }
  | _ => none

/-- What a token says of the tables. -/
structure Processing.Holds (t : Processing) (w : WebhookWorld) : Prop where
  pass : t.pass < w.passes
  order : t.orderID ∈ w.orders.map (·.externalOrderID)
  unmarked : w.notifiedBy.lookup t.orderID ≠ some t.pass
  matched : w.matched.lookup (t.pass, t.orderID) = t.stage.map (·.1)
  enqueued : w.enqueuedSubs t.pass t.orderID = (t.stage.map (·.2)).getD []

/-- The token is as far as the tables say. -/
theorem Processing.Holds.unique {t t' : Processing} {w : WebhookWorld} (h : t.Holds w)
    (h' : t'.Holds w) (heq : (t'.pass, t'.orderID) = (t.pass, t.orderID)) : t = t' := by
  obtain ⟨pass, orderID, stage⟩ := t
  obtain ⟨pass', orderID', stage'⟩ := t'
  cases heq
  have hmatched := h'.matched.symm.trans h.matched
  have henqueued := h'.enqueued.symm.trans h.enqueued
  rcases stage with _ | ⟨subs, done⟩ <;> rcases stage' with _ | ⟨subs', done'⟩
  · rfl
  · cases hmatched
  · cases hmatched
  · simp only [map_some, some.injEq, getD_some] at hmatched henqueued
    rw [hmatched, henqueued]

def WebhookWorld.processing : Set Processing :=
  {t | t.Holds w}

end

/-! ### The invariant -/

/-- The invariant of the passes. -/
structure WebhookWorld.Notifying (w : WebhookWorld) : Prop where
  orderIDs : (w.orders.map (·.externalOrderID)).Nodup
  subscriptionIDs : (w.subscriptions.map (·.id)).Nodup
  enqueuedBy : ∀ x ∈ w.jobRows, ∀ n, x.2.1 = some n → n < w.passes
  listedBy : ∀ o n, w.ordersListedBy.lookup o = some n → n < w.passes
  matchedBy : ∀ n o subs, w.matched.lookup (n, o) = some subs → n < w.passes ∧ subs.Nodup
  /-- The deliveries of a listed order are those of the pass that has listed it. -/
  owned : ∀ o n, w.ordersListedBy.lookup o = some n → ∀ x ∈ w.jobRows, x.1 = o → x.2.1 = some n
  /-- An order that is marked has its deliveries, and is not listed again. -/
  notified : ∀ o n, w.notifiedBy.lookup o = some n →
    w.ordersListedBy.lookup o = some n ∧ o ∈ w.orders.map (·.externalOrderID) ∧
      (∀ r ∈ w.orders, r.externalOrderID = o → r.notifiedAt ≠ none) ∧
      w.matched.lookup (n, o) = some (w.notifiedSubs o)
  marked : ∀ r ∈ w.orders, r.notifiedAt ≠ none → ∃ n, w.notifiedBy.lookup r.externalOrderID = some n

/-- Nothing of all this is touched. -/
structure WebhookWorld.Unnoticed (w w' : WebhookWorld) : Prop where
  jobRows : w'.jobRows = w.jobRows
  orders : w'.orders = w.orders
  subscriptions : (w.subscriptions.map (·.id)).Nodup → (w'.subscriptions.map (·.id)).Nodup
  passes : w.passes ≤ w'.passes
  ordersListedBy : w'.ordersListedBy = w.ordersListedBy
  matched : w'.matched = w.matched
  notifiedBy : w'.notifiedBy = w.notifiedBy

namespace WebhookWorld.Unnoticed

theorem refl (w : WebhookWorld) : w.Unnoticed w :=
  ⟨rfl, rfl, id, le_rfl, rfl, rfl, rfl⟩

variable {w w' : WebhookWorld} (h : w.Unnoticed w')

include h

theorem notifiedSubs (o : String) : w'.notifiedSubs o = w.notifiedSubs o := by
  rw [WebhookWorld.notifiedSubs, WebhookWorld.notifiedSubs, h.jobRows]

theorem enqueuedSubs (n : Nat) (o : String) : w'.enqueuedSubs n o = w.enqueuedSubs n o := by
  rw [WebhookWorld.enqueuedSubs, WebhookWorld.enqueuedSubs, h.jobRows]

theorem notifying (hw : w.Notifying) : w'.Notifying where
  orderIDs := by rw [h.orders]; exact hw.orderIDs
  subscriptionIDs := h.subscriptions hw.subscriptionIDs
  enqueuedBy := by
    rw [h.jobRows]
    exact fun x hx n hn => lt_of_lt_of_le (hw.enqueuedBy x hx n hn) h.passes
  listedBy := by
    rw [h.ordersListedBy]
    exact fun o n hn => lt_of_lt_of_le (hw.listedBy o n hn) h.passes
  matchedBy := by
    rw [h.matched]
    exact fun n o subs hn => ⟨lt_of_lt_of_le (hw.matchedBy n o subs hn).1 h.passes,
      (hw.matchedBy n o subs hn).2⟩
  owned := by
    rw [h.ordersListedBy, h.jobRows]
    exact hw.owned
  notified := by
    intro o n
    rw [h.notifiedBy, h.ordersListedBy, h.orders, h.matched, h.notifiedSubs]
    exact hw.notified o n
  marked := by
    rw [h.orders, h.notifiedBy]
    exact hw.marked

theorem holds {t : Processing} (ht : t.Holds w) : t.Holds w' where
  pass := lt_of_lt_of_le ht.pass h.passes
  order := by rw [h.orders]; exact ht.order
  unmarked := by rw [h.notifiedBy]; exact ht.unmarked
  matched := by rw [h.matched]; exact ht.matched
  enqueued := by rw [h.enqueuedSubs]; exact ht.enqueued

end WebhookWorld.Unnoticed

/-! ### The statements of a pass -/

theorem lookup_listOrders (w : WebhookWorld) (limit : Nat) (o : String) :
    (w.listOrders limit).ordersListedBy.lookup o =
      if o ∈ (w.orders.unnotifiedOrders limit).map (·.externalOrderID) then some w.passes
      else w.ordersListedBy.lookup o := by
  have hfold : ∀ (os : List OrderRecord) (m : AList fun _ : String => Nat),
      (os.foldl (fun m o => m.insert o.externalOrderID w.passes) m).lookup o =
        if o ∈ os.map (·.externalOrderID) then some w.passes else m.lookup o := by
    intro os
    induction os with
    | nil => exact fun m => rfl
    | cons x os ih =>
      intro m
      rw [foldl_cons, ih, lookup_insert_if]
      by_cases hx : o = x.externalOrderID
      · simp [hx]
      · simp [hx]
  exact hfold _ _

theorem jobRows_addDelivery (w : WebhookWorld) (sub : String) (p : JobCompleted) (n : Nat) :
    (w.addDelivery sub "JOB_COMPLETED" (.jobCompleted p) (some n)).jobRows =
      w.jobRows ++ [(p.externalOrderID, some n, sub)] := by
  rw [jobRows, addDelivery, filterMap_append]
  rfl

section Statements

variable {w : WebhookWorld} (hw : w.Notifying)

include hw

theorem WebhookWorld.Notifying.listOrders {limit : Nat}
    (hfresh : ∀ o ∈ w.orders.unnotifiedOrders limit, w.notifiedSubs o.externalOrderID = []) :
    (w.listOrders limit).Notifying where
  orderIDs := hw.orderIDs
  subscriptionIDs := hw.subscriptionIDs
  enqueuedBy := fun x hx n hn => Nat.lt_succ_of_lt (hw.enqueuedBy x hx n hn)
  listedBy := by
    intro o n
    rw [lookup_listOrders]
    split
    · rintro ⟨⟩
      exact Nat.lt_succ_self _
    · exact fun hn => Nat.lt_succ_of_lt (hw.listedBy o n hn)
  matchedBy := fun n o subs hn =>
    ⟨Nat.lt_succ_of_lt (hw.matchedBy n o subs hn).1, (hw.matchedBy n o subs hn).2⟩
  owned := by
    intro o n
    rw [lookup_listOrders]
    split
    next hmem =>
      -- An order that is listed has no deliveries.
      intro _ x hx hxo
      obtain ⟨r, hr, rfl⟩ := mem_map.mp hmem
      have hnone := hfresh r hr
      have hin : x.2.2 ∈ w.notifiedSubs r.externalOrderID :=
        mem_map_of_mem (mem_filter.mpr ⟨hx, by simpa using hxo⟩)
      rw [hnone] at hin
      cases hin
    · exact hw.owned o n
  notified := by
    intro o n hn
    obtain ⟨hlisted, hmem, hmarked, hsubs⟩ := hw.notified o n hn
    refine ⟨?_, hmem, hmarked, hsubs⟩
    rw [lookup_listOrders, if_neg]
    · exact hlisted
    · intro hin
      obtain ⟨r, hr, rfl⟩ := mem_map.mp hin
      obtain ⟨hr, hopen⟩ := mem_filter.mp (mem_of_mem_limitBy hr)
      exact hmarked r hr rfl (of_decide_eq_true hopen).1
  marked := hw.marked

theorem WebhookWorld.Notifying.listed {limit : Nat} {o : OrderRecord}
    (ho : o ∈ w.orders.unnotifiedOrders limit) :
    Processing.Holds { pass := w.passes, orderID := o.externalOrderID } (w.listOrders limit) where
  pass := Nat.lt_succ_self _
  order := mem_map_of_mem (mem_filter.mp (mem_of_mem_limitBy ho)).1
  unmarked := by
    intro hmarked
    exact lt_irrefl _ (hw.listedBy _ _ (hw.notified _ _ hmarked).1)
  matched := by
    show w.matched.lookup (w.passes, o.externalOrderID) = none
    cases hlookup : w.matched.lookup (w.passes, o.externalOrderID) with
    | none => rfl
    | some subs => exact absurd (hw.matchedBy _ _ _ hlookup).1 (lt_irrefl _)
  enqueued := by
    show w.enqueuedSubs w.passes o.externalOrderID = []
    rw [enqueuedSubs, map_eq_nil_iff, filter_eq_nil_iff]
    intro x hx hmine
    exact lt_irrefl _ (hw.enqueuedBy x hx _ (of_decide_eq_true hmine).2)

theorem WebhookWorld.Notifying.noteMatched {pass : Nat} {orderID accountID eventType : String}
    (ht : Processing.Holds { pass, orderID } w) :
    (w.noteMatched pass orderID (w.matchingSubscriptions accountID eventType)).Notifying where
  orderIDs := hw.orderIDs
  subscriptionIDs := hw.subscriptionIDs
  enqueuedBy := hw.enqueuedBy
  listedBy := hw.listedBy
  matchedBy := by
    intro n o subs
    show AList.lookup (n, o) (w.matched.insert _ _) = _ → _
    rw [lookup_insert_if]
    split
    next heq =>
      rintro ⟨⟩
      obtain ⟨rfl, rfl⟩ := Prod.mk.inj heq
      exact ⟨ht.pass, hw.subscriptionIDs.sublist (filter_sublist.map _)⟩
    · exact hw.matchedBy n o subs
  owned := hw.owned
  notified := by
    intro o n hn
    obtain ⟨hlisted, hmem, hmarked, hsubs⟩ := hw.notified o n hn
    refine ⟨hlisted, hmem, hmarked, ?_⟩
    refine (AList.lookup_insert_ne ?_).trans hsubs
    rintro heq
    obtain ⟨rfl, rfl⟩ := Prod.mk.inj heq
    exact ht.unmarked hn
  marked := hw.marked

theorem WebhookWorld.Notifying.enqueue {pass : Nat} {sub : String} {p : JobCompleted}
    {done subs : List String}
    (ht : Processing.Holds { pass, orderID := p.externalOrderID, stage := some (subs, done) } w)
    (hlast : w.ordersListedBy.lookup p.externalOrderID = some pass) :
    (w.addDelivery sub "JOB_COMPLETED" (.jobCompleted p) (some pass)).Notifying where
  orderIDs := hw.orderIDs
  subscriptionIDs := hw.subscriptionIDs
  enqueuedBy := by
    rw [jobRows_addDelivery]
    intro x hx n hn
    rcases mem_append.mp hx with hx | hx
    · exact hw.enqueuedBy x hx n hn
    · rw [mem_singleton.mp hx] at hn
      cases hn
      exact ht.pass
  listedBy := hw.listedBy
  matchedBy := hw.matchedBy
  owned := by
    rw [jobRows_addDelivery]
    intro o n hn x hx hxo
    rcases mem_append.mp hx with hx | hx
    · exact hw.owned o n hn x hx hxo
    · rw [mem_singleton.mp hx] at hxo ⊢
      rw [← hxo] at hn
      exact hlast.symm.trans hn
  notified := by
    intro o n hn
    obtain ⟨hlisted, hmem, hmarked, hsubs⟩ := hw.notified o n hn
    refine ⟨hlisted, hmem, hmarked, hsubs.trans ?_⟩
    -- The order of the delivery is not marked: it would be by this pass.
    have hother : p.externalOrderID ≠ o := by
      rintro rfl
      cases hlisted.symm.trans hlast
      exact ht.unmarked hn
    rw [notifiedSubs, notifiedSubs, jobRows_addDelivery,
      filter_append]
    simp [hother]
  marked := hw.marked

theorem WebhookWorld.Notifying.mark {pass : Nat} {orderID : String} {subs : List String}
    (ht : Processing.Holds { pass, orderID, stage := some (subs, subs) } w)
    (hlast : w.ordersListedBy.lookup orderID = some pass) :
    (w.markOrderNotified pass orderID).Notifying := by
  have hkeys : ∀ r : OrderRecord,
      (if r.externalOrderID = orderID then { r with notifiedAt := some w.now } else r).externalOrderID =
        r.externalOrderID := by
    intro r
    split <;> rfl
  have hids : (w.markOrderNotified pass orderID).orders.map (·.externalOrderID) =
      w.orders.map (·.externalOrderID) := Keyed.map_key_map hkeys
  refine ⟨by rw [hids]; exact hw.orderIDs, hw.subscriptionIDs, hw.enqueuedBy, hw.listedBy,
    hw.matchedBy, hw.owned, fun o n => ?_, fun r hr hnotified => ?_⟩
  swap
  · obtain ⟨r₀, hr₀, rfl⟩ := mem_map.mp hr
    rw [hkeys]
    show ∃ n, AList.lookup _ (w.notifiedBy.insert orderID pass) = _
    rw [lookup_insert_if]
    by_cases hid : r₀.externalOrderID = orderID
    · exact ⟨pass, if_pos hid⟩
    · rw [if_neg hid] at hnotified ⊢
      exact hw.marked r₀ hr₀ hnotified
  rw [hids]
  show AList.lookup o (w.notifiedBy.insert orderID pass) = _ → _
  rw [lookup_insert_if]
  split
  next heq =>
    rintro ⟨⟩
    subst heq
    refine ⟨hlast, ht.order, ?_, ht.matched.trans ?_⟩
    · intro r hr hid
      obtain ⟨r₀, -, rfl⟩ := mem_map.mp hr
      have hid₀ : r₀.externalOrderID = o := (hkeys r₀).symm.trans hid
      rw [if_pos hid₀]
      exact some_ne_none _
    · -- All deliveries of the order are the pass's own.
      have hall : w.enqueuedSubs pass o = w.notifiedSubs o := by
        rw [enqueuedSubs, notifiedSubs]
        congr 1
        refine filter_congr fun x hx => ?_
        by_cases hxo : x.1 = o
        · simp [hw.owned o pass hlast x hx hxo]
        · simp [hxo]
      exact congrArg some (ht.enqueued.symm.trans hall)
  · intro hn
    obtain ⟨hlisted, hmem, hmarked, hsubs⟩ := hw.notified o n hn
    refine ⟨hlisted, hmem, fun r hr hid => ?_, hsubs⟩
    obtain ⟨r₀, hr₀, rfl⟩ := mem_map.mp hr
    have hkept := hmarked r₀ hr₀ ((hkeys r₀).symm.trans hid)
    split
    · exact some_ne_none _
    · exact hkept

theorem WebhookWorld.Notifying.addOrder {o : OrderRecord} {w' : WebhookWorld}
    (h : w.addOrder o = some w') : w'.Notifying := by
  obtain ⟨hnew, h⟩ := ite_none_left_eq_some.mp h
  cases h
  have hout : o.externalOrderID ∉ w.orders.map (·.externalOrderID) := by
    intro hmem
    obtain ⟨r, hr, hid⟩ := mem_map.mp hmem
    exact hnew (find?_isSome.mpr ⟨r, hr, by simpa using hid⟩)
  refine ⟨?_, hw.subscriptionIDs, hw.enqueuedBy, hw.listedBy, hw.matchedBy, hw.owned, ?_, ?_⟩
  · exact Keyed.nodup_append hw.orderIDs fun r hr hid => hout (mem_map.mpr ⟨r, hr, hid⟩)
  · intro id n hn
    obtain ⟨hlisted, hmem, hmarked, hsubs⟩ := hw.notified id n hn
    refine ⟨hlisted, ?_, ?_, hsubs⟩
    · rw [map_append]
      exact mem_append_left _ hmem
    · intro r hr hid
      rcases mem_append.mp hr with hr | hr
      · exact hmarked r hr hid
      · rw [mem_singleton.mp hr] at hid
        have hid' : o.externalOrderID = id := hid
        exact absurd (hid' ▸ hmem) hout
  · intro r hr hnotified
    rcases mem_append.mp hr with hr | hr
    · exact hw.marked r hr hnotified
    · rw [mem_singleton.mp hr] at hnotified
      exact absurd rfl hnotified

end Statements

/-! ### The other statements -/

namespace WebhookWorld.Unnoticed

theorem later (w : WebhookWorld) (n : Nat) : w.Unnoticed (w.later n) :=
  ⟨rfl, rfl, id, le_rfl, rfl, rfl, rfl⟩

theorem trans {a b c : WebhookWorld} (h : a.Unnoticed b) (h' : b.Unnoticed c) : a.Unnoticed c :=
  ⟨h'.jobRows.trans h.jobRows, h'.orders.trans h.orders,
    fun hsubs => h'.subscriptions (h.subscriptions hsubs), le_trans h.passes h'.passes,
    h'.ordersListedBy.trans h.ordersListedBy, h'.matched.trans h.matched,
    h'.notifiedBy.trans h.notifiedBy⟩

theorem jobRows_map (w : WebhookWorld) {f : WebhookDelivery → WebhookDelivery}
    (hf : ∀ d, (f d).jobRow = d.jobRow) :
    (w.deliveries.map f).filterMap WebhookDelivery.jobRow = w.jobRows := by
  rw [filterMap_map]
  exact filterMap_congr fun d _ => hf d

theorem updateDelivery (w : WebhookWorld) (id : Nat) {f : WebhookDelivery → WebhookDelivery}
    (hf : ∀ d, (f d).jobRow = d.jobRow) : w.Unnoticed (w.updateDelivery id f) := by
  refine ⟨jobRows_map w fun d => ?_, rfl, fun h => h, le_rfl, rfl, rfl, rfl⟩
  split
  · exact hf d
  · rfl

theorem addEvents (env : Env) (cs : List Candidate) : ∀ w : WebhookWorld,
    w.Unnoticed (cs.foldl (fun w c =>
      w.addDelivery c.subscriptionID c.event.eventType (.event (.ofEvent env c.event))) w) := by
  induction cs with
  | nil => exact refl
  | cons c cs ih =>
    intro w
    have hone : w.Unnoticed (w.addDelivery c.subscriptionID c.event.eventType
        (.event (.ofEvent env c.event))) := by
      refine ⟨?_, rfl, id, Nat.le_refl _, rfl, rfl, rfl⟩
      rw [WebhookWorld.jobRows, WebhookWorld.addDelivery, filterMap_append]
      exact append_nil _
    exact hone.trans (ih _)

end WebhookWorld.Unnoticed

/-- The five statements that concern orders. -/
def WebhookStmt.aboutOrders : WebhookStmt → Bool
  | .unnotifiedOrders _ | .matchingSubscriptions .. | .enqueueDelivery .. | .markOrderNotified ..
  | .orderDispatched _ => true
  | _ => false

theorem unnoticed_exec (env : Env) (s : WebhookStmt) (ch : WebhookChoice) (w : WebhookWorld)
    (hs : s.aboutOrders = false) : w.Unnoticed (s.exec env ch w).2 := by
  refine (Unnoticed.later w ch.elapsed).trans ?_
  refine execNow_keeps env s ch (w.later ch.elapsed) (.refl _) fun w' hdoes => ?_
  cases s with
  | unnotifiedOrders | matchingSubscriptions | enqueueDelivery | markOrderNotified | orderDispatched =>
    cases hs
  | dueDeliveries limit =>
    cases hdoes
    refine ⟨Unnoticed.jobRows_map _ fun d => ?_, rfl, id, Nat.le_succ _, rfl, rfl, rfl⟩
    split <;> rfl
  | markDelivered | markAttemptFailed =>
    cases hdoes
    exact .updateDelivery _ _ fun _ => rfl
  | redeliver sub id =>
    cases hdoes
    refine .updateDelivery _ _ fun d => ?_
    split <;> rfl
  | createSubscription sub =>
    obtain ⟨hnew, hw'⟩ := ite_none_left_eq_some.mp hdoes
    cases hw'
    refine ⟨rfl, rfl, fun hnodup => ?_, Nat.le_refl _, rfl, rfl, rfl⟩
    refine Keyed.nodup_append hnodup fun s' hs' heq => hnew ?_
    exact any_eq_true.mpr ⟨s', hs', decide_eq_true heq⟩
  | insertEvent e =>
    obtain ⟨stream, rfl⟩ := hdoes
    exact ⟨rfl, rfl, id, Nat.le_refl _, rfl, rfl, rfl⟩
  | claimDispatch n c =>
    obtain ⟨b, hclaim⟩ := hdoes
    obtain ⟨t, -, -, rfl | ⟨-, -, rfl⟩⟩ := claimDispatch_cases hclaim
    · exact .refl _
    · exact ⟨rfl, rfl, id, Nat.le_refl _, rfl, rfl, rfl⟩
  | commitDispatch n =>
    obtain ⟨k, hcommit⟩ := hdoes
    obtain ⟨t, -, rfl⟩ := commitDispatch_cases hcommit
    have hadded := Unnoticed.addEvents env t.claimed (w.later ch.elapsed)
    exact ⟨hadded.jobRows, hadded.orders, hadded.subscriptions, hadded.passes,
      hadded.ordersListedBy, hadded.matched, hadded.notifiedBy⟩
  | _ =>
    cases hdoes
    exact ⟨rfl, rfl, id, Nat.le_refl _, rfl, rfl, rfl⟩

/-! ### What the statements do to the tokens -/

section Tokens

variable {w : WebhookWorld} {t : Processing} (ht : t.Holds w)

include ht

theorem Processing.Holds.listOrders (limit : Nat) : t.Holds (w.listOrders limit) :=
  ⟨Nat.lt_succ_of_lt ht.pass, ht.order, ht.unmarked, ht.matched, ht.enqueued⟩

theorem Processing.Holds.noteMatched {pass : Nat} {orderID : String} {subs : List Subscription}
    (hother : (t.pass, t.orderID) ≠ (pass, orderID)) :
    t.Holds (w.noteMatched pass orderID subs) :=
  ⟨ht.pass, ht.order, ht.unmarked, (AList.lookup_insert_ne hother).trans ht.matched, ht.enqueued⟩

theorem Processing.Holds.enqueue {pass : Nat} {sub : String} {p : JobCompleted}
    (hother : (t.pass, t.orderID) ≠ (pass, p.externalOrderID)) :
    t.Holds (w.addDelivery sub "JOB_COMPLETED" (.jobCompleted p) (some pass)) := by
  refine ⟨ht.pass, ht.order, ht.unmarked, ht.matched, Eq.trans ?_ ht.enqueued⟩
  have hout : ¬ (p.externalOrderID = t.orderID ∧ some pass = some t.pass) := by
    rintro ⟨horder, hpass⟩
    exact hother (Prod.ext (some.inj hpass).symm horder.symm)
  rw [enqueuedSubs, enqueuedSubs, jobRows_addDelivery,
    filter_append]
  simp only [filter_singleton, decide_eq_false hout, cond_false, append_nil]

theorem Processing.Holds.mark {pass : Nat} {orderID : String}
    (hother : (t.pass, t.orderID) ≠ (pass, orderID)) :
    t.Holds (w.markOrderNotified pass orderID) := by
  refine ⟨ht.pass, ?_, ?_, ht.matched, ht.enqueued⟩
  · have hids : (w.markOrderNotified pass orderID).orders.map (·.externalOrderID) =
        w.orders.map (·.externalOrderID) := Keyed.map_key_map fun r => by split <;> rfl
    rw [hids]
    exact ht.order
  · show AList.lookup t.orderID (w.notifiedBy.insert orderID pass) ≠ _
    rw [lookup_insert_if]
    split
    next heq =>
      rintro ⟨⟩
      exact hother (Prod.ext rfl heq)
    · exact ht.unmarked

theorem Processing.Holds.addOrder {o : OrderRecord} {w' : WebhookWorld}
    (h : w.addOrder o = some w') : t.Holds w' := by
  obtain ⟨-, h⟩ := ite_none_left_eq_some.mp h
  cases h
  refine ⟨ht.pass, ?_, ht.unmarked, ht.matched, ht.enqueued⟩
  rw [map_append]
  exact mem_append_left _ ht.order

end Tokens

/-- What answers tell: the orders of a list are different ones. -/
def WebhookStmt.Distinct : (s : WebhookStmt) → s.Res → Prop
  | .unnotifiedOrders _, r => ∀ pass os,
      (show Option (Nat × List OrderRecord) from r) = some (pass, os) →
      (os.map (·.externalOrderID)).Nodup
  | _, _ => True

theorem honest_exec {env : Env} {w : WebhookWorld} (hw : w.Notifying) (s : WebhookStmt)
    (ch : WebhookChoice) (hheld : ∀ t, s.spends = some t → t.Holds w)
    (horderly : WebhookEvent.orderly (Pool.fire (WebhookStmt.exec env) s ch w)) :
    (Pool.fire (WebhookStmt.exec env) s ch w).Honest issues spends
      processing ∧ s.Distinct (s.exec env ch w).1 ∧ (s.exec env ch w).2.Notifying := by
  have hlater := Unnoticed.later w ch.elapsed
  have hw' := hlater.notifying hw
  have hstill : ∀ t : Processing, t.Holds w → t.Holds (w.later ch.elapsed) := fun t => hlater.holds
  by_cases hs : s.aboutOrders = false
  · have hquiet := unnoticed_exec env s ch w hs
    refine ⟨⟨fun t ht _ => hquiet.holds ht, fun t ht => ?_⟩, ?_, hquiet.notifying hw⟩
    · cases s <;> first | exact ht.elim | cases hs
    · cases s <;> trivial
  cases s with
  | unnotifiedOrders limit =>
    have hfresh : ∀ o ∈ (w.later ch.elapsed).orders.unnotifiedOrders limit,
        (w.later ch.elapsed).notifiedSubs o.externalOrderID = [] :=
      fun o ho => of_decide_eq_true (all_eq_true.mp horderly o ho)
    refine ⟨⟨fun t ht _ => ?_, ?_⟩, ?_, ?_⟩
    · refine ch.delivery.deliver_keeps (I := t.Holds) (hstill t ht) ?_
      exact (hstill t ht).listOrders limit
    · rintro t ⟨pass, os, hanswer, o, ho, rfl⟩
      obtain ⟨hlist, hstate⟩ := ch.delivery.deliver_answer _ _ _ hanswer
      obtain ⟨rfl, rfl⟩ := Prod.mk.inj hlist
      refine ⟨fun hbefore => Nat.lt_irrefl _ hbefore.pass, ?_⟩
      show Processing.Holds _ (Delivery.deliver _ _ _ _).2
      rw [hstate]
      exact hw'.listed ho
    · intro pass os hanswer
      obtain ⟨hlist, -⟩ := ch.delivery.deliver_answer _ _ _ hanswer
      obtain ⟨-, rfl⟩ := Prod.mk.inj hlist
      exact nodup_map_limitBy (hw.orderIDs.sublist (filter_sublist.map _))
    · exact ch.delivery.deliver_keeps hw' (hw'.listOrders hfresh)
  | matchingSubscriptions pass orderID accountID eventType =>
    have hmine := hstill _ (hheld _ rfl)
    refine ⟨⟨fun t ht hother => ?_, ?_⟩, trivial, ?_⟩
    · refine ch.delivery.deliver_keeps (I := t.Holds) (hstill t ht) ?_
      exact (hstill t ht).noteMatched fun heq => hother (congrArg some (hmine.unique (hstill t ht) heq))
    · rintro t ⟨subs, hanswer, rfl⟩
      obtain ⟨hsubs, hstate⟩ := ch.delivery.deliver_answer _ _ _ hanswer
      refine ⟨fun hbefore => ?_, ?_⟩
      · cases (hstill _ hbefore).unique hmine rfl
      · show Processing.Holds _ (Delivery.deliver _ _ _ _).2
        rw [hstate]
        exact ⟨hmine.pass, hmine.order, hmine.unmarked,
          hsubs ▸ AList.lookup_insert _, hmine.enqueued⟩
    · exact ch.delivery.deliver_keeps hw' (hw'.noteMatched hmine)
  | enqueueDelivery pass sub payload done subs =>
    have hmine := hstill _ (hheld _ rfl)
    obtain ⟨hsome, hlast⟩ := of_decide_eq_true horderly
    obtain ⟨u, hanswer⟩ := isSome_iff_exists.mp hsome
    have hstate := (ch.delivery.deliver_answer _ _ _ hanswer).2
    refine ⟨⟨fun t ht hother => ?_, ?_⟩, trivial, ?_⟩
    · show t.Holds (Delivery.deliver _ _ _ _).2
      rw [hstate]
      exact (hstill t ht).enqueue fun heq => hother (congrArg some (hmine.unique (hstill t ht) heq))
    · rintro t rfl
      refine ⟨fun hbefore => ?_, ?_⟩
      · have heq := congrArg Processing.stage ((hstill _ hbefore).unique hmine rfl)
        simp at heq
      · show Processing.Holds _ (Delivery.deliver _ _ _ _).2
        rw [hstate]
        refine ⟨hmine.pass, hmine.order, hmine.unmarked, hmine.matched, ?_⟩
        have henqueued := hmine.enqueued
        rw [enqueuedSubs] at henqueued ⊢
        rw [jobRows_addDelivery, filter_append, map_append, henqueued]
        simp
    · exact hstate.symm ▸ hw'.enqueue hmine hlast
  | markOrderNotified pass orderID subs =>
    have hmine := hstill _ (hheld _ rfl)
    refine ⟨⟨fun t ht hother => ?_, fun t ht => ht.elim⟩, trivial, ?_⟩
    · refine ch.delivery.deliver_keeps (I := t.Holds) (hstill t ht) ?_
      exact (hstill t ht).mark fun heq => hother (congrArg some (hmine.unique (hstill t ht) heq))
    · exact ch.delivery.deliver_keeps hw' (hw'.mark hmine (of_decide_eq_true horderly))
  | orderDispatched o =>
    refine ⟨⟨fun t ht _ => ?_, fun t ht => ht.elim⟩, trivial, ?_⟩
    · refine ch.delivery.attempt_keeps (I := t.Holds) (hstill t ht) fun a after h => ?_
      obtain ⟨w'', hadd, heq⟩ := map_eq_some_iff.mp h
      cases heq
      exact (hstill t ht).addOrder hadd
    · refine ch.delivery.attempt_keeps hw' fun a after h => ?_
      obtain ⟨w'', hadd, heq⟩ := map_eq_some_iff.mp h
      cases heq
      exact hw'.addOrder hadd
  | _ => exact absurd rfl hs

/-! ### What the loops hold -/

section Loops

variable {R : (s : WebhookStmt) → s.Res → Prop}

/-- From a match to the mark, with the tokens of other orders as they are. -/
theorem enqueueDeliveries_spends {pass : Nat} {p : JobCompleted} {subs : List String}
    {others : Set Processing} (hothers : ∀ t ∈ others, t.orderID ≠ p.externalOrderID) :
    ∀ rest done, done ++ rest = subs → ∀ held,
      { pass, orderID := p.externalOrderID, stage := some (subs, done) } ∈ held → others ⊆ held →
      (enqueueDeliveries pass p subs done rest).Spends issues spends R
        (fun _ held' => { pass, orderID := p.externalOrderID, stage := some (subs, subs) } ∈ held' ∧
          others ⊆ held') held := by
  intro rest
  induction rest with
  | nil =>
    intro done hdone held hmine hkept
    rw [append_nil] at hdone
    subst hdone
    exact ⟨hmine, hkept⟩
  | cons sub rest ih =>
    intro done hdone held hmine hkept
    refine ⟨?_, fun r _ => ih (done ++ [sub]) (by simpa using hdone) _ (.inr rfl) ?_⟩
    · rintro t ⟨⟩
      exact hmine
    · refine fun t ht => .inl ⟨hkept ht, ?_⟩
      rintro ⟨⟩
      exact hothers _ ht rfl

theorem notifyTerminalOrder_spends {pass : Nat} {o : OrderRecord} {others held : Set Processing}
    (hothers : ∀ t ∈ others, t.orderID ≠ o.externalOrderID)
    (hmine : { pass, orderID := o.externalOrderID } ∈ held) (hkept : others ⊆ held) :
    (notifyTerminalOrder pass o).Spends issues spends R
      (fun _ held' => others ⊆ held') held := by
  have hafter : ∀ (s : WebhookStmt) r (held : Set Processing), others ⊆ held →
      (∀ t ∈ others, s.spends ≠ some t) →
      others ⊆ Prog.heldAfter issues spends s r held :=
    fun s r held hkept hspends t ht => .inl ⟨hkept ht, hspends t ht⟩
  refine ⟨nofun, fun job _ => ?_⟩
  have hkept' := hafter (.getJobStatus o.commandKey) job held hkept nofun
  cases job with
  | none => exact hkept'
  | some job =>
    show Prog.Spends _ _ _ _ (if isTerminalJobStatus job.status = false then _ else _) _
    split
    · exact hkept'
    refine ⟨?_, fun subs _ => ?_⟩
    · rintro t ⟨⟩
      exact .inl ⟨hmine, nofun⟩
    have hmatched := hafter (.matchingSubscriptions pass o.externalOrderID o.accountID
      "JOB_COMPLETED") subs _ hkept' (by rintro t ht ⟨⟩; exact hothers _ ht rfl)
    cases subs with
    | none => exact hmatched
    | some subs =>
      show Prog.Spends _ _ _ _ (enqueueDeliveries pass _ (subs.map (·.id)) [] _ >>= _) _
      refine Prog.Spends.bind (enqueueDeliveries_spends hothers _ [] (nil_append _) _ ?_
        hmatched) ?_
      · exact .inr ⟨subs, rfl, rfl⟩
      rintro _ held' ⟨hready, hkept⟩
      refine ⟨?_, fun r _ => ?_⟩
      · rintro t ⟨⟩
        exact hready
      · exact hafter _ r held' hkept (by rintro t ht ⟨⟩; exact hothers _ ht rfl)

end Loops

theorem notify_spends :
    notifyTerminalOrders.Spends issues spends Distinct
      (fun _ _ => True) ∅ := by
  refine ⟨nofun, fun r hdistinct => ?_⟩
  cases r with
  | none => trivial
  | some found =>
    obtain ⟨pass, os⟩ := found
    -- The orders to come are different ones, and owned.
    refine (Prog.spends_each (I := fun rest held => (rest.map (·.externalOrderID)).Nodup ∧
      ∀ o ∈ rest, ({ pass, orderID := o.externalOrderID } : Processing) ∈ held)
      (fun o rest held h => ?_) ⟨hdistinct pass os rfl, fun o ho => ?_⟩).mono fun _ _ _ => trivial
    · obtain ⟨hnew, hrest⟩ := nodup_cons.mp h.1
      let others : Set Processing := {t | ∃ o' ∈ rest, t = { pass, orderID := o'.externalOrderID }}
      have hothers : ∀ t ∈ others, t.orderID ≠ o.externalOrderID := by
        rintro t ⟨o', ho', rfl⟩ hsame
        exact hnew (mem_map.mpr ⟨o', ho', hsame⟩)
      have hkept : others ⊆ held := by
        rintro t ⟨o', ho', rfl⟩
        exact h.2 o' (mem_cons_of_mem _ ho')
      exact (notifyTerminalOrder_spends hothers (h.2 o mem_cons_self) hkept).mono
        fun _ held' hkept' => ⟨hrest, fun o' ho' => hkept' ⟨o', ho', rfl⟩⟩
    · exact .inr ⟨pass, os, rfl, o, ho, rfl⟩

theorem task_spends (t : WebhookTask) :
    t.prog.Spends issues spends Distinct (fun _ _ => True) ∅ := by
  cases t with
  | notify => exact notify_spends
  | deliver => exact .of_all (deliver_all rfl fun _ _ _ _ _ => ⟨rfl, rfl, fun _ => rfl⟩) ∅
  | dispatch since limit =>
    exact .of_all (dispatch_all rfl (fun _ _ _ _ _ => rfl) fun _ => ⟨rfl, rfl⟩) ∅
  | redeliver | createSubscription | orderDispatched | insertEvent | rollback =>
    exact .of_all (single_all rfl) ∅

/-! ### Every run -/

theorem run_notifying {env : Env} {as : List WebhookAction} {w : WebhookWorld} (hw : w.Notifying)
    (horderly : ∀ ev ∈ webhookTrace env as w, ev.orderly) :
    ∀ ev ∈ webhookTrace env as w, ev.post.Notifying := by
  exact fun ev hev => (Pool.run_tokens (G := (WebhookEvent.orderly ·))
    (fun s ch w hok hheld hpre => honest_exec hpre s ch hheld hok) hw (fun t _ => task_spends t)
    horderly ev hev).post

/-- **An order that is marked has one delivery for each subscription.**  In runs in which no
enqueue fails, a pass works on an order only while no other has listed it since, and no
order is listed that has deliveries, an order marked as notified has exactly one delivery
for each subscription that matched when the marking pass processed it, and none for others. -/
theorem notified_once (env : Env) (as : List WebhookAction) (w : WebhookWorld) (hw : w.Notifying)
    (horderly : ∀ ev ∈ webhookTrace env as w, ev.orderly = true) :
    ∀ ev ∈ webhookTrace env as w, ∀ o ∈ ev.post.orders, o.notifiedAt ≠ none →
      ∃ n subs, ev.post.notifiedBy.lookup o.externalOrderID = some n ∧
        ev.post.matched.lookup (n, o.externalOrderID) = some subs ∧
        ∀ sub, (ev.post.notifiedSubs o.externalOrderID).count sub = if sub ∈ subs then 1 else 0 := by
  intro ev hev o ho hnotified
  have hpost := run_notifying hw horderly ev hev
  obtain ⟨n, hn⟩ := hpost.marked o ho hnotified
  obtain ⟨-, -, -, hsubs⟩ := hpost.notified _ _ hn
  refine ⟨n, _, hn, hsubs, fun sub => ?_⟩
  exact (hpost.matchedBy _ _ _ hsubs).2.count

/-- Two subscriptions, of which one is for all accounts and one for another account, and an
order that was dispatched. -/
def oneDispatched : WebhookWorld where
  subscriptions := [hub, { id := "s2", accountID := some "acc-2", eventTypes := ["JOB_COMPLETED"] }]
  orders := [{
    externalOrderID := "o1"
    accountID := "acc-1"
    deviceID := "d1"
    commandKey := "k1"
    status := .dispatched
    action := "suspend" }]

/-- The orders marked, with the subscriptions that have deliveries. -/
def notifiedAfter (as : List WebhookAction) : List (String × List String) :=
  match (webhookTrace noNames as oneDispatched).getLast? with
  | none => []
  | some ev => (ev.post.orders.filter (·.notifiedAt ≠ none)).map fun o =>
    (o.externalOrderID, ev.post.notifiedSubs o.externalOrderID)

def passByPass : List WebhookAction :=
  [.atomic .notify fun _ => {}, .atomic .notify fun _ => { elapsed := minutes 1 }]

theorem notified_once_passByPass :
    notifiedAfter passByPass = [("o1", ["s1"])] ∧
    ∀ ev ∈ webhookTrace noNames passByPass oneDispatched, ∀ o ∈ ev.post.orders,
      o.notifiedAt ≠ none → ∃ n subs, ev.post.notifiedBy.lookup o.externalOrderID = some n ∧
        ev.post.matched.lookup (n, o.externalOrderID) = some subs ∧
        ∀ sub, (ev.post.notifiedSubs o.externalOrderID).count sub = if sub ∈ subs then 1 else 0 :=
  ⟨by decide +kernel, notified_once noNames passByPass oneDispatched
    ⟨by decide, by decide, by decide, nofun, nofun,
      nofun, nofun,
      fun r hr h => absurd (by rw [mem_singleton.mp hr]) h⟩ (by decide +kernel)⟩

/-- Two instances list the order, and both notify the subscription. -/
def bothNotify : List WebhookAction :=
  [.spawn .notify, .spawn .notify, .step 0 {}, .step 1 {}, .step 0 {}, .step 1 {}, .step 0 {},
    .step 1 {}, .step 0 {}, .step 1 {}, .step 0 {}, .step 1 {}]

/-- One pass, and its one enqueue fails. -/
def enqueueFails : List WebhookAction :=
  [.spawn .notify, .step 0 {}, .step 0 {}, .step 0 {}, .step 0 { delivery := .refused }, .step 0 {}]

/-- The order is marked, and the subscription that matched has two deliveries or none. -/
theorem notified_twice_or_never :
    notifiedAfter bothNotify = [("o1", ["s1", "s1"])] ∧ notifiedAfter enqueueFails = [("o1", [])] := by
  decide +kernel

end Acs.Bss
