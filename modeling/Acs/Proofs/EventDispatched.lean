/-
Every subscription gets an event once.

`DispatchTMFEvents` reads its candidates from a snapshot, which may be stale when it comes
to insert them.  What decides is the primary key of `tmf_webhook_dispatches`: a pair that is
committed or inserted by another transaction is not returned by the INSERT, and only what it
has returned becomes a delivery, in the same commit.  So at any time the pairs recorded and
those claimed by open transactions are all different, and the deliveries are those of the
pairs recorded.
-/
import Acs.Proofs.WebhookDelivered
import Mathlib.Data.List.Flatten

namespace Acs.Bss

open List WebhookWorld WebhookDelivery
open EventStream (Env)

/-! ### The deliveries of events -/

/-- A delivery of an event: the event, and the subscription. -/
def WebhookDelivery.eventRow (d : WebhookDelivery) : Option (HubEvent × String) :=
  match d.payload with
  | .event e => some (e, d.subscriptionID)
  | .jobCompleted _ => none

def WebhookWorld.eventRows (w : WebhookWorld) : List (HubEvent × String) :=
  w.deliveries.filterMap eventRow

/-- The pairs that have a delivery, one for each delivery. -/
def WebhookWorld.eventPairs (w : WebhookWorld) : List Dispatch :=
  w.eventRows.map fun x => ⟨x.1.eventID, x.2⟩

/-- There is such a subscription, and it takes events of that account and type. -/
def WebhookWorld.Wanted (w : WebhookWorld) (sub : String) (accountID : Option String)
    (eventType : String) : Prop :=
  ∃ s ∈ w.subscriptions, s.id = sub ∧ s.wants accountID eventType = true

def Candidate.Wanted (c : Candidate) (w : WebhookWorld) : Prop :=
  w.Wanted c.subscriptionID c.event.accountID c.event.eventType

/-- The pairs that open transactions have inserted. -/
def claimedPairs (ts : List Dispatching) : List Dispatch :=
  ts.flatMap fun t => t.claimed.map (·.dispatch)

/-- The invariant of the dispatches. -/
structure WebhookWorld.Dispatched (w : WebhookWorld) : Prop where
  subscriptionIDs : (w.subscriptions.map (·.id)).Nodup
  ledger : w.eventPairs = w.dispatches
  once : (w.dispatches ++ claimedPairs w.dispatching).Nodup
  numbers : (w.dispatching.map (·.number)).Nodup
  fresh : ∀ t ∈ w.dispatching, t.number < w.nextTx
  rows : ∀ x ∈ w.eventRows, w.Wanted x.2 x.1.accountID x.1.eventType
  claims : ∀ t ∈ w.dispatching, ∀ c ∈ t.claimed, c.Wanted w

/-- Subscriptions are not taken away. -/
def WebhookWorld.KeepsSubscriptions (w w' : WebhookWorld) : Prop :=
  ∀ s ∈ w.subscriptions, s ∈ w'.subscriptions

theorem WebhookWorld.Wanted.mono {w w' : WebhookWorld} (h : w.KeepsSubscriptions w') {sub : String}
    {accountID : Option String} {eventType : String} (hw : w.Wanted sub accountID eventType) :
    w'.Wanted sub accountID eventType := by
  obtain ⟨s, hs, hid, hwants⟩ := hw
  exact ⟨s, h s hs, hid, hwants⟩

/-! ### Statements about other things -/

/-- Nothing of all this is touched. -/
structure WebhookWorld.Undispatched (w w' : WebhookWorld) : Prop where
  rows : w'.eventRows = w.eventRows
  subscriptions : w'.subscriptions = w.subscriptions
  dispatches : w'.dispatches = w.dispatches
  dispatching : w'.dispatching = w.dispatching
  nextTx : w'.nextTx = w.nextTx

namespace WebhookWorld.Undispatched

variable (w : WebhookWorld)

theorem refl : w.Undispatched w :=
  ⟨rfl, rfl, rfl, rfl, rfl⟩

theorem later (n : Nat) : w.Undispatched (w.later n) :=
  ⟨rfl, rfl, rfl, rfl, rfl⟩

theorem keeps {w w' : WebhookWorld} (h : w.Undispatched w') : w.KeepsSubscriptions w' :=
  fun _ hs => h.subscriptions ▸ hs

theorem dispatched {w w' : WebhookWorld} (h : w.Undispatched w') (hw : w.Dispatched) :
    w'.Dispatched where
  subscriptionIDs := by rw [h.subscriptions]; exact hw.subscriptionIDs
  ledger := by rw [eventPairs, h.rows, h.dispatches]; exact hw.ledger
  once := by rw [h.dispatches, h.dispatching]; exact hw.once
  numbers := by rw [h.dispatching]; exact hw.numbers
  fresh := by rw [h.dispatching, h.nextTx]; exact hw.fresh
  rows := by
    rw [h.rows]
    exact fun x hx => (hw.rows x hx).mono h.keeps
  claims := by
    rw [h.dispatching]
    exact fun t ht c hc => (hw.claims t ht c hc).mono h.keeps

theorem eventRows_map {f : WebhookDelivery → WebhookDelivery}
    (hf : ∀ d, (f d).eventRow = d.eventRow) :
    (w.deliveries.map f).filterMap eventRow = w.eventRows := by
  rw [filterMap_map]
  exact filterMap_congr fun d _ => hf d

theorem updateDelivery (id : Nat) {f : WebhookDelivery → WebhookDelivery}
    (hf : ∀ d, (f d).eventRow = d.eventRow) : w.Undispatched (w.updateDelivery id f) := by
  refine ⟨eventRows_map w fun d => ?_, rfl, rfl, rfl, rfl⟩
  split
  · exact hf d
  · rfl

theorem enqueue (sub : String) (p : JobCompleted) (pass : Option Nat) :
    w.Undispatched (w.addDelivery sub "JOB_COMPLETED" (.jobCompleted p) pass) := by
  refine ⟨?_, rfl, rfl, rfl, rfl⟩
  rw [eventRows, addDelivery, filterMap_append]
  exact append_nil _

end WebhookWorld.Undispatched

/-- The five statements that concern subscriptions and dispatches. -/
def WebhookStmt.aboutDispatches : WebhookStmt → Bool
  | .createSubscription _ | .beginDispatch .. | .claimDispatch .. | .commitDispatch _
  | .rollbackDispatch _ => true
  | _ => false

theorem undispatched_execNow (env : Env) (s : WebhookStmt) (ch : WebhookChoice) (w : WebhookWorld)
    (hs : s.aboutDispatches = false) : w.Undispatched (s.execNow env w ch).2 := by
  refine execNow_keeps env s ch w (.refl _) fun w' hdoes => ?_
  cases s with
  | createSubscription | beginDispatch | claimDispatch | commitDispatch | rollbackDispatch => cases hs
  | dueDeliveries limit =>
    cases hdoes
    refine ⟨Undispatched.eventRows_map w fun d => ?_, rfl, rfl, rfl, rfl⟩
    split <;> rfl
  | markDelivered | markAttemptFailed =>
    cases hdoes
    exact .updateDelivery _ _ fun _ => rfl
  | redeliver sub id =>
    cases hdoes
    refine .updateDelivery _ _ fun d => ?_
    split <;> rfl
  | enqueueDelivery pass sub payload done subs =>
    cases hdoes
    exact .enqueue _ _ _ _
  | orderDispatched o =>
    cases (Option.ite_none_left_eq_some.mp hdoes).2
    exact ⟨rfl, rfl, rfl, rfl, rfl⟩
  | insertEvent e =>
    obtain ⟨stream, rfl⟩ := hdoes
    exact ⟨rfl, rfl, rfl, rfl, rfl⟩
  | _ =>
    cases hdoes
    exact ⟨rfl, rfl, rfl, rfl, rfl⟩

/-! ### Subscriptions and dispatches -/

theorem claimedPairs_append (ts ts' : List Dispatching) :
    claimedPairs (ts ++ ts') = claimedPairs ts ++ claimedPairs ts' :=
  flatMap_append

theorem claimedPairs_cons (t : Dispatching) (ts : List Dispatching) :
    claimedPairs (t :: ts) = t.claimed.map (·.dispatch) ++ claimedPairs ts :=
  flatMap_cons

section Statements

variable {w w' : WebhookWorld} (hw : w.Dispatched)

include hw

theorem WebhookWorld.Dispatched.createSubscription {s : Subscription}
    (h : w.createSubscription s = some w') : w.KeepsSubscriptions w' ∧ w'.Dispatched := by
  obtain ⟨hnew, h⟩ := Option.ite_none_left_eq_some.mp h
  cases h
  have hkeeps : w.KeepsSubscriptions { w with subscriptions := w.subscriptions ++ [s] } :=
    fun s' hs' => mem_append_left _ hs'
  refine ⟨hkeeps, ?_, hw.ledger, hw.once, hw.numbers, hw.fresh,
    fun x hx => (hw.rows x hx).mono hkeeps, fun t ht c hc => (hw.claims t ht c hc).mono hkeeps⟩
  refine Keyed.nodup_append hw.subscriptionIDs fun s' hs' heq => hnew ?_
  exact any_eq_true.mpr ⟨s', hs', decide_eq_true heq⟩

theorem WebhookWorld.Dispatched.begin : w.beginDispatch.Dispatched where
  subscriptionIDs := hw.subscriptionIDs
  ledger := hw.ledger
  once := by
    show (w.dispatches ++ claimedPairs (w.dispatching ++ [{ number := w.nextTx }])).Nodup
    rw [claimedPairs_append]
    exact (append_nil (claimedPairs w.dispatching)).symm ▸ hw.once
  numbers := Keyed.nodup_append hw.numbers fun t ht => ne_of_lt (hw.fresh t ht)
  fresh := by
    intro t ht
    rcases mem_append.mp ht with ht | ht
    · exact Nat.lt_succ_of_lt (hw.fresh t ht)
    · rw [mem_singleton.mp ht]
      exact Nat.lt_succ_self _
  rows := hw.rows
  claims := by
    intro t ht c hc
    rcases mem_append.mp ht with ht | ht
    · exact hw.claims t ht c hc
    · rw [mem_singleton.mp ht] at hc
      cases hc

theorem WebhookWorld.Dispatched.claim {n : Nat} {c : Candidate} {b : Bool} (hc : c.Wanted w)
    (h : w.claimDispatch n c = some (b, w')) : w.KeepsSubscriptions w' ∧ w'.Dispatched := by
  obtain ⟨t, ht, hfree, rfl | ⟨hdispatches, hclaimed, rfl⟩⟩ := claimDispatch_cases h
  · exact ⟨fun _ hs => hs, hw⟩
  obtain ⟨l₁, l₂, hsplit, hnumber, hothers⟩ := Keyed.split_of_find hw.numbers ht
  have hkey : ∀ t : Dispatching,
      (if t.number = n then { t with claimed := t.claimed ++ [c] } else t).number = t.number := by
    intro t
    split <;> rfl
  have hmap : (w.dispatching.map fun t =>
      if t.number = n then { t with claimed := t.claimed ++ [c] } else t) =
      l₁ ++ { t with claimed := t.claimed ++ [c] } :: l₂ := by
    have hid : ∀ l : List Dispatching, (∀ x ∈ l, x.number ≠ n) → (l.map fun t =>
        if t.number = n then { t with claimed := t.claimed ++ [c] } else t) = l := by
      intro l hl
      exact (map_congr_left fun x hx => if_neg (hl x hx)).trans (map_id _)
    rw [hsplit, map_append, map_cons, if_pos hnumber,
      hid l₁ fun x hx => hothers x (mem_append_left _ hx),
      hid l₂ fun x hx => hothers x (mem_append_right _ hx)]
  have hnew : c.dispatch ∉ w.dispatches ++ claimedPairs w.dispatching := by
    intro hmem
    rcases mem_append.mp hmem with hmem | hmem
    · exact hdispatches hmem
    · obtain ⟨t', ht', hin⟩ := mem_flatMap.mp hmem
      by_cases hsame : t'.number = n
      · have heq : t' = t := inj_on_of_nodup_map hw.numbers ht' (mem_of_find?_eq_some ht)
          (hsame.trans hnumber.symm)
        exact hclaimed (heq ▸ hin)
      · refine Bool.eq_false_iff.mp hfree (any_eq_true.mpr ⟨t', ht', ?_⟩)
        exact decide_eq_true ⟨hsame, hin⟩
  refine ⟨fun _ hs => hs, hw.subscriptionIDs, hw.ledger, ?_, ?_, ?_, hw.rows, ?_⟩
  · -- All the pairs, and the one that is new.
    have hperm : (w.dispatches ++ claimedPairs (l₁ ++ { t with claimed := t.claimed ++ [c] } :: l₂)).Perm
        (c.dispatch :: (w.dispatches ++ claimedPairs w.dispatching)) := by
      rw [hsplit]
      simp only [claimedPairs_append, claimedPairs_cons, map_append, map_cons, map_nil]
      have hmiddle : (w.dispatches ++ (claimedPairs l₁ ++ t.claimed.map (·.dispatch)) ++
          c.dispatch :: claimedPairs l₂).Perm _ := perm_middle
      simpa only [append_assoc, cons_append, nil_append] using hmiddle
    rw [hmap, hperm.nodup_iff]
    exact nodup_cons.mpr ⟨hnew, hw.once⟩
  · exact (Keyed.map_key_map hkey).symm ▸ hw.numbers
  · intro t' ht'
    obtain ⟨t₀, ht₀, rfl⟩ := mem_map.mp ht'
    rw [hkey]
    exact hw.fresh t₀ ht₀
  · intro t' ht' c' hc'
    obtain ⟨t₀, ht₀, rfl⟩ := mem_map.mp ht'
    split at hc'
    · rcases mem_append.mp hc' with hc' | hc'
      · exact hw.claims t₀ ht₀ c' hc'
      · exact mem_singleton.mp hc' ▸ hc
    · exact hw.claims t₀ ht₀ c' hc'

theorem WebhookWorld.Dispatched.rollback (n : Nat) : (w.rollbackDispatch n).Dispatched where
  subscriptionIDs := hw.subscriptionIDs
  ledger := hw.ledger
  once := hw.once.sublist (.append (.refl _) (filter_sublist.flatMap _))
  numbers := hw.numbers.sublist (filter_sublist.map _)
  fresh := fun t ht => hw.fresh t (mem_of_mem_filter ht)
  rows := hw.rows
  claims := fun t ht => hw.claims t (mem_of_mem_filter ht)

/-- The candidates get their deliveries. -/
abbrev addEvents (env : Env) (cs : List Candidate) (w : WebhookWorld) : WebhookWorld :=
  cs.foldl (fun w c =>
    w.addDelivery c.subscriptionID c.event.eventType (.event (.ofEvent env c.event))) w

omit hw in
theorem eventRows_addEvents (env : Env) (cs : List Candidate) : ∀ w,
    (addEvents env cs w).eventRows =
      w.eventRows ++ cs.map (fun c => (.ofEvent env c.event, c.subscriptionID)) ∧
    (addEvents env cs w).subscriptions = w.subscriptions ∧
    (addEvents env cs w).nextTx = w.nextTx := by
  induction cs with
  | nil => exact fun w => ⟨(append_nil _).symm, rfl, rfl⟩
  | cons c cs ih =>
    intro w
    obtain ⟨hrows, hsubs, hnext⟩ := ih (addEvents env [c] w)
    refine ⟨hrows.trans ?_, hsubs, hnext⟩
    have hone : (addEvents env [c] w).eventRows =
        w.eventRows ++ [(.ofEvent env c.event, c.subscriptionID)] := by
      rw [addEvents, foldl_cons, foldl_nil, eventRows, addDelivery, filterMap_append]
      rfl
    rw [hone, append_assoc, map_cons]
    rfl

theorem WebhookWorld.Dispatched.commit {env : Env} {n k : Nat}
    (h : w.commitDispatch env n = some (k, w')) : w.KeepsSubscriptions w' ∧ w'.Dispatched := by
  obtain ⟨t, ht, rfl⟩ := commitDispatch_cases h
  obtain ⟨hrows, hsubs, hnext⟩ := eventRows_addEvents env t.claimed w
  obtain ⟨l₁, l₂, hsplit, hnumber, hothers⟩ := Keyed.split_of_find hw.numbers ht
  have hrest : w.dispatching.filter (·.number ≠ n) = l₁ ++ l₂ := by
    rw [hsplit, filter_append, filter_cons_of_neg (by simpa using hnumber),
      ← filter_append]
    exact filter_eq_self.mpr fun x hx => by simpa using hothers x hx
  have hin : t ∈ w.dispatching := mem_of_find?_eq_some ht
  have hkeeps : w.KeepsSubscriptions (addEvents env t.claimed w) := fun s hs => hsubs.symm ▸ hs
  refine ⟨hkeeps, hsubs.symm ▸ hw.subscriptionIDs, ?_, ?_, ?_, ?_, ?_, ?_⟩
  · rw [← hw.ledger]
    refine (congrArg (List.map _) hrows).trans ?_
    rw [map_append, map_map]
    rfl
  · have hperm : (w.dispatches ++ t.claimed.map (·.dispatch) ++ claimedPairs (l₁ ++ l₂)).Perm
        (w.dispatches ++ claimedPairs w.dispatching) := by
      rw [hsplit, claimedPairs_append, claimedPairs_append, claimedPairs_cons, append_assoc]
      exact (perm_append_comm_assoc _ _ _).append_left _
    rw [hrest, hperm.nodup_iff]
    exact hw.once
  · exact hw.numbers.sublist (filter_sublist.map _)
  · exact fun t' ht' => hnext.symm ▸ hw.fresh t' (mem_of_mem_filter ht')
  · intro x hx
    rcases mem_append.mp (hrows ▸ hx : x ∈ w.eventRows ++ _) with hx | hx
    · exact (hw.rows x hx).mono hkeeps
    · obtain ⟨c, hc, rfl⟩ := mem_map.mp hx
      exact Wanted.mono hkeeps (hw.claims t hin c hc)
  · exact fun t' ht' c hc =>
      Wanted.mono hkeeps (hw.claims t' (mem_of_mem_filter ht') c hc)

end Statements

/-! ### Every run -/

/-- What is known of the candidates of a transaction. -/
def WebhookStmt.Offers (w : WebhookWorld) : (s : WebhookStmt) → s.Res → Prop
  | .beginDispatch _ _, r => ∀ n cs, (show Option (Nat × List Candidate) from r) = some (n, cs) →
      ∀ c ∈ cs, c.Wanted w
  | _, _ => True

def WebhookStmt.Offered (w : WebhookWorld) : WebhookStmt → Prop
  | .claimDispatch _ c => c.Wanted w
  | _ => True

theorem wanted_of_candidate {w : WebhookWorld} {since : Time} {limit : Nat} {c : Candidate}
    (h : c ∈ w.candidates since limit) : c.Wanted w := by
  have hjoin := (mem_filter.mp (mem_of_mem_limitBy h)).1
  obtain ⟨e, -, hc⟩ := mem_flatMap.mp hjoin
  obtain ⟨s, hs, rfl⟩ := mem_map.mp hc
  obtain ⟨hs, hwants⟩ := mem_filter.mp hs
  exact ⟨s, hs, rfl, hwants⟩

theorem task_offers (t : WebhookTask) (w : WebhookWorld) :
    t.prog.Issues (WebhookStmt.Offers w) (WebhookStmt.Offered w) := by
  refine task_all (fun s hs => ?_) (fun _ _ _ _ _ _ => trivial)
    (fun since limit n cs hr c hc => hr n cs rfl c hc) t
  cases s with
  | claimDispatch n c => cases hs
  | _ => trivial

theorem dispatched_exec (env : Env) (s : WebhookStmt) (ch : WebhookChoice) {w : WebhookWorld}
    (hs : s.Offered w) (hw : w.Dispatched) :
    s.Offers (s.exec env ch w).2 (s.exec env ch w).1 ∧ (s.exec env ch w).2.Dispatched ∧
      w.KeepsSubscriptions (s.exec env ch w).2 := by
  have hw' := (Undispatched.later w ch.elapsed).dispatched hw
  by_cases habout : s.aboutDispatches = false
  · have hquiet := undispatched_execNow env s ch (w.later ch.elapsed) habout
    refine ⟨?_, hquiet.dispatched hw', hquiet.keeps⟩
    cases s <;> trivial
  refine ⟨?_, And.symm (execNow_keeps env s ch (w.later ch.elapsed)
    (I := fun w' => w.KeepsSubscriptions w' ∧ w'.Dispatched) ⟨fun _ hs => hs, hw'⟩ fun w' hdoes => ?_)⟩
  · cases s with
    | beginDispatch since limit =>
      intro n cs hanswer c hc
      obtain ⟨hcandidates, hstate⟩ := ch.delivery.deliver_answer _ _ _ hanswer
      obtain ⟨-, rfl⟩ := Prod.mk.inj hcandidates
      show c.Wanted (Delivery.deliver _ _ _ _).2
      rw [hstate]
      exact wanted_of_candidate hc
    | _ => trivial
  · cases s with
    | createSubscription sub => exact hw'.createSubscription hdoes
    | beginDispatch =>
      cases hdoes
      exact ⟨fun _ hs => hs, hw'.begin⟩
    | claimDispatch n c =>
      obtain ⟨b, hclaim⟩ := hdoes
      exact hw'.claim hs hclaim
    | commitDispatch n =>
      obtain ⟨k, hcommit⟩ := hdoes
      exact hw'.commit hcommit
    | rollbackDispatch n =>
      cases hdoes
      exact ⟨fun _ hs => hs, hw'.rollback n⟩
    | _ => exact absurd rfl habout

theorem run_dispatched {env : Env} {as : List WebhookAction} {w : WebhookWorld} (hw : w.Dispatched) :
    ∀ ev ∈ webhookTrace env as w, ev.post.Dispatched := by
  have hrefl : ∀ a : WebhookWorld, a.KeepsSubscriptions a := fun _ _ h => h
  have hmono : ∀ (a b : WebhookWorld) (s : WebhookStmt) r, a.KeepsSubscriptions b → s.Offers a r →
      s.Offers b r := by
    intro a b s r hab hr
    cases s with
    | beginDispatch since limit => exact fun n cs heq c hc => (hr n cs heq c hc).mono hab
    | _ => trivial
  intro ev hev
  obtain ⟨_, hgrown⟩ := Pool.run_growing (W := fun _ w s => s.Offered w) (G := fun _ => True) hrefl
    (fun _ _ _ h h' s hs => h' s (h s hs)) hmono
    (fun _ s ch w _ hstmt hpre => dispatched_exec env s ch hstmt hpre) hw
    (fun t _ w => task_offers t w) (fun _ _ => trivial) ev hev
  exact hgrown.post

/-- **One delivery for each event and subscription.**  Whatever the instances do, in whatever
order: no pair of event and subscription ever has two deliveries, the pairs that have one
are exactly those recorded in `tmf_webhook_dispatches`, and a subscription of an account gets
events of that account only. -/
theorem dispatched_once (env : Env) (as : List WebhookAction) (w : WebhookWorld) (hw : w.Dispatched) :
    ∀ ev ∈ webhookTrace env as w,
      ev.post.eventPairs.Nodup ∧ (∀ p, p ∈ ev.post.eventPairs ↔ p ∈ ev.post.dispatches) ∧
      ∀ d ∈ ev.post.deliveries, ∀ e, d.payload = .event e →
        ∀ s ∈ ev.post.subscriptions, s.id = d.subscriptionID →
          ∀ a, s.accountID = some a → e.accountID = some a := by
  intro ev hev
  have hpost := run_dispatched hw ev hev
  refine ⟨?_, fun p => by rw [hpost.ledger], ?_⟩
  · rw [hpost.ledger]
    exact hpost.once.sublist (sublist_append_left _ _)
  intro d hd e he s hs hid a ha
  have hrow : (e, d.subscriptionID) ∈ ev.post.eventRows :=
    mem_filterMap.mpr ⟨d, hd, by rw [eventRow, he]⟩
  obtain ⟨s', hs', hid', hwants⟩ := hpost.rows _ hrow
  have hsame : s' = s := inj_on_of_nodup_map hpost.subscriptionIDs hs' hs (hid'.trans hid.symm)
  subst hsame
  rcases (of_decide_eq_true hwants).1 with hnone | ⟨-, hsome⟩
  · rw [hnone] at ha
    cases ha
  · exact hsome.symm.trans ha

/-- An event, a subscription for it and one of another account. -/
def oneEvent : WebhookWorld where
  subscriptions := [{ id := "s1", eventTypes := ["ServiceStateChangeEvent"] },
    { id := "s2", accountID := some "acc-2", eventTypes := ["ServiceStateChangeEvent"] }]
  stream := { events := [{
    id := "e1"
    sourceKey := "k1"
    accountID := some "acc-1"
    eventType := "ServiceStateChangeEvent" }] }

/-- Two instances read the same candidate; the second comes to insert it when the first has
committed. -/
def staleSnapshot : List WebhookAction :=
  [.spawn (.dispatch 0 100), .spawn (.dispatch 0 100), .step 0 {}, .step 1 {}, .step 0 {}, .step 0 {},
    .step 1 {}, .step 1 {}]

theorem dispatched_once_staleSnapshot :
    (webhookTrace noNames staleSnapshot oneEvent).map (fun ev => ev.post.eventPairs) =
      [[], [], [], [⟨"e1", "s1"⟩], [⟨"e1", "s1"⟩], [⟨"e1", "s1"⟩]] ∧
    ∀ ev ∈ webhookTrace noNames staleSnapshot oneEvent,
      ev.post.eventPairs.Nodup ∧ (∀ p, p ∈ ev.post.eventPairs ↔ p ∈ ev.post.dispatches) ∧
      ∀ d ∈ ev.post.deliveries, ∀ e, d.payload = .event e →
        ∀ s ∈ ev.post.subscriptions, s.id = d.subscriptionID →
          ∀ a, s.accountID = some a → e.accountID = some a :=
  ⟨by decide +kernel, dispatched_once noNames staleSnapshot oneEvent
    ⟨by decide, rfl, by decide, by decide, by decide, nofun, nofun⟩⟩

end Acs.Bss
