/-
A delivery that has been made is not made again.

`DueDeliveries` takes no claim and the two statements that mark an attempt find their row
by id alone, so two passes may hold the same delivery, and the later mark decides.  What
holds is said for runs in which a delivery is marked only by the pass that listed it last:
then a row somebody may still mark is `PENDING`, so one that is `DELIVERED` is left alone
until an operator asks for it again.
-/
import Acs.Bss.Webhook

namespace Acs.Bss

open List WebhookStmt Option Pool
open EventStream (Env)

/-- The row with this id. -/
def WebhookWorld.delivery (w : WebhookWorld) (id : Nat) : Option WebhookDelivery :=
  w.deliveries.find? (·.id = id)

/-- A mark is made by the pass that has listed the delivery last. -/
def WebhookEvent.current (ev : WebhookEvent) : Bool :=
  match ev.stmt with
  | .markDelivered pass id | .markAttemptFailed pass id _ =>
    (ev.pre.delivery id).all (·.listedBy = some pass)
  | _ => true

/-! ### What a statement does to the deliveries -/

/-- Deliveries are added at most. -/
structure WebhookWorld.Adds (w w' : WebhookWorld) : Prop where
  rows : ∃ rows, w'.deliveries = w.deliveries ++ rows ∧ (rows.map (·.id)).Nodup ∧
    ∀ d ∈ rows, w.nextID ≤ d.id ∧ d.id < w'.nextID ∧ d.listedBy = none
  nextID : w.nextID ≤ w'.nextID
  passes : w.passes ≤ w'.passes
  listed : w'.listed = w.listed

namespace WebhookWorld.Adds

theorem of_same {w w' : WebhookWorld} (hdeliveries : w'.deliveries = w.deliveries)
    (hnextID : w'.nextID = w.nextID) (hpasses : w.passes ≤ w'.passes)
    (hlisted : w'.listed = w.listed) : w.Adds w' :=
  ⟨⟨[], by rw [hdeliveries, append_nil], nodup_nil, fun d hd => absurd hd not_mem_nil⟩,
    le_of_eq hnextID.symm, hpasses, hlisted⟩

theorem refl (w : WebhookWorld) : w.Adds w :=
  of_same rfl rfl (le_rfl) rfl

theorem trans {a b c : WebhookWorld} (h : a.Adds b) (h' : b.Adds c) : a.Adds c := by
  obtain ⟨rows, hrows, hnodup, hids⟩ := h.rows
  obtain ⟨rows', hrows', hnodup', hids'⟩ := h'.rows
  refine ⟨⟨rows ++ rows', by rw [hrows', hrows, append_assoc], ?_, ?_⟩,
    le_trans h.nextID h'.nextID, le_trans h.passes h'.passes, h'.listed.trans h.listed⟩
  · rw [map_append, nodup_append]
    refine ⟨hnodup, hnodup', ?_⟩
    intro i hi j hj hij
    obtain ⟨d, hd, rfl⟩ := mem_map.mp hi
    obtain ⟨d', hd', rfl⟩ := mem_map.mp hj
    have hlt := (hids d hd).2.1
    have hge := (hids' d' hd').1
    omega
  · intro d hd
    have hb := h.nextID
    have hc := h'.nextID
    rcases mem_append.mp hd with hd | hd
    · obtain ⟨hge, hlt, hnone⟩ := hids d hd
      exact ⟨hge, lt_of_lt_of_le hlt hc, hnone⟩
    · obtain ⟨hge, hlt, hnone⟩ := hids' d hd
      exact ⟨le_trans hb hge, hlt, hnone⟩

theorem addDelivery (w : WebhookWorld) (subscriptionID eventType : String) (payload : Payload)
    (enqueuedBy : Option Nat) :
    w.Adds (w.addDelivery subscriptionID eventType payload enqueuedBy) := by
  refine ⟨⟨[_], rfl, nodup_singleton _, fun d hd => ?_⟩, Nat.le_succ _, le_rfl, rfl⟩
  rw [mem_singleton.mp hd]
  exact ⟨Nat.le_refl _, Nat.lt_succ_self _, rfl⟩

theorem foldl {β : Type} (f : WebhookWorld → β → WebhookWorld) (hf : ∀ (w : WebhookWorld) b, w.Adds (f w b))
    (bs : List β) : ∀ w : WebhookWorld, w.Adds (bs.foldl f w) := by
  induction bs with
  | nil => exact refl
  | cons b bs ih => exact fun w => (hf w b).trans (ih (f w b))

end WebhookWorld.Adds

section Dispatch

variable {w after : WebhookWorld} {n : Nat}

theorem claimDispatch_cases {c : Candidate} {b : Bool}
    (h : w.claimDispatch n c = some (b, after)) :
    ∃ t, w.dispatching.find? (·.number = n) = some t ∧ w.heldByOther n c.dispatch = false ∧
      (after = w ∨
        c.dispatch ∉ w.dispatches ∧ c.dispatch ∉ t.claimed.map (·.dispatch) ∧
          after = { w with dispatching := w.dispatching.map fun t =>
            if t.number = n then { t with claimed := t.claimed ++ [c] } else t }) := by
  unfold WebhookWorld.claimDispatch at h
  split at h
  · cases h
  next t ht =>
    obtain ⟨hfree, h⟩ := ite_none_left_eq_some.mp h
    refine ⟨t, ht, Bool.eq_false_iff.mpr hfree, ?_⟩
    split at h
    · cases h
      exact .inl rfl
    next hnew =>
      cases h
      exact .inr ⟨fun hmem => hnew (.inl hmem), fun hmem => hnew (.inr hmem), rfl⟩

theorem commitDispatch_cases {env : Env} {k : Nat}
    (h : w.commitDispatch env n = some (k, after)) :
    ∃ t, w.dispatching.find? (·.number = n) = some t ∧
      after = { t.claimed.foldl (fun w c =>
          w.addDelivery c.subscriptionID c.event.eventType (.event (.ofEvent env c.event))) w with
        dispatches := w.dispatches ++ t.claimed.map (·.dispatch)
        dispatching := w.dispatching.filter (·.number ≠ n) } := by
  unfold WebhookWorld.commitDispatch at h
  split at h
  · cases h
  next t ht =>
    cases h
    exact ⟨t, ht, rfl⟩

end Dispatch

/-- What a statement does when it is carried out. -/
def WebhookStmt.Does (env : Env) (w w' : WebhookWorld) : WebhookStmt → Prop
  | .dueDeliveries limit => w' = w.listDeliveries limit
  | .send .. | .getJobStatus _ => w' = w
  | .markDelivered _ id => w' = w.markDelivered id
  | .markAttemptFailed _ id reason => w' = w.markAttemptFailed id reason
  | .redeliver sub id => w' = w.redeliver sub id
  | .createSubscription s => w.createSubscription s = some w'
  | .unnotifiedOrders limit => w' = w.listOrders limit
  | .matchingSubscriptions pass orderID accountID eventType =>
    w' = w.noteMatched pass orderID (w.matchingSubscriptions accountID eventType)
  | .enqueueDelivery pass sub payload _ _ =>
    w' = w.addDelivery sub "JOB_COMPLETED" (.jobCompleted payload) (some pass)
  | .markOrderNotified pass orderID _ => w' = w.markOrderNotified pass orderID
  | .orderDispatched o => w.addOrder o = some w'
  | .insertEvent _ => ∃ stream, w' = { w with stream }
  | .beginDispatch .. => w' = w.beginDispatch
  | .claimDispatch n c => ∃ b, w.claimDispatch n c = some (b, w')
  | .commitDispatch n => ∃ k, w.commitDispatch env n = some (k, w')
  | .rollbackDispatch n => w' = w.rollbackDispatch n

section Exec

variable (env : Env) (s : WebhookStmt) (ch : WebhookChoice) (w : WebhookWorld)

theorem execNow_keeps {I : WebhookWorld → Prop} (h : I w)
    (hdoes : ∀ w', s.Does env w w' → I w') : I (s.execNow env w ch).2 := by
  cases s with
  | send | rollbackDispatch => exact hdoes _ rfl
  | createSubscription | orderDispatched =>
    refine ch.delivery.attempt_keeps h fun _ _ h => ?_
    obtain ⟨_, hw', heq⟩ := map_eq_some_iff.mp h
    cases heq
    exact hdoes _ hw'
  | insertEvent =>
    refine ch.delivery.attempt_keeps h fun _ _ h => ?_
    obtain ⟨stream, -, heq⟩ := map_eq_some_iff.mp h
    cases heq
    exact hdoes _ ⟨stream, rfl⟩
  | claimDispatch | commitDispatch =>
    exact ch.delivery.attempt_keeps h fun a w' h => hdoes w' ⟨a, h⟩
  | _ => exact ch.delivery.deliver_keeps h (hdoes _ rfl)

theorem exec_cases :
    (w.later ch.elapsed).Adds (s.exec env ch w).2 ∨
    (∃ limit, s = .dueDeliveries limit ∧
      (s.exec env ch w).2 = (w.later ch.elapsed).listDeliveries limit) ∨
    (∃ pass id, s = .markDelivered pass id ∧
      (s.exec env ch w).2 = (w.later ch.elapsed).markDelivered id) ∨
    (∃ pass id reason, s = .markAttemptFailed pass id reason ∧
      (s.exec env ch w).2 = (w.later ch.elapsed).markAttemptFailed id reason) ∨
    ∃ sub id, s = .redeliver sub id ∧
      (s.exec env ch w).2 = (w.later ch.elapsed).redeliver sub id := by
  have hdoes := execNow_keeps env s ch (w.later ch.elapsed) (I := fun w' => _ = w' ∨ _) (.inl rfl)
    fun _ => .inr
  rw [WebhookStmt.exec]
  generalize (s.execNow env (w.later ch.elapsed) ch).2 = w' at hdoes ⊢
  rcases hdoes with rfl | hdoes
  · exact .inl (.refl _)
  cases s with
  | dueDeliveries limit => exact .inr (.inl ⟨limit, rfl, hdoes⟩)
  | markDelivered pass id => exact .inr (.inr (.inl ⟨pass, id, rfl, hdoes⟩))
  | markAttemptFailed pass id reason => exact .inr (.inr (.inr (.inl ⟨pass, id, reason, rfl, hdoes⟩)))
  | redeliver sub id => exact .inr (.inr (.inr (.inr ⟨sub, id, rfl, hdoes⟩)))
  | createSubscription | orderDispatched =>
    cases (ite_none_left_eq_some.mp hdoes).2
    exact .inl (.of_same rfl rfl (Nat.le_refl _) rfl)
  | unnotifiedOrders limit =>
    cases hdoes
    exact .inl (.of_same rfl rfl (Nat.le_succ _) rfl)
  | enqueueDelivery pass sub payload done subs =>
    cases hdoes
    exact .inl (.addDelivery _ _ _ _ _)
  | insertEvent e =>
    obtain ⟨stream, rfl⟩ := hdoes
    exact .inl (.of_same rfl rfl (Nat.le_refl _) rfl)
  | claimDispatch n c =>
    obtain ⟨b, hclaim⟩ := hdoes
    obtain ⟨t, -, -, rfl | ⟨-, -, rfl⟩⟩ := claimDispatch_cases hclaim
    · exact .inl (.refl _)
    · exact .inl (.of_same rfl rfl (Nat.le_refl _) rfl)
  | commitDispatch n =>
    obtain ⟨k, hcommit⟩ := hdoes
    obtain ⟨t, -, rfl⟩ := commitDispatch_cases hcommit
    have hadds := WebhookWorld.Adds.foldl (fun w c =>
      w.addDelivery c.subscriptionID c.event.eventType (.event (.ofEvent env c.event)))
      (fun w c => .addDelivery w _ _ _ _) t.claimed (w.later ch.elapsed)
    exact .inl ⟨hadds.rows, hadds.nextID, hadds.passes, hadds.listed⟩
  | _ =>
    cases hdoes
    exact .inl (.of_same rfl rfl (Nat.le_refl _) rfl)

end Exec

theorem exec_listed (env : Env) (s : WebhookStmt) (ch : WebhookChoice) (w : WebhookWorld) :
    w.passes ≤ (s.exec env ch w).2.passes ∧
    ((s.exec env ch w).2.listed = w.listed ∨
      ∃ limit, s = .dueDeliveries limit ∧ (s.exec env ch w).2.passes = w.passes + 1 ∧
        (s.exec env ch w).2.listed = w.listed ++
          ((w.later ch.elapsed).dueDeliveries limit).map fun d => (w.passes, d.id)) := by
  rcases exec_cases env s ch w with
    hadds | ⟨limit, hs, heq⟩ | ⟨pass, id, -, heq⟩ | ⟨pass, id, reason, -, heq⟩ | ⟨sub, id, -, heq⟩
  · exact ⟨hadds.passes, .inl hadds.listed⟩
  · rw [heq]
    exact ⟨Nat.le_succ _, .inr ⟨limit, hs, rfl, rfl⟩⟩
  · rw [heq]
    exact ⟨le_rfl, .inl rfl⟩
  · rw [heq]
    exact ⟨le_rfl, .inl rfl⟩
  · rw [heq]
    exact ⟨le_rfl, .inl rfl⟩

/-! ### The invariant -/

/-- Ids and pass numbers are given out once, and a delivery that a pass may still mark is
`PENDING`. -/
structure WebhookWorld.Listing (w : WebhookWorld) : Prop where
  ids : (w.deliveries.map (·.id)).Nodup
  numbered : ∀ d ∈ w.deliveries, d.id < w.nextID
  pending : ∀ d ∈ w.deliveries, d.listedBy ≠ none → d.status = .pending
  listedBy : ∀ d ∈ w.deliveries, ∀ n, d.listedBy = some n → n < w.passes
  listed : ∀ x ∈ w.listed, x.1 < w.passes

namespace WebhookWorld.Listing

variable {w : WebhookWorld} (h : w.Listing)

include h

theorem later (n : Nat) : (w.later n).Listing :=
  ⟨h.ids, h.numbered, h.pending, h.listedBy, h.listed⟩

theorem adds {w' : WebhookWorld} (hadds : w.Adds w') : w'.Listing := by
  obtain ⟨rows, hrows, hnodup, hids⟩ := hadds.rows
  refine ⟨?_, ?_, ?_, ?_, ?_⟩
  · rw [hrows, map_append, nodup_append]
    refine ⟨h.ids, hnodup, ?_⟩
    intro i hi j hj hij
    obtain ⟨d, hd, rfl⟩ := mem_map.mp hi
    obtain ⟨d', hd', rfl⟩ := mem_map.mp hj
    have hlt := h.numbered d hd
    have hge := (hids d' hd').1
    omega
  · rw [hrows]
    intro d hd
    rcases mem_append.mp hd with hd | hd
    · exact lt_of_lt_of_le (h.numbered d hd) hadds.nextID
    · exact (hids d hd).2.1
  · rw [hrows]
    intro d hd hlisted
    rcases mem_append.mp hd with hd | hd
    · exact h.pending d hd hlisted
    · exact absurd (hids d hd).2.2 hlisted
  · rw [hrows]
    intro d hd n hn
    rcases mem_append.mp hd with hd | hd
    · exact lt_of_lt_of_le (h.listedBy d hd n hn) hadds.passes
    · rw [(hids d hd).2.2] at hn
      cases hn
  · rw [hadds.listed]
    exact fun x hx => lt_of_lt_of_le (h.listed x hx) hadds.passes

theorem map {f : WebhookDelivery → WebhookDelivery} (hid : ∀ d, (f d).id = d.id)
    (hpending : ∀ d ∈ w.deliveries, (f d).listedBy ≠ none → (f d).status = .pending)
    (hlistedBy : ∀ d ∈ w.deliveries, ∀ n, (f d).listedBy = some n → n < w.passes) :
    { w with deliveries := w.deliveries.map f }.Listing where
  ids := by
    rw [Keyed.map_key_map hid]
    exact h.ids
  numbered := by
    intro d' hd'
    obtain ⟨d, hd, rfl⟩ := mem_map.mp hd'
    rw [hid]
    exact h.numbered d hd
  pending := by
    intro d' hd'
    obtain ⟨d, hd, rfl⟩ := mem_map.mp hd'
    exact hpending d hd
  listedBy := by
    intro d' hd'
    obtain ⟨d, hd, rfl⟩ := mem_map.mp hd'
    exact hlistedBy d hd
  listed := h.listed

theorem update {id : Nat} {f : WebhookDelivery → WebhookDelivery} (hid : ∀ d, (f d).id = d.id)
    (hpending : ∀ d ∈ w.deliveries, (f d).listedBy ≠ none → (f d).status = .pending)
    (hlistedBy : ∀ d ∈ w.deliveries, ∀ n, (f d).listedBy = some n → n < w.passes) :
    (w.updateDelivery id f).Listing := by
  refine h.map ?_ ?_ ?_
  · intro d
    split
    · exact hid d
    · rfl
  · intro d hd
    split
    · exact hpending d hd
    · exact h.pending d hd
  · intro d hd
    split
    · exact hlistedBy d hd
    · exact h.listedBy d hd

theorem status_of_due {limit : Nat} {d : WebhookDelivery} (hd : d ∈ w.deliveries)
    (hdue : d.id ∈ (w.dueDeliveries limit).map (·.id)) : d.status = .pending := by
  obtain ⟨d', hd', hid⟩ := mem_map.mp hdue
  obtain ⟨hmem, hpending⟩ := mem_filter.mp (mem_of_mem_limitBy hd')
  rw [← inj_on_of_nodup_map h.ids hmem hd hid]
  exact (of_decide_eq_true hpending).1

theorem list (limit : Nat) : (w.listDeliveries limit).Listing := by
  have hgrown : { w with passes := w.passes + 1
                         listed := w.listed ++ (w.dueDeliveries limit).map fun
                           (d : WebhookDelivery) => (w.passes, d.id) }.Listing := by
    refine ⟨h.ids, h.numbered, h.pending, ?_, ?_⟩
    · exact fun d hd n hn => Nat.lt_succ_of_lt (h.listedBy d hd n hn)
    · intro x hx
      rcases mem_append.mp hx with hx | hx
      · exact Nat.lt_succ_of_lt (h.listed x hx)
      · obtain ⟨d, -, rfl⟩ := mem_map.mp hx
        exact Nat.lt_succ_self _
  refine hgrown.map ?_ ?_ ?_
  · intro d
    split <;> rfl
  · intro d hd
    split
    next hdue =>
      have hstatus : d.status = .pending := h.status_of_due hd hdue
      exact fun _ => hstatus
    · exact h.pending d hd
  · intro d hd n
    split
    · rintro ⟨⟩
      exact Nat.lt_succ_self _
    · exact hgrown.listedBy d hd n

theorem exec (env : Env) (s : WebhookStmt) (ch : WebhookChoice) : (s.exec env ch w).2.Listing := by
  have h' := h.later ch.elapsed
  rcases exec_cases env s ch w with
    hadds | ⟨limit, -, heq⟩ | ⟨pass, id, -, heq⟩ | ⟨pass, id, reason, -, heq⟩ | ⟨sub, id, -, heq⟩
  · exact h'.adds hadds
  · rw [heq]
    exact h'.list limit
  · rw [heq]
    exact h'.update (fun _ => rfl) (fun _ _ hne => absurd rfl hne) fun _ _ _ hn => (nomatch hn)
  · rw [heq]
    exact h'.update (fun _ => rfl) (fun _ _ hne => absurd rfl hne) fun _ _ _ hn => (nomatch hn)
  · rw [heq]
    refine h'.update ?_ ?_ ?_
    · intro d
      split <;> rfl
    · intro d hd
      split
      · exact fun _ => rfl
      · exact h'.pending d hd
    · intro d hd
      split
      · exact h'.listedBy d hd
      · exact h'.listedBy d hd

theorem row_step (env : Env) (s : WebhookStmt) (ch : WebhookChoice) {id : Nat}
    {d : WebhookDelivery} (hd : w.delivery id = some d) :
    ∃ d', (s.exec env ch w).2.delivery id = some d' ∧
      (d' = d ∨
      (∃ limit, s = .dueDeliveries limit ∧ d.status = .pending ∧ d'.listedBy = some w.passes) ∨
      (∃ pass, s = .markDelivered pass id ∧ d'.listedBy = none) ∨
      (∃ pass reason, s = .markAttemptFailed pass id reason ∧ d'.listedBy = none) ∨
      ∃ sub, s = .redeliver sub id ∧ d'.listedBy = d.listedBy) := by
  have h' := h.later ch.elapsed
  have hid : d.id = id := by simpa using find?_some hd
  have hfind : ∀ f : WebhookDelivery → WebhookDelivery, (∀ d, (f d).id = d.id) →
      (w.deliveries.map f).find? (·.id = id) = some (f d) := by
    intro f hf
    rw [Keyed.find_map hf, show w.deliveries.find? (·.id = id) = some d from hd]
    rfl
  have hupdate : ∀ (id' : Nat) (f : WebhookDelivery → WebhookDelivery), (∀ d, (f d).id = d.id) →
      ((w.later ch.elapsed).updateDelivery id' f).delivery id =
        some (if id = id' then f d else d) := by
    intro id' f hf
    refine (hfind (fun d => if d.id = id' then f d else d) fun d => ?_).trans (by rw [hid])
    split
    · exact hf d
    · rfl
  rcases exec_cases env s ch w with
    hadds | ⟨limit, hs, heq⟩ | ⟨pass, id', hs, heq⟩ | ⟨pass, id', reason, hs, heq⟩ | ⟨sub, id', hs, heq⟩
  · obtain ⟨rows, hrows, -⟩ := hadds.rows
    refine ⟨d, ?_, .inl rfl⟩
    rw [WebhookWorld.delivery, hrows, find?_append]
    exact congrArg (Option.or · _) hd
  · rw [heq]
    refine ⟨_, hfind _ fun d => by split <;> rfl, ?_⟩
    split
    next hdue =>
      have hmem : d ∈ (w.later ch.elapsed).deliveries := mem_of_find?_eq_some hd
      exact .inr (.inl ⟨limit, hs, h'.status_of_due hmem hdue, rfl⟩)
    · exact .inl rfl
  · rw [heq]
    refine ⟨_, hupdate id' _ fun _ => rfl, ?_⟩
    split
    next hsame => exact .inr (.inr (.inl ⟨pass, hsame ▸ hs, rfl⟩))
    · exact .inl rfl
  · rw [heq]
    refine ⟨_, hupdate id' _ fun _ => rfl, ?_⟩
    split
    next hsame => exact .inr (.inr (.inr (.inl ⟨pass, reason, hsame ▸ hs, rfl⟩)))
    · exact .inl rfl
  · rw [heq]
    refine ⟨_, hupdate id' _ fun d => by split <;> rfl, ?_⟩
    split
    next hsame =>
      refine .inr (.inr (.inr (.inr ⟨sub, hsame ▸ hs, ?_⟩)))
      split <;> rfl
    · exact .inl rfl

end WebhookWorld.Listing

/-! ### Programs -/

/-- What a list tells for good: which pass has listed what. -/
def WebhookStmt.Lists (w : WebhookWorld) : (s : WebhookStmt) → s.Res → Prop
  | .dueDeliveries _, r => ∀ pass ds,
      (show Option (Nat × List WebhookDelivery) from r) = some (pass, ds) →
      ∀ d ∈ ds, (pass, d.id) ∈ w.listed
  | _, _ => True

/-- A pass sends what it has listed. -/
def WebhookStmt.Listed (w : WebhookWorld) : WebhookStmt → Prop
  | .send pass d => (pass, d.id) ∈ w.listed
  | _ => True

variable {R : (s : WebhookStmt) → s.Res → Prop} {W : WebhookStmt → Prop}

theorem single_all {s : WebhookStmt} (h : W s) : (single s).Issues R W :=
  ⟨h, fun _ _ => trivial⟩

theorem claimDispatches_all {n : Nat} {cs : List Candidate} (h : ∀ c ∈ cs, W (.claimDispatch n c)) :
    (claimDispatches n cs).Issues R W := by
  induction cs with
  | nil => trivial
  | cons c cs ih =>
    refine ⟨h c mem_cons_self, fun r _ => ?_⟩
    cases r with
    | none => trivial
    | some _ => exact ih fun c' hc' => h c' (mem_cons_of_mem _ hc')

section Loops

theorem deliver_all (hlist : W (.dueDeliveries webhookBatchSize))
    (hsend : ∀ pass ds, R (.dueDeliveries webhookBatchSize) (some (pass, ds)) → ∀ d ∈ ds,
      W (.send pass d) ∧ W (.markDelivered pass d.id) ∧
        ∀ reason, W (.markAttemptFailed pass d.id reason)) :
    deliverDueWebhooks.Issues R W := by
  refine ⟨hlist, fun r hr => ?_⟩
  cases r with
  | none => trivial
  | some found =>
    refine Prog.all_each fun d hd => ?_
    obtain ⟨hW, hdelivered, hfailed⟩ := hsend found.1 found.2 hr d hd
    refine ⟨hW, fun answer _ => ?_⟩
    cases answer with
    | ok _ => exact ⟨hdelivered, fun _ _ => trivial⟩
    | error reason => exact ⟨hfailed reason, fun _ _ => trivial⟩

theorem dispatch_all {since : Time} {limit : Int}
    (hbegin : W (.beginDispatch since (dispatchLimit limit)))
    (hclaim : ∀ n cs, R (.beginDispatch since (dispatchLimit limit)) (some (n, cs)) →
      ∀ c ∈ cs, W (.claimDispatch n c))
    (hend : ∀ n, W (.commitDispatch n) ∧ W (.rollbackDispatch n)) :
    (dispatchTMFEvents since limit).Issues R W := by
  refine ⟨hbegin, fun r hr => ?_⟩
  cases r with
  | none => trivial
  | some found =>
    refine (claimDispatches_all (hclaim found.1 found.2 hr)).bind fun ok _ => ?_
    cases ok with
    | false => exact ⟨(hend _).2, fun _ _ => trivial⟩
    | true =>
      refine ⟨(hend _).1, fun r _ => ?_⟩
      cases r with
      | none => exact ⟨(hend _).2, fun _ _ => trivial⟩
      | some _ => trivial

/-- Statements that rest on nothing their program has read. -/
def WebhookStmt.plain : WebhookStmt → Bool
  | .send .. | .claimDispatch .. => false
  | _ => true

variable (hplain : ∀ s, s.plain → W s)

include hplain

theorem enqueueDeliveries_all {pass : Nat} {payload : JobCompleted} {subs done rest : List String} :
    (enqueueDeliveries pass payload subs done rest).Issues R W := by
  induction rest generalizing done with
  | nil => trivial
  | cons sub rest ih => exact ⟨hplain _ rfl, fun _ _ => ih⟩

theorem notifyTerminalOrder_all {pass : Nat} {o : OrderRecord} :
    (notifyTerminalOrder pass o).Issues R W := by
  refine ⟨hplain _ rfl, fun job _ => ?_⟩
  cases job with
  | none => trivial
  | some job =>
    show Prog.All _ _ _ (if isTerminalJobStatus job.status = false then _ else _)
    split
    · trivial
    · refine ⟨hplain _ rfl, fun subs _ => ?_⟩
      cases subs with
      | none => trivial
      | some subs =>
        exact (enqueueDeliveries_all hplain).bind fun _ _ => ⟨hplain _ rfl, fun _ _ => trivial⟩

/-- The rule for all tasks: what is sent has been listed, and what is claimed is a
candidate. -/
theorem task_all
    (hsend : ∀ limit pass ds, R (.dueDeliveries limit) (some (pass, ds)) →
      ∀ d ∈ ds, W (.send pass d))
    (hclaim : ∀ since limit n cs, R (.beginDispatch since limit) (some (n, cs)) →
      ∀ c ∈ cs, W (.claimDispatch n c)) (t : WebhookTask) :
    t.prog.Issues R W := by
  cases t with
  | deliver =>
    exact deliver_all (hplain _ rfl) fun pass ds hr d hd =>
      ⟨hsend _ pass ds hr d hd, hplain _ rfl, fun _ => hplain _ rfl⟩
  | notify =>
    refine ⟨hplain _ rfl, fun r _ => ?_⟩
    cases r with
    | none => trivial
    | some found => exact Prog.all_each fun _ _ => notifyTerminalOrder_all hplain
  | dispatch since limit =>
    exact dispatch_all (hplain _ rfl) (hclaim _ _) fun _ => ⟨hplain _ rfl, hplain _ rfl⟩
  | redeliver | createSubscription | orderDispatched | insertEvent | rollback =>
    exact single_all (hplain _ rfl)

end Loops

theorem task_lists (t : WebhookTask) (w : WebhookWorld) :
    t.prog.Issues (Lists w) (Listed w) := by
  refine task_all (fun s hs => ?_) (fun limit pass ds hr d hd => hr pass ds rfl d hd)
    (fun _ _ _ _ _ _ _ => trivial) t
  cases s with
  | send pass d => cases hs
  | _ => trivial

/-! ### Every run -/

/-- What has been listed stays listed. -/
def WebhookWorld.KeepsListed (a b : WebhookWorld) : Prop :=
  ∀ x ∈ a.listed, x ∈ b.listed

theorem run_listing {env : Env} {as : List WebhookAction} {w : WebhookWorld} (hw : w.Listing) :
    ∀ ev ∈ webhookTrace env as w,
      ev.Legal (WebhookStmt.exec env) ∧ ev.pre.Listing ∧ ev.stmt.Listed ev.pre := by
  have hrefl : ∀ a : WebhookWorld, a.KeepsListed a := fun _ _ h => h
  have hmono : ∀ (a b : WebhookWorld) (s : WebhookStmt) r, a.KeepsListed b → s.Lists a r →
      s.Lists b r := by
    intro a b s r hab hr
    cases s with
    | dueDeliveries limit => exact fun pass ds heq d hd => hab _ (hr pass ds heq d hd)
    | _ => trivial
  have hexec : ∀ (s : WebhookStmt) ch (w : WebhookWorld), w.Listing →
      s.Lists (s.exec env ch w).2 (s.exec env ch w).1 ∧ (s.exec env ch w).2.Listing ∧
        w.KeepsListed (s.exec env ch w).2 := by
    intro s ch w hw
    refine ⟨?_, hw.exec env s ch, ?_⟩
    · cases s with
      | dueDeliveries limit =>
        intro pass ds heq d hd
        obtain ⟨hanswer, hstate⟩ := ch.delivery.deliver_answer _ _ _ heq
        obtain ⟨rfl, rfl⟩ := Prod.mk.inj hanswer
        refine (congrArg WebhookWorld.listed hstate).symm ▸ mem_append_right _ ?_
        exact mem_map_of_mem hd
      | _ => trivial
    · rcases (exec_listed env s ch w).2 with heq | ⟨limit, -, -, heq⟩
      · exact fun x hx => heq.symm ▸ hx
      · exact fun x hx => heq.symm ▸ mem_append_left _ hx
  intro ev hev
  obtain ⟨_, hgrown⟩ := run_growing (W := fun _ w s => s.Listed w) (G := fun _ => True) hrefl
    (fun _ _ _ h h' x hx => h' x (h x hx)) hmono (fun _ s ch w _ _ => hexec s ch w) hw
    (fun t _ w => task_lists t w) (fun _ _ => trivial) ev hev
  exact ⟨hgrown.legal, hgrown.pre, hgrown.stmt⟩

/-- A delivery that has been made stays so, until it is asked for again. -/
theorem delivered_step {env : Env} {ev : WebhookEvent} (hlegal : ev.Legal (WebhookStmt.exec env))
    (hpre : ev.pre.Listing) (hcurrent : ev.current) {id : Nat} {d : WebhookDelivery}
    (hd : ev.pre.delivery id = some d) (hstatus : d.status = .delivered) :
    ev.post.delivery id = some d ∨ ∃ sub, ev.stmt = .redeliver sub id := by
  obtain ⟨s, ch, w, rfl⟩ := hlegal.eq_fire
  -- Nobody may mark it: it would be pending.
  have hnobody : d.listedBy = none := by
    by_contra hlisted
    have hmem : d ∈ w.deliveries := mem_of_find?_eq_some hd
    rw [hpre.pending d hmem hlisted] at hstatus
    cases hstatus
  obtain ⟨d', hd', rfl | ⟨limit, -, hpending, -⟩ | ⟨pass, rfl, -⟩ | ⟨pass, reason, rfl, -⟩ |
    ⟨sub, rfl, -⟩⟩ := hpre.row_step env s ch hd
  · exact .inl hd'
  · rw [hpending] at hstatus
    cases hstatus
  · simp only [WebhookEvent.current, fire] at hcurrent hd
    rw [hd] at hcurrent
    cases (of_decide_eq_true hcurrent).symm.trans hnobody
  · simp only [WebhookEvent.current, fire] at hcurrent hd
    rw [hd] at hcurrent
    cases (of_decide_eq_true hcurrent).symm.trans hnobody
  · exact .inr ⟨sub, rfl⟩

section Passes

variable {env : Env} {ev : WebhookEvent} (hlegal : ev.Legal (WebhookStmt.exec env))

include hlegal

theorem passes_step : ev.pre.passes ≤ ev.post.passes := by
  obtain ⟨s, ch, w, rfl⟩ := hlegal.eq_fire
  exact (exec_listed env s ch w).1

theorem not_listed_step {m id : Nat} (hpre : (m, id) ∉ ev.pre.listed ∧ m < ev.pre.passes) :
    (m, id) ∉ ev.post.listed ∧ m < ev.post.passes := by
  refine ⟨fun hmem => ?_, lt_of_lt_of_le hpre.2 (passes_step hlegal)⟩
  obtain ⟨s, ch, w, rfl⟩ := hlegal.eq_fire
  rcases (exec_listed env s ch w).2 with heq | ⟨limit, -, -, heq⟩
  · exact hpre.1 (heq ▸ hmem)
  · have hmem' := heq ▸ hmem
    rcases mem_append.mp hmem' with hold | hnew
    · exact hpre.1 hold
    · obtain ⟨d, -, hd⟩ := mem_map.mp hnew
      have hm : w.passes = m := congrArg Prod.fst hd
      exact lt_irrefl _ (hm ▸ hpre.2)

/-- A delivery that has gone to a later pass does not come back to an earlier one. -/
theorem listedBy_step (hpre : ev.pre.Listing) {n id : Nat}
    (h : n < ev.pre.passes ∧ ∃ d, ev.pre.delivery id = some d ∧ d.listedBy ≠ some n) :
    n < ev.post.passes ∧ ∃ d, ev.post.delivery id = some d ∧ d.listedBy ≠ some n := by
  obtain ⟨hn, d, hd, hother⟩ := h
  refine ⟨lt_of_lt_of_le hn (passes_step hlegal), ?_⟩
  obtain ⟨s, ch, w, rfl⟩ := hlegal.eq_fire
  obtain ⟨d', hd', rfl | ⟨limit, -, -, hlisted⟩ | ⟨pass, -, hlisted⟩ | ⟨pass, reason, -, hlisted⟩ |
    ⟨sub, -, hlisted⟩⟩ := hpre.row_step env s ch hd
  · exact ⟨d', hd', hother⟩
  · refine ⟨d', hd', fun heq => ?_⟩
    have hsame : w.passes = n := Option.some.inj (hlisted.symm.trans heq)
    exact lt_irrefl _ (hsame ▸ hn)
  · exact ⟨d', hd', fun heq => by cases hlisted.symm.trans heq⟩
  · exact ⟨d', hd', fun heq => by cases hlisted.symm.trans heq⟩
  · exact ⟨d', hd', fun heq => hother (hlisted.symm.trans heq)⟩

end Passes

section List

variable {env : Env} {pre post : WebhookWorld} {limit m : Nat} {ds : List WebhookDelivery}
variable (hlegal : Pool.Event.Legal (WebhookStmt.exec env)
  (⟨.dueDeliveries limit, some (m, ds), pre, post⟩ : WebhookEvent))

include hlegal

theorem listing_answer :
    m = pre.passes ∧ ∃ elapsed, post = (pre.later elapsed).listDeliveries limit := by
  obtain ⟨ch, hexec⟩ := hlegal
  have hres : (ch.delivery.deliver ((pre.later ch.elapsed).passes,
      (pre.later ch.elapsed).dueDeliveries limit) (pre.later ch.elapsed)
      ((pre.later ch.elapsed).listDeliveries limit)).1 = some (m, ds) :=
    (congrArg Prod.fst hexec).symm
  obtain ⟨hanswer, hstate⟩ := ch.delivery.deliver_answer _ _ _ hres
  exact ⟨congrArg Prod.fst hanswer, ch.elapsed, (congrArg Prod.snd hexec).trans hstate⟩

/-- The delivery a pass has listed: it was `PENDING`, and is the pass's now. -/
theorem listed_row (hpre : pre.Listing) {id : Nat} (hlisted : (m, id) ∈ post.listed) :
    ∃ row, pre.delivery id = some row ∧ row.status = .pending ∧
      ∃ row', post.delivery id = some row' ∧ row'.listedBy = some m := by
  obtain ⟨rfl, elapsed, rfl⟩ := listing_answer hlegal
  rcases mem_append.mp hlisted with hold | hnew
  · exact absurd (hpre.listed _ hold) (lt_irrefl _)
  · obtain ⟨due, hdue, hid⟩ := mem_map.mp hnew
    obtain rfl : due.id = id := congrArg Prod.snd hid
    have hdue' : due.id ∈ ((pre.later elapsed).dueDeliveries limit).map (·.id) :=
      mem_map_of_mem hdue
    have hmem : due ∈ pre.deliveries := (mem_filter.mp (mem_of_mem_limitBy hdue)).1
    have hfind : pre.delivery due.id = some due := Keyed.find_of_mem hpre.ids hmem
    refine ⟨due, hfind, (hpre.later elapsed).status_of_due hmem hdue',
      { due with listedBy := some pre.passes }, ?_, rfl⟩
    refine (Keyed.find_map (fun d => ?_) due.id).trans ?_
    · split <;> rfl
    · rw [show (pre.later elapsed).deliveries.find? (·.id = due.id) = some due from hfind]
      exact congrArg some (if_pos hdue')

end List

/-- What is used of each event. -/
structure WebhookEvent.Tracked (env : Env) (ev : WebhookEvent) : Prop where
  legal : ev.Legal (WebhookStmt.exec env)
  pre : ev.pre.Listing
  listed : ev.stmt.Listed ev.pre
  current : ev.current

section Resend

variable {env : Env} {sent listing again marked : WebhookEvent} {t₂ t₃ t₄ : List WebhookEvent}
variable {last : WebhookWorld} {n m : Nat} {d : WebhookDelivery}
variable (hfirst : Chain sent.post t₂ listing.pre)
variable (hrest : Chain listing.post (t₃ ++ again :: t₄) last)
variable (hall : ∀ ev ∈ sent :: (t₂ ++ listing :: (t₃ ++ again :: t₄)), ev.Tracked env)

include hfirst hall in
/-- The pass that has sent is an earlier one than the pass that lists. -/
theorem sent_before_listing (hsent : sent.stmt = .send n d) : n < listing.pre.passes := by
  have htracked := hall sent mem_cons_self
  have hlisted := htracked.listed
  rw [hsent] at hlisted
  have hn : n < sent.pre.passes := htracked.pre.listed _ hlisted
  refine (hfirst.keeps (I := fun w : WebhookWorld => n < w.passes) (fun ev hev hpre => ?_) ?_).1
  · exact lt_of_lt_of_le hpre (passes_step (hall ev (by simp [hev])).legal)
  · exact lt_of_lt_of_le hn (passes_step htracked.legal)

include hrest hall in
theorem listed_of_again {d' : WebhookDelivery} (hagain : again.stmt = .send m d')
    (hm : m < listing.post.passes) : (m, d'.id) ∈ listing.post.listed := by
  by_contra hnot
  have htracked := hall again (by simp)
  have hlisted := htracked.listed
  rw [hagain] at hlisted
  obtain ⟨mid, hmid, htail⟩ := hrest.split
  obtain rfl : mid = again.pre := by
    cases htail
    rfl
  have hkept := (hmid.keeps (I := fun w : WebhookWorld => (m, d'.id) ∉ w.listed ∧ m < w.passes)
    (fun ev hev hpre => not_listed_step (hall ev (by simp [hev])).legal hpre) ⟨hnot, hm⟩).1
  exact hkept.1 hlisted

include hfirst hall in
/-- A mark before the list: the delivery is `DELIVERED` then, unless it was asked for again. -/
theorem redelivered_between (hmarked : marked ∈ t₂) {id : Nat}
    (hdone : ∃ row, marked.post.delivery id = some row ∧ row.status = .delivered)
    (hpending : ∃ row, listing.pre.delivery id = some row ∧ row.status = .pending) :
    ∃ ev ∈ t₂, ∃ sub, ev.stmt = .redeliver sub id := by
  by_contra hnone
  push Not at hnone
  obtain ⟨later, hlater, hsub⟩ := hfirst.after_mem hmarked
  obtain ⟨⟨row, hrow, hstatus⟩, -⟩ := hlater.keeps
    (I := fun w : WebhookWorld => ∃ row, w.delivery id = some row ∧ row.status = .delivered)
    (fun ev hev ⟨row, hrow, hstatus⟩ => by
      have htracked := hall ev (by simp [hsub ev hev])
      rcases delivered_step htracked.legal htracked.pre htracked.current hrow hstatus with
        hsame | ⟨sub, hstmt⟩
      · exact ⟨row, hsame, hstatus⟩
      · exact absurd hstmt (hnone ev (hsub ev hev) sub)) hdone
  obtain ⟨row', hrow', hstatus'⟩ := hpending
  cases hrow.symm.trans hrow'
  cases hstatus.symm.trans hstatus'

include hrest hall in
/-- No mark comes after the list: the delivery has gone to another pass. -/
theorem not_marked_after (hmarked : marked ∈ t₃ ++ again :: t₄) {id : Nat}
    (hn : n < listing.post.passes)
    (hother : ∃ row, listing.post.delivery id = some row ∧ row.listedBy ≠ some n) :
    marked.stmt ≠ .markDelivered n id := by
  intro hmark
  have hmem : ∀ ev ∈ t₃ ++ again :: t₄, ev.Tracked env :=
    fun ev hev => hall ev (by simp only [mem_cons, mem_append] at hev ⊢; tauto)
  obtain ⟨earlier, hearlier, hsub⟩ := hrest.before_mem hmarked
  obtain ⟨⟨-, row, hrow, hlistedBy⟩, -⟩ := hearlier.keeps
    (I := fun w : WebhookWorld => n < w.passes ∧ ∃ row, w.delivery id = some row ∧
      row.listedBy ≠ some n)
    (fun ev hev hpre => listedBy_step (hmem ev (hsub ev hev)).legal (hmem ev (hsub ev hev)).pre hpre)
    ⟨hn, hother⟩
  have hcurrent := (hmem marked hmarked).current
  simp only [WebhookEvent.current, hmark, hrow, all_some, decide_eq_true_eq] at hcurrent
  exact hlistedBy hcurrent

end Resend

/-- **Runs in which a delivery is marked only by the pass that listed it last.**  A delivery
that is `DELIVERED` stays so until an operator's redelivery; and after the send that made
it so, no pass that lists later sends it again before one. -/
theorem delivered_once (env : Env) (as : List WebhookAction) (w : WebhookWorld) (hw : w.Listing)
    (hcurrent : ∀ ev ∈ webhookTrace env as w, ev.current = true) :
    (∀ ev ∈ webhookTrace env as w, ∀ id d, ev.pre.delivery id = some d → d.status = .delivered →
      ev.post.delivery id = some d ∨ ∃ sub, ev.stmt = .redeliver sub id) ∧
    ∀ t₁ sent t₂ listing t₃ again t₄ n d m d' limit ds marked,
      webhookTrace env as w = t₁ ++ sent :: (t₂ ++ listing :: (t₃ ++ again :: t₄)) →
      sent.stmt = .send n d →
      marked ∈ t₂ ++ listing :: (t₃ ++ again :: t₄) → marked.stmt = .markDelivered n d.id →
      (∃ row, marked.post.delivery d.id = some row ∧ row.status = .delivered) →
      (∃ pre post, listing = ⟨.dueDeliveries limit, some (m, ds), pre, post⟩) →
      again.stmt = .send m d' → d'.id = d.id →
      ∃ ev ∈ t₂, ∃ sub, ev.stmt = .redeliver sub d.id := by
  have hevents : ∀ ev ∈ webhookTrace env as w, _ := run_listing hw
  refine ⟨?_, ?_⟩
  · intro ev hev id d hd hstatus
    obtain ⟨hlegal, hpre, -⟩ := hevents ev hev
    exact delivered_step hlegal hpre (hcurrent ev hev) hd hstatus
  · intro t₁ sent t₂ listing t₃ again t₄ n d m d' limit ds marked htrace hsent hmarked hmark hdone
      hlisting hagain hsame
    have hall : ∀ ev ∈ sent :: (t₂ ++ listing :: (t₃ ++ again :: t₄)), ev.Tracked env := by
      intro ev hev
      have hmem : ev ∈ webhookTrace env as w := htrace ▸ mem_append_right t₁ hev
      obtain ⟨hlegal, hpre, hlisted⟩ := hevents ev hmem
      exact ⟨hlegal, hpre, hlisted, hcurrent ev hmem⟩
    have hchain := run_chain (WebhookStmt.exec env) WebhookTask.prog as ⟨w, []⟩
    rw [show (Pool.run (WebhookStmt.exec env) WebhookTask.prog as ⟨w, []⟩).1 = _ from htrace]
      at hchain
    obtain ⟨_, -, hchain⟩ := hchain.split
    cases hchain with
    | cons hchain =>
    obtain ⟨_, hfirst, hchain⟩ := hchain.split
    cases hchain with
    | cons hrest =>
    have hn := sent_before_listing hfirst hall hsent
    have hlist := hall listing (by simp)
    obtain ⟨pre, post, rfl⟩ := hlisting
    have hpasses : m < post.passes := by
      obtain ⟨rfl, elapsed, rfl⟩ := listing_answer hlist.legal
      exact Nat.lt_succ_self _
    have hlisted := listed_of_again hrest hall hagain hpasses
    rw [hsame] at hlisted
    obtain ⟨row, hrow, hpending, row', hrow', hlistedBy⟩ := listed_row hlist.legal hlist.pre hlisted
    rcases mem_append.mp hmarked with hin | hin
    · exact redelivered_between hfirst hall hin hdone ⟨row, hrow, hpending⟩
    · rcases mem_cons.mp hin with rfl | hin
      · cases hmark
      · refine absurd hmark (not_marked_after hrest hall hin ?_ ⟨row', hrow', fun heq => ?_⟩)
        · exact lt_of_lt_of_le hn (passes_step hlist.legal)
        · have hsame : m = n := Option.some.inj (hlistedBy.symm.trans heq)
          obtain ⟨rfl, -⟩ := listing_answer hlist.legal
          exact lt_irrefl _ (hsame ▸ hn)

/-! ### Runs -/

def hub : Subscription where
  id := "s1"
  eventTypes := ["JOB_COMPLETED"]

def noNames : Env where
  accountCustomer _ := none
  deviceCustomer _ := none
  ouiSerial _ := none

/-- One delivery that is due. -/
def oneDue : WebhookWorld where
  subscriptions := [hub]
  deliveries := [{
    id := 0
    subscriptionID := "s1"
    eventType := "JOB_COMPLETED"
    payload := .jobCompleted ⟨"JOB_COMPLETED", "o1", "acc-1", "suspend", "k1", "SUCCESS", none, none, none⟩
    createdAt := 0 }]
  nextID := 1

/-- What a run sends: the pass and the delivery. -/
def sends (as : List WebhookAction) : List (Nat × Nat) :=
  (webhookTrace noNames as oneDue).filterMap fun ev =>
    match ev.stmt with
    | .send pass d => some (pass, d.id)
    | _ => none

/-- One pass after the other. -/
def oneByOne : List WebhookAction :=
  [.atomic .deliver fun _ => {}, .atomic .deliver fun _ => { elapsed := minutes 10 }]

/-- Two instances list the same delivery.  The first makes it; the second fails, and says so
after the first has recorded its success.  A pass after the backoff sends it again. -/
def bothListed : List WebhookAction :=
  [.spawn .deliver, .spawn .deliver, .step 0 {}, .step 1 {}, .step 0 {}, .step 0 {},
    .step 1 { answered := .error "request failed: could not reach the receiver" }, .step 1 {},
    .atomic .deliver fun _ => { elapsed := minutes 10 }]

/-- The delivery is sent once. -/
theorem delivered_once_oneByOne :
    sends oneByOne = [(0, 0)] ∧
    ∀ ev ∈ webhookTrace noNames oneByOne oneDue, ∀ id d, ev.pre.delivery id = some d →
      d.status = .delivered → ev.post.delivery id = some d ∨ ∃ sub, ev.stmt = .redeliver sub id :=
  ⟨by decide +kernel, (delivered_once noNames oneByOne oneDue
    ⟨by decide, by decide, by decide, by decide, by decide⟩ (by decide +kernel)).1⟩

/-- A delivery that was `DELIVERED` is `PENDING` again and sent by a pass that lists after it
was made, though nobody has asked for it. -/
theorem delivered_twice :
    (webhookTrace noNames bothListed oneDue).map (fun ev => (ev.post.delivery 0).map (·.status)) =
      [some .pending, some .pending, some .pending, some .delivered, some .delivered, some .pending,
        some .pending, some .pending, some .delivered] ∧
    sends bothListed = [(0, 0), (1, 0), (2, 0)] := by
  decide +kernel

end Acs.Bss
