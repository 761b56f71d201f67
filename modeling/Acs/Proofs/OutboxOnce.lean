/-
An order makes one job.

The row of an order keeps what the order asks for, so every attempt, of whichever instance,
sends the same device and the same key.  Jobs are unique by device and key; an attempt that
finds the key taken gets the command key of the job that has it.  So whatever an attempt
records as the command key of an order is that of the one job with the order's key, and the
UPDATEs that record it touch no order that is no longer pending.
-/
import Acs.Bss.Outbox

namespace Acs.Bss

open List OutboxStmt OutboxWorld

/-! ### Keys -/

theorem orderKey_injective {a b : String} (h : orderKey a = orderKey b) : a = b :=
  (String.append_right_inj _).mp ((String.append_left_inj _).mp h)

theorem trimSpace_orderKey (id : String) : Text.trimSpace (orderKey id) ≠ "" := by
  refine Text.trimSpace_ne_empty (c := 'b') ?_ (by decide)
  rw [orderKey, String.toList_append, String.toList_append]
  exact mem_append_left _ (mem_append_left _ (by decide))

/-! ### What an order asks for -/

/-- What an order asks for. -/
structure OrderIntent where
  (externalOrderID accountID action deviceID : String)
  parameters : List ParameterWrite

def OrderRecord.intent (o : OrderRecord) : OrderIntent :=
  ⟨o.externalOrderID, o.accountID, o.action, o.deviceID, o.parameters⟩

def OutboxWorld.intents (w : OutboxWorld) : List OrderIntent :=
  w.orders.map (·.intent)

/-- The request every attempt makes. -/
def OrderIntent.request (i : OrderIntent) : SetParametersRequest :=
  ⟨i.deviceID, i.parameters, orderKey i.externalOrderID⟩

def KeyedJob.For (j : KeyedJob) (r : SetParametersRequest) : Prop :=
  j.deviceID = r.deviceID ∧ j.idempotencyKey = some r.idempotencyKey

/-- There is a job for the request, with that command key. -/
def OutboxWorld.Made (w : OutboxWorld) (r : SetParametersRequest) (commandKey : String) : Prop :=
  ∃ j ∈ w.jobs, j.For r ∧ j.commandKey = commandKey

/-- The invariant of all runs. -/
structure OutboxWorld.Sound (w : OutboxWorld) : Prop where
  ids : (w.orders.map (·.externalOrderID)).Nodup
  keys : (w.jobs.map fun j => (j.deviceID, j.idempotencyKey)).Nodup
  requests : ∀ r ∈ w.requests, ∃ i ∈ w.intents, r = i.request
  jobs : ∀ j ∈ w.jobs, ∃ i ∈ w.intents, j.For i.request
  replies : ∀ n commandKey, (n, .ok commandKey) ∈ w.replies →
    ∃ r, w.requests[n]? = some r ∧ w.Made r commandKey
  dispatched : ∀ o ∈ w.orders, o.status = .dispatched → w.Made o.intent.request o.commandKey

/-- What is kept: what orders ask for, the requests with their numbers, and the jobs. -/
structure OutboxWorld.Extends (w w' : OutboxWorld) : Prop where
  intents : ∀ i ∈ w.intents, i ∈ w'.intents
  requests : ∀ (n : Nat) r, w.requests[n]? = some r → w'.requests[n]? = some r
  jobs : ∀ j ∈ w.jobs, j ∈ w'.jobs

theorem OutboxWorld.Extends.refl (w : OutboxWorld) : w.Extends w :=
  ⟨fun _ h => h, fun _ _ h => h, fun _ h => h⟩

theorem OutboxWorld.Extends.trans {a b c : OutboxWorld} (h : a.Extends b) (h' : b.Extends c) :
    a.Extends c :=
  ⟨fun i hi => h'.intents i (h.intents i hi), fun n r hr => h'.requests n r (h.requests n r hr),
    fun j hj => h'.jobs j (h.jobs j hj)⟩

variable {w : OutboxWorld}

theorem OutboxWorld.Made.mono {w' : OutboxWorld} (h : w.Extends w') {r : SetParametersRequest}
    {commandKey : String} (hmade : w.Made r commandKey) : w'.Made r commandKey := by
  obtain ⟨j, hj, hfor⟩ := hmade
  exact ⟨j, h.jobs j hj, hfor⟩

theorem OutboxWorld.Sound.intent_eq (hw : w.Sound) {i i' : OrderIntent} (hi : i ∈ w.intents)
    (hi' : i' ∈ w.intents) (h : i.externalOrderID = i'.externalOrderID) :
    i = i' := by
  obtain ⟨o, ho, rfl⟩ := mem_map.mp hi
  obtain ⟨o', ho', rfl⟩ := mem_map.mp hi'
  rw [inj_on_of_nodup_map hw.ids ho ho' h]

/-! ### Rows of orders -/

/-- What an UPDATE does to a row: an order that is not pending stays as it is, and a pending
one becomes `DISPATCHED` only with a command key that is `made`. -/
structure OrderRecord.Becomes (made : String → Prop) (o o' : OrderRecord) : Prop where
  intent : o'.intent = o.intent
  settled : o.status ≠ .pendingDispatch → o'.status = o.status ∧ o'.commandKey = o.commandKey
  dispatched : o.status = .pendingDispatch → o'.status = .dispatched → made o'.commandKey

namespace OrderRecord.Becomes

variable {made : String → Prop} {o : OrderRecord}

theorem refl (o : OrderRecord) : o.Becomes made o :=
  ⟨rfl, fun _ => ⟨rfl, rfl⟩, fun hpending hstatus => by rw [hpending] at hstatus; cases hstatus⟩

theorem ite {p : Prop} [Decidable p] {o' : OrderRecord} (h : p → o.Becomes made o') :
    o.Becomes made (if p then o' else o) := by
  split
  next hp => exact h hp
  next => exact refl o

theorem markDispatched {now : Time} {commandKey : String} (hmade : made commandKey) :
    o.Becomes made (if o.status = .pendingDispatch then
      { o with status := .dispatched, commandKey, lastAttemptAt := some now } else o) :=
  ite fun hpending => ⟨rfl, fun h => absurd hpending h, fun _ _ => hmade⟩

/-- A failed attempt leaves an order pending, or makes it `DEAD_LETTERED`. -/
theorem markDispatchFailed {now : Time} {errMsg : String} :
    o.Becomes made (if o.status = .pendingDispatch then
      { o with
        attempts := o.attempts + 1
        lastAttemptAt := some now
        lastError := errMsg
        status := if o.attempts + 1 ≥ maxDispatchAttempts then .deadLettered else o.status }
      else o) := by
  refine ite fun hpending => ⟨rfl, fun h => absurd hpending h, fun _ hstatus => ?_⟩
  rw [hpending] at hstatus
  split at hstatus <;> cases hstatus

theorem of_same {o' : OrderRecord} (hintent : o'.intent = o.intent) (hstatus : o'.status = o.status)
    (hkey : o'.commandKey = o.commandKey) : o.Becomes made o' :=
  ⟨hintent, fun _ => ⟨hstatus, hkey⟩, fun hpending h => by
    rw [hstatus, hpending] at h
    cases h⟩

end OrderRecord.Becomes

/-- What a statement does to the table: it adds a pending order, or updates rows. -/
def OutboxWorld.OrdersStep (w : OutboxWorld) (orders : OrderTable) : Prop :=
  (∃ o, orders = w.orders ++ [o] ∧ o.status = .pendingDispatch ∧
    ∀ o' ∈ w.orders, o'.externalOrderID ≠ o.externalOrderID) ∨
  ∃ f, orders = w.orders.map f ∧
    ∀ o ∈ w.orders, o.Becomes (w.Made o.intent.request) (f o)

theorem OutboxWorld.OrdersStep.refl (w : OutboxWorld) : w.OrdersStep w.orders :=
  .inr ⟨id, (map_id _).symm, fun o _ => .refl o⟩

theorem OutboxWorld.OrdersStep.sound (hw : w.Sound) {orders : OrderTable} (h : w.OrdersStep orders) :
    ({ w with orders } : OutboxWorld).Sound ∧ w.Extends { w with orders } := by
  -- In both cases what orders ask for is kept.
  have hext : w.Extends { w with orders } := by
    refine ⟨fun i hi => ?_, fun _ _ h => h, fun _ h => h⟩
    obtain ⟨o, ho, rfl⟩ := mem_map.mp hi
    rcases h with ⟨new, rfl, -⟩ | ⟨f, rfl, hf⟩
    · exact mem_map_of_mem (mem_append_left _ ho)
    · exact mem_map.mpr ⟨f o, mem_map_of_mem ho, (hf o ho).intent⟩
  refine ⟨⟨?_, hw.keys, fun r hr => ?_, fun j hj => ?_, hw.replies, fun o ho hstatus => ?_⟩, hext⟩
  · rcases h with ⟨new, rfl, -, hnew⟩ | ⟨f, rfl, hf⟩
    · exact Keyed.nodup_append hw.ids hnew
    · have hids : (w.orders.map f).map (·.externalOrderID) = w.orders.map (·.externalOrderID) := by
        rw [map_map]
        exact map_congr_left fun o ho => congrArg OrderIntent.externalOrderID (hf o ho).intent
      exact hids ▸ hw.ids
  · obtain ⟨i, hi, heq⟩ := hw.requests r hr
    exact ⟨i, hext.intents i hi, heq⟩
  · obtain ⟨i, hi, hfor⟩ := hw.jobs j hj
    exact ⟨i, hext.intents i hi, hfor⟩
  · rcases h with ⟨new, rfl, hpending, -⟩ | ⟨f, rfl, hf⟩
    · rcases mem_append.mp ho with ho | ho
      · exact hw.dispatched o ho hstatus
      · rw [mem_singleton.mp ho, hpending] at hstatus
        cases hstatus
    · obtain ⟨o₀, ho₀, rfl⟩ := mem_map.mp ho
      have hstep := hf o₀ ho₀
      rw [hstep.intent]
      by_cases hpending : o₀.status = .pendingDispatch
      · exact hstep.dispatched hpending hstatus
      · obtain ⟨hsame, hkey⟩ := hstep.settled hpending
        rw [hkey]
        exact hw.dispatched o₀ ho₀ (hsame.symm.trans hstatus)

section Statements

variable {w : OutboxWorld}

theorem markDispatchFailed_step (id errMsg : String) :
    w.OrdersStep (w.orders.markDispatchFailed w.now id errMsg) :=
  .inr ⟨_, rfl, fun _ _ => .ite fun _ => .markDispatchFailed⟩

theorem stampClaimed_step (ids : List String) :
    w.OrdersStep (w.orders.stampClaimed w.now ids) :=
  .inr ⟨_, rfl, fun _ _ => .ite fun _ => .of_same rfl rfl rfl⟩

theorem markOrderNotified_step (id : String) :
    w.OrdersStep (w.orders.markOrderNotified w.now id) :=
  .inr ⟨_, rfl, fun _ _ => .ite fun _ => .of_same rfl rfl rfl⟩

variable (hw : w.Sound)

include hw

/-! ### Requests and jobs -/

theorem OutboxWorld.Sound.send {r : SetParametersRequest} (hr : ∃ i ∈ w.intents, r = i.request) :
    ({ w with requests := w.requests ++ [r] } : OutboxWorld).Sound ∧
      w.Extends { w with requests := w.requests ++ [r] } := by
  have hkept : ∀ (n : Nat) r', w.requests[n]? = some r' → (w.requests ++ [r])[n]? = some r' := by
    intro n r' hn
    rw [getElem?_append_left (List.getElem?_eq_some_iff.mp hn).1]
    exact hn
  refine ⟨⟨hw.ids, hw.keys, fun r' hr' => ?_, hw.jobs, fun n commandKey hin => ?_, hw.dispatched⟩,
    fun _ h => h, hkept, fun _ h => h⟩
  · rcases mem_append.mp hr' with hr' | hr'
    · exact hw.requests r' hr'
    · exact mem_singleton.mp hr' ▸ hr
  · obtain ⟨r', hn, hmade⟩ := hw.replies n commandKey hin
    exact ⟨r', hkept n r' hn, hmade⟩

theorem OutboxWorld.Sound.reply {n : Nat} {r : Except Nat String}
    (hr : ∀ commandKey, r = .ok commandKey →
      ∃ req, w.requests[n]? = some req ∧ w.Made req commandKey) :
    ({ w with replies := w.replies ++ [(n, r)] } : OutboxWorld).Sound ∧
      w.Extends { w with replies := w.replies ++ [(n, r)] } := by
  refine ⟨⟨hw.ids, hw.keys, hw.requests, hw.jobs, fun m commandKey hin => ?_, hw.dispatched⟩,
    fun _ h => h, fun _ _ h => h, fun _ h => h⟩
  rcases mem_append.mp hin with hin | hin
  · exact hw.replies m commandKey hin
  · obtain ⟨rfl, heq⟩ := Prod.mk.inj (mem_singleton.mp hin)
    exact hr commandKey heq.symm

theorem OutboxWorld.Sound.insertJob {j : KeyedJob} (hj : ∃ i ∈ w.intents, j.For i.request)
    {returned : Option String} {w' : OutboxWorld} (h : w.insertJob j = some (returned, w')) :
    w'.orders = w.orders ∧ w'.Sound ∧ w.Extends w' ∧ (∀ commandKey, returned = some commandKey →
      ∃ j' ∈ w'.jobs, j'.deviceID = j.deviceID ∧ j'.idempotencyKey = j.idempotencyKey ∧
        j'.commandKey = commandKey) := by
  obtain ⟨-, h⟩ := Option.ite_none_left_eq_some.mp h
  split at h
  · cases h
    exact ⟨rfl, hw, .refl w, nofun⟩
  next hfree =>
    cases h
    obtain ⟨i, hi, hdevice, hkey⟩ := hj
    have hext : w.Extends { w with jobs := w.jobs ++ [j] } :=
      ⟨fun _ h => h, fun _ _ h => h, fun j' hj' => mem_append_left _ hj'⟩
    refine ⟨rfl, ⟨hw.ids, ?_, hw.requests, ?_, fun n commandKey hin => ?_, fun o ho hstatus => ?_⟩,
      hext, ?_⟩
    · refine Keyed.nodup_append hw.keys fun j' hj' heq => hfree ?_
      obtain ⟨hdevice', hkey'⟩ := Prod.mk.inj heq
      rw [hkey, Option.any_some, hasJob]
      exact any_eq_true.mpr ⟨j', hj', decide_eq_true ⟨hdevice', hkey'.trans hkey⟩⟩
    · intro j' hj'
      rcases mem_append.mp hj' with hj' | hj'
      · exact hw.jobs j' hj'
      · exact ⟨i, hi, mem_singleton.mp hj' ▸ ⟨hdevice, hkey⟩⟩
    · obtain ⟨r, hn, hmade⟩ := hw.replies n commandKey hin
      exact ⟨r, hn, hmade.mono hext⟩
    · exact (hw.dispatched o ho hstatus).mono hext
    · rintro commandKey ⟨⟩
      exact ⟨j, mem_append_right _ (mem_singleton.mpr rfl), rfl, rfl, rfl⟩

end Statements

/-! ### What programs know -/

/-- What answers tell. -/
def OutboxStmt.Tells (w : OutboxWorld) : (s : OutboxStmt) → s.Res → Prop
  | .insertPending id accountID action deviceID parameters, r =>
    (show Option Bool from r) = some true → ⟨id, accountID, action, deviceID, parameters⟩ ∈ w.intents
  | .send req, n => w.requests[(show Nat from n)]? = some req
  | .await n, r => ∀ commandKey, (show Except AcsError String from r) = .ok commandKey →
      ∃ req, w.requests[n]? = some req ∧ w.Made req commandKey
  | .claimDuePendingOrders _, r => ∀ os, (show Option (List OrderRecord) from r) = some os →
      ∀ o ∈ os, o.intent ∈ w.intents
  | .receive n, r => ∀ req, (show Option SetParametersRequest from r) = some req →
      w.requests[n]? = some req ∧ ∃ i ∈ w.intents, req = i.request
  | .insertJob deviceID _ key _, r => ∀ commandKey,
      (show Option (Option String) from r) = some (some commandKey) →
      ∃ j ∈ w.jobs, j.deviceID = deviceID ∧ j.idempotencyKey = key ∧ j.commandKey = commandKey
  | .findByIdempotency deviceID key, r => ∀ j, (show Option KeyedJob from r) = some j →
      j ∈ w.jobs ∧ j.deviceID = deviceID ∧ j.idempotencyKey = some key
  | _, _ => True

/-- What statements rest on. -/
def OutboxStmt.Rests (w : OutboxWorld) : OutboxStmt → Prop
  | .send r => ∃ i ∈ w.intents, r = i.request
  | .markDispatched id commandKey =>
    ∃ i ∈ w.intents, i.externalOrderID = id ∧ w.Made i.request commandKey
  | .insertJob deviceID _ key _ =>
    ∃ i ∈ w.intents, deviceID = i.deviceID ∧ key = some (orderKey i.externalOrderID)
  | .reply n r => ∀ commandKey, r = .ok commandKey →
      ∃ req, w.requests[n]? = some req ∧ w.Made req commandKey
  | _ => True

theorem OutboxStmt.Tells.mono {w' : OutboxWorld} (h : w.Extends w') {s : OutboxStmt} {r : s.Res}
    (hr : s.Tells w r) : s.Tells w' r := by
  cases s with
  | insertPending id accountID action deviceID parameters => exact fun heq => h.intents _ (hr heq)
  | send req => exact h.requests _ _ hr
  | await n =>
    intro commandKey heq
    obtain ⟨req, hn, hmade⟩ := hr commandKey heq
    exact ⟨req, h.requests _ _ hn, hmade.mono h⟩
  | claimDuePendingOrders limit => exact fun os heq o ho => h.intents _ (hr os heq o ho)
  | receive n =>
    intro req heq
    obtain ⟨hn, i, hi, hreq⟩ := hr req heq
    exact ⟨h.requests _ _ hn, i, h.intents i hi, hreq⟩
  | insertJob deviceID payload key hash =>
    intro commandKey heq
    obtain ⟨j, hj, hjob⟩ := hr commandKey heq
    exact ⟨j, h.jobs j hj, hjob⟩
  | findByIdempotency deviceID key =>
    intro j heq
    obtain ⟨hj, hjob⟩ := hr j heq
    exact ⟨h.jobs j hj, hjob⟩
  | _ => trivial

/-- What a statement does: it touches orders as an UPDATE or an insert, or it does not touch
them, and keeps what has been said. -/
theorem sound_execNow (hw : w.Sound) (s : OutboxStmt) (ch : OutboxChoice) (hs : s.Rests w) :
    s.Tells (s.execNow w ch).2 (s.execNow w ch).1 ∧ w.OrdersStep (s.execNow w ch).2.orders ∧
      (s.execNow w ch).2.Sound ∧ w.Extends (s.execNow w ch).2 := by
  have horders : ∀ {α : Type} (answer : α) (orders : OrderTable), w.OrdersStep orders →
      w.OrdersStep (ch.delivery.deliver answer w { w with orders }).2.orders ∧
      (ch.delivery.deliver answer w { w with orders }).2.Sound ∧
        w.Extends (ch.delivery.deliver answer w { w with orders }).2 := by
    intro α answer orders hstep
    refine ch.delivery.deliver_keeps (I := fun w' => w.OrdersStep w'.orders ∧ w'.Sound ∧ w.Extends w')
      ⟨.refl w, hw, .refl w⟩ ⟨hstep, hstep.sound hw⟩
  have hsame : w.OrdersStep w.orders ∧ w.Sound ∧ w.Extends w := ⟨.refl w, hw, .refl w⟩
  cases s with
  | findOrder id => exact ⟨trivial, horders _ _ (.refl w)⟩
  | insertPending id accountID action deviceID parameters =>
    cases hinsert : w.orders.insertPending w.now id accountID action deviceID parameters with
    | none =>
      rw [execNow, hinsert]
      refine ⟨fun htrue => ?_, horders _ _ (.refl w)⟩
      cases (ch.delivery.deliver_answer _ _ _ htrue).1
    | some orders =>
      rw [execNow, hinsert]
      obtain ⟨hnew, hinsert⟩ := Option.ite_none_left_eq_some.mp hinsert
      cases hinsert
      refine ⟨fun htrue => ?_, horders _ _ (.inl ⟨_, rfl, rfl, fun o ho heq => hnew ?_⟩)⟩
      · rw [(ch.delivery.deliver_answer _ _ _ htrue).2]
        exact mem_map.mpr ⟨_, mem_append_right _ (mem_singleton.mpr rfl), rfl⟩
      · exact find?_isSome.mpr ⟨o, ho, by simpa using heq⟩
  | send req =>
    refine ⟨?_, .refl w, hw.send hs⟩
    show (w.requests ++ [req])[w.requests.length]? = some req
    rw [getElem?_append_right (Nat.le_refl _), Nat.sub_self]
    rfl
  | await n =>
    rw [execNow]
    split
    next e _ => exact ⟨nofun, hsame⟩
    next => exact ⟨nofun, hsame⟩
    next => exact ⟨nofun, hsame⟩
    next commandKey _ hreply =>
      refine ⟨?_, hsame⟩
      rintro _ ⟨⟩
      obtain ⟨x, hx, heq⟩ := Option.map_eq_some_iff.mp hreply
      have hn : x.1 = n := by simpa using find?_some hx
      have hin : (n, .ok commandKey) ∈ w.replies := by
        rw [← hn, ← heq]
        exact mem_of_find?_eq_some hx
      exact hw.replies n commandKey hin
  | markDispatched id commandKey =>
    obtain ⟨i, hi, hid, hmade⟩ := hs
    refine ⟨trivial, horders _ _ (.inr ⟨_, rfl, fun o ho => .ite fun hsame => .markDispatched ?_⟩)⟩
    have heq : o.intent = i := hw.intent_eq (mem_map_of_mem ho) hi (hsame.trans hid.symm)
    exact heq ▸ hmade
  | markDispatchFailed id errMsg => exact ⟨trivial, horders _ _ (markDispatchFailed_step id errMsg)⟩
  | claimDuePendingOrders limit =>
    have hstep : w.OrdersStep _ :=
      stampClaimed_step ((w.orders.dueOrders w.now limit).map (·.externalOrderID))
    refine ⟨fun os hanswer o ho => ?_, horders _ _ hstep⟩
    obtain ⟨rfl, hstate⟩ := ch.delivery.deliver_answer _ _ _ hanswer
    show o.intent ∈ intents (Delivery.deliver _ _ _ _).2
    rw [hstate]
    refine (hstep.sound hw).2.intents _ (mem_map_of_mem ?_)
    exact (mem_filter.mp (mem_of_mem_limitBy ho)).1
  | markOrderNotified id => exact ⟨trivial, horders _ _ (markOrderNotified_step id)⟩
  | receive n =>
    exact ⟨fun req heq => ⟨heq, hw.requests req (mem_of_getElem? heq)⟩, hsame⟩
  | check n => exact ⟨trivial, hsame⟩
  | insertJob deviceID payload key hash =>
    obtain ⟨i, hi, rfl, rfl⟩ := hs
    refine ⟨fun commandKey hanswer => ?_, ch.delivery.attempt_keeps
      (I := fun w' => w.OrdersStep w'.orders ∧ w'.Sound ∧ w.Extends w') hsame fun a after h => ?_⟩
    · obtain ⟨after, h, hstate⟩ := ch.delivery.attempt_answer hanswer
      obtain ⟨-, -, -, hjob⟩ := hw.insertJob ⟨i, hi, rfl, rfl⟩ h
      show ∃ j ∈ jobs (Delivery.attempt _ _ _).2, _
      rw [hstate]
      exact hjob commandKey rfl
    · obtain ⟨horders', hsound, hext, -⟩ := hw.insertJob ⟨i, hi, rfl, rfl⟩ h
      exact ⟨horders' ▸ .refl w, hsound, hext⟩
  | findByIdempotency deviceID key =>
    refine ⟨fun j hj => ?_, hsame⟩
    have hanswer := Option.join_eq_some_iff.mp hj
    have hfind := (ch.delivery.deliver_answer _ _ _ hanswer).1
    refine ⟨mem_of_find?_eq_some hfind.symm, ?_⟩
    simpa using find?_some hfind.symm
  | reply n r => exact ⟨trivial, .refl w, hw.reply hs⟩

theorem sound_later (hw : w.Sound) (n : Nat) : (w.later n).Sound :=
  ⟨hw.ids, hw.keys, hw.requests, hw.jobs, hw.replies, hw.dispatched⟩

/-! ### Programs -/

section Programs

variable {w : OutboxWorld}

theorem setParameters_all {i : OrderIntent} (hi : i ∈ w.intents) :
    (setParametersWithIdempotency i.deviceID i.parameters (orderKey i.externalOrderID)).All
      (Tells w) (Rests w)
      fun r => ∀ commandKey, r = .ok commandKey → w.Made i.request commandKey := by
  rw [setParametersWithIdempotency, if_pos (trimSpace_orderKey _)]
  refine ⟨⟨i, hi, rfl⟩, fun n hn => ⟨trivial, fun r hr commandKey heq => ?_⟩⟩
  obtain ⟨req, hreq, hmade⟩ := hr commandKey heq
  cases hn.symm.trans hreq
  exact hmade

theorem dispatchOrder_all (externalOrderID accountID action deviceID : String)
    (parameters : List ParameterWrite) :
    (dispatchOrder externalOrderID accountID action deviceID parameters).All
      (Tells w) (Rests w) fun _ => True := by
  refine ⟨trivial, fun r hr => ?_⟩
  match r, hr with
  | none, _ => trivial
  | some false, _ => trivial
  | some true, hr =>
    have hi := hr rfl
    refine (setParameters_all hi).bind fun r hmade => ?_
    cases r with
    | error e => exact ⟨trivial, fun _ _ => trivial⟩
    | ok commandKey => exact ⟨⟨_, hi, rfl, hmade commandKey rfl⟩, fun _ _ => trivial⟩

theorem redispatchOrder_all {o : OrderRecord} (ho : o.intent ∈ w.intents) :
    (redispatchOrder o).Issues (Tells w) (Rests w) := by
  refine (setParameters_all ho).bind fun r hmade => ?_
  cases r with
  | error e => exact ⟨trivial, fun _ _ => trivial⟩
  | ok commandKey => exact ⟨⟨_, ho, rfl, hmade commandKey rfl⟩, fun _ _ => trivial⟩

theorem reconcilePendingOrders_all :
    reconcilePendingOrders.Issues (Tells w) (Rests w) := by
  refine ⟨trivial, fun r hr => ?_⟩
  cases r with
  | none => trivial
  | some os => exact Prog.all_each fun o ho => redispatchOrder_all (hr os rfl o ho)

variable (sha256 : String → String)

/-- The API answers with the command key of a job for the request, new or not. -/
theorem createWithIdempotency_all {i : OrderIntent} (hi : i ∈ w.intents) (payload : String) :
    (createWithIdempotency sha256 i.request.deviceID payload i.request.idempotencyKey).All
      (Tells w) (Rests w)
      fun r => ∀ commandKey, r = .ok commandKey → w.Made i.request commandKey := by
  have hkey : Text.trimSpace i.request.idempotencyKey ≠ "" := trimSpace_orderKey i.externalOrderID
  rw [createWithIdempotency, if_neg hkey]
  refine ⟨⟨i, hi, rfl, rfl⟩, fun r hr => ?_⟩
  match r, hr with
  | none, _ => nofun
  | some (some commandKey), hr =>
    rintro _ ⟨⟩
    obtain ⟨j, hj, hdevice, hkey, hcommand⟩ := hr commandKey rfl
    exact ⟨j, hj, ⟨hdevice, hkey⟩, hcommand⟩
  | some none, _ =>
    refine ⟨trivial, fun r hr => ?_⟩
    cases r with
    | none => nofun
    | some existing =>
      show Prog.All _ _ _ (if existing.requestHash ≠ some (sha256 payload) then _ else _)
      split
      · nofun
      · rintro _ ⟨⟩
        obtain ⟨hj, hdevice, hkey⟩ := hr existing rfl
        exact ⟨existing, hj, ⟨hdevice, hkey⟩, rfl⟩

theorem putParameters_all (n : Nat) :
    (putParameters sha256 n).Issues (Tells w) (Rests w) := by
  refine ⟨trivial, fun r hr => ?_⟩
  cases r with
  | none => trivial
  | some req =>
    obtain ⟨hn, i, hi, rfl⟩ := hr req rfl
    refine ⟨trivial, fun checked _ => ?_⟩
    cases checked with
    | error code => exact ⟨nofun, fun _ _ => trivial⟩
    | ok payload =>
      refine (createWithIdempotency_all sha256 hi payload).bind fun r hmade => ?_
      exact ⟨fun commandKey heq => ⟨_, hn, hmade commandKey heq⟩, fun _ _ => trivial⟩

theorem outboxTask_all (t : OutboxTask) :
    (t.prog sha256).Issues (Tells w) (Rests w) := by
  cases t with
  | dispatch id accountID action deviceID parameters =>
    exact (dispatchOrder_all id accountID action deviceID parameters).bind fun _ _ => trivial
  | reconcile => exact reconcilePendingOrders_all
  | serve n => exact putParameters_all sha256 n
  | notified id => exact ⟨trivial, fun _ _ => trivial⟩

end Programs

/-! ### Every run -/

theorem run_sound {sha256 : String → String} {as : List OutboxAction} (hw : w.Sound) :
    ∀ ev ∈ outboxTrace sha256 as w,
      (∃ elapsed, (ev.pre.later elapsed).OrdersStep ev.post.orders) ∧ ev.pre.Sound ∧
        ev.post.Sound := by
  have hexec : ∀ (s : OutboxStmt) (ch : OutboxChoice) {w : OutboxWorld}, s.Rests w → w.Sound →
      s.Tells (s.exec ch w).2 (s.exec ch w).1 ∧
        (w.later ch.elapsed).OrdersStep (s.exec ch w).2.orders ∧ (s.exec ch w).2.Sound ∧
        w.Extends (s.exec ch w).2 := by
    intro s ch w hs hw
    obtain ⟨htells, hstep, hsound, hext⟩ :=
      sound_execNow (sound_later hw ch.elapsed) s ch (by cases s <;> exact hs)
    exact ⟨htells, hstep, hsound, hext.intents, hext.requests, hext.jobs⟩
  intro ev hev
  obtain ⟨_, hgrown⟩ := Pool.run_growing (R := Tells) (W := fun _ w s => s.Rests w)
    (G := fun _ => True) Extends.refl (fun _ _ _ => .trans)
    (fun _ _ _ _ hab hr => hr.mono hab)
    (fun _ s ch w' _ hstmt hpre => (hexec s ch hstmt hpre).imp_right (·.2)) hw
    (fun t _ w => outboxTask_all sha256 t) (fun _ _ => trivial) ev hev
  obtain ⟨s, ch, w', rfl⟩ := hgrown.legal.eq_fire
  exact ⟨⟨ch.elapsed, (hexec s ch hgrown.stmt hgrown.pre).2.1⟩, hgrown.pre, hgrown.post⟩

theorem OutboxWorld.Sound.one_job (hw : w.Sound) (id : String) :
    (w.jobs.filter (·.idempotencyKey = some (orderKey id))).length ≤ 1 := by
  -- All jobs with the key are for the device of the order.
  have hnodup : ((w.jobs.filter (·.idempotencyKey = some (orderKey id))).map
      fun j => (j.deviceID, j.idempotencyKey)).Nodup :=
    hw.keys.sublist (filter_sublist.map _)
  refine Keyed.length_le_one hnodup fun j hj j' hj' => ?_
  obtain ⟨hjobs, hkey⟩ := mem_filter.mp hj
  obtain ⟨hjobs', hkey'⟩ := mem_filter.mp hj'
  obtain ⟨i, hi, hdevice, hk⟩ := hw.jobs j hjobs
  obtain ⟨i', hi', hdevice', hk'⟩ := hw.jobs j' hjobs'
  have hid : i.externalOrderID = id :=
    orderKey_injective (Option.some.inj (hk.symm.trans (of_decide_eq_true hkey)))
  have hid' : i'.externalOrderID = id :=
    orderKey_injective (Option.some.inj (hk'.symm.trans (of_decide_eq_true hkey')))
  have heq := hw.intent_eq hi hi' (hid.trans hid'.symm)
  rw [hdevice, hdevice', hk, hk', heq]

theorem OutboxWorld.OrdersStep.settled {orders : OrderTable} (h : w.OrdersStep orders)
    (hids : (orders.map (·.externalOrderID)).Nodup) {id : String} {o : OrderRecord}
    (ho : w.orders.findOrder id = some o) (hstatus : o.status ≠ .pendingDispatch) :
    ∃ o', orders.findOrder id = some o' ∧ o'.status = o.status ∧ o'.commandKey = o.commandKey := by
  rcases h with ⟨new, rfl, -, hnew⟩ | ⟨f, rfl, hf⟩
  · refine ⟨o, ?_, rfl, rfl⟩
    rw [OrderTable.findOrder, find?_append, show w.orders.find? _ = _ from ho]
    rfl
  · have hmem : o ∈ w.orders := mem_of_find?_eq_some ho
    have hfound : o.externalOrderID = id := by simpa using find?_some ho
    have hid : (f o).externalOrderID = id :=
      (congrArg OrderIntent.externalOrderID (hf o hmem).intent).trans hfound
    refine ⟨f o, ?_, (hf o hmem).settled hstatus⟩
    rw [OrderTable.findOrder, ← hid]
    exact Keyed.find_of_mem hids (mem_map_of_mem hmem)

/-- **One job for each order.**  Whatever the instances and the API do, in whatever order and
wherever they stop: at most one job has the key of an order, an order that is `DISPATCHED` has
the command key of that job, and `DISPATCHED` and `DEAD_LETTERED` orders stay so. -/
theorem one_job_per_order (sha256 : String → String) (as : List OutboxAction) (w : OutboxWorld)
    (hw : w.Sound) : ∀ ev ∈ outboxTrace sha256 as w,
      (∀ j ∈ ev.post.jobs, ∃ o ∈ ev.post.orders,
        j.idempotencyKey = some (orderKey o.externalOrderID) ∧ j.deviceID = o.deviceID) ∧
      (∀ id, (ev.post.jobs.filter (·.idempotencyKey = some (orderKey id))).length ≤ 1) ∧
      (∀ o ∈ ev.post.orders, o.status = .dispatched → ∃ j ∈ ev.post.jobs,
        j.idempotencyKey = some (orderKey o.externalOrderID) ∧ j.deviceID = o.deviceID ∧
          j.commandKey = o.commandKey) ∧
      ∀ id o, ev.pre.orders.findOrder id = some o → o.status ≠ .pendingDispatch →
        ∃ o', ev.post.orders.findOrder id = some o' ∧ o'.status = o.status ∧
          o'.commandKey = o.commandKey := by
  intro ev hev
  obtain ⟨⟨elapsed, hstep⟩, -, hpost⟩ := run_sound hw ev hev
  refine ⟨fun j hj => ?_, hpost.one_job, fun o ho hstatus => ?_, fun id o ho hstatus => ?_⟩
  · obtain ⟨i, hi, hdevice, hkey⟩ := hpost.jobs j hj
    obtain ⟨o, ho, rfl⟩ := mem_map.mp hi
    exact ⟨o, ho, hkey, hdevice⟩
  · obtain ⟨j, hj, ⟨hdevice, hkey⟩, hcommand⟩ := hpost.dispatched o ho hstatus
    exact ⟨j, hj, hkey, hdevice, hcommand⟩
  · exact hstep.settled hpost.ids ho hstatus

/-- The adapter does not get the reply to its first request, though the job is made.  A later
pass asks again. -/
def askedTwice : List OutboxAction :=
  [.spawn (.dispatch "o1" "acc-1" "SUSPEND" "d1" []), .step 0 {}, .step 0 {},
    .atomic (.serve 0) fun _ => { commandKey := "k1" },
    .step 0 { failure := some (.unreachable "timeout") }, .step 0 {},
    .spawn .reconcile, .step 1 { elapsed := minutes 3 }, .step 1 {},
    .atomic (.serve 1) fun _ => { commandKey := "k2" }, .step 1 {}, .step 1 {}]

/-- The jobs, and the order, at the end of the run. -/
theorem one_job_per_order_askedTwice :
    (outboxTrace id askedTwice {}).getLast?.map
      (fun ev => (ev.post.jobs.map (·.commandKey),
        ev.post.orders.map fun o => (o.status, o.commandKey, o.attempts))) =
      some (["k1"], [(.dispatched, "k1", 1)]) ∧
    ∀ ev ∈ outboxTrace id askedTwice {},
      (∀ j ∈ ev.post.jobs, ∃ o ∈ ev.post.orders,
        j.idempotencyKey = some (orderKey o.externalOrderID) ∧ j.deviceID = o.deviceID) ∧
      (∀ id, (ev.post.jobs.filter (·.idempotencyKey = some (orderKey id))).length ≤ 1) ∧
      (∀ o ∈ ev.post.orders, o.status = .dispatched → ∃ j ∈ ev.post.jobs,
        j.idempotencyKey = some (orderKey o.externalOrderID) ∧ j.deviceID = o.deviceID ∧
          j.commandKey = o.commandKey) ∧
      ∀ id o, ev.pre.orders.findOrder id = some o → o.status ≠ .pendingDispatch →
        ∃ o', ev.post.orders.findOrder id = some o' ∧ o'.status = o.status ∧
          o'.commandKey = o.commandKey :=
  ⟨by decide +kernel, one_job_per_order id askedTwice {}
    ⟨by decide, by decide, nofun, nofun, nofun,
      nofun⟩⟩

end Acs.Bss
