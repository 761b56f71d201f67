/-
A Digest header is accepted once.

The entry of a nonce in a replay store refuses every use that is not newer than the
newest it has seen, and it stays until the nonce has expired.  Since a verification
compares the expiry of the nonce with a clock it has read before, an entry that is purged
in between is missed: the one thing a run must not do is let a purge that drops the entry of a
nonce overtake a verification of the nonce.
-/
import Acs.Auth.Digest

namespace Acs

open DigestStmt Option DigestWorld Assoc AList

/-! ### The table -/

namespace NonceTable

variable {t : NonceTable} {nonce k : String} {row : NonceRow} {n : UInt64}
  {expires now : Instant}

theorem row_checkAndRecord {row' : NonceRow}
    (h : (t.checkAndRecord nonce n expires).2.lookup k = some row') :
    (k = nonce ∧ row'.expiresAt = microseconds expires) ∨
      ∃ row, t.lookup k = some row ∧ row'.expiresAt = row.expiresAt := by
  unfold checkAndRecord at h
  split at h
  · rcases lookup_of_insert h with ⟨hk, rfl⟩ | ⟨-, h⟩
    · exact .inl ⟨hk, rfl⟩
    · exact .inr ⟨row', h, rfl⟩
  next row hrow =>
    split at h
    · rcases lookup_of_insert h with ⟨rfl, rfl⟩ | ⟨-, h⟩
      · exact .inr ⟨row, hrow, rfl⟩
      · exact .inr ⟨row', h, rfl⟩
    · exact .inr ⟨row', h, rfl⟩

/-- No row is lost, and no nonce count goes back. -/
theorem kept_checkAndRecord (h : t.lookup k = some row) :
    ∃ row', (t.checkAndRecord nonce n expires).2.lookup k = some row' ∧
      row.lastNC ≤ row'.lastNC := by
  unfold checkAndRecord
  split
  next hnone =>
    have hk : k ≠ nonce := by
      rintro rfl
      rw [hnone] at h
      cases h
    exact ⟨row, (lookup_insert_ne hk).trans h, Int64.le_refl _⟩
  next old hold =>
    split
    next hlt =>
      by_cases hk : k = nonce
      · subst hk
        rw [hold] at h
        cases h
        exact ⟨_, lookup_insert _, Int64.le_of_lt hlt⟩
      · exact ⟨row, (lookup_insert_ne hk).trans h, Int64.le_refl _⟩
    · exact ⟨row, h, Int64.le_refl _⟩

theorem accepted_checkAndRecord (h : (t.checkAndRecord nonce n expires).1) :
    (∀ row, t.lookup nonce = some row → row.lastNC < n.toInt64) ∧
      ∃ row, (t.checkAndRecord nonce n expires).2.lookup nonce = some row ∧
        row.lastNC = n.toInt64 := by
  unfold checkAndRecord at h ⊢
  split at h
  next hnone =>
    simp only [hnone]
    exact ⟨by simp, _, lookup_insert _, rfl⟩
  next row hrow =>
    split at h
    next hlt =>
      simp only [hrow, if_pos hlt]
      refine ⟨?_, _, lookup_insert _, rfl⟩
      rintro row' ⟨⟩
      exact hlt
    · cases h

theorem lookup_of_purge (h : (t.purge now).lookup k = some row) : t.lookup k = some row := by
  rw [purge, lookup_select, filter_eq_some_iff] at h
  exact h.1

theorem lookup_purge (h : t.lookup k = some row) :
    (t.purge now).lookup k = if row.expiresAt < microseconds now then none else some row := by
  rw [purge, lookup_select, h, filter_some]
  by_cases hlt : row.expiresAt < microseconds now
  · simp [hlt]
  · simp [hlt]

end NonceTable

/-! ### The cache -/

/-- The entry refuses this use. -/
def NonceState.Spent (st : NonceState) (qop : String) (n : UInt64) : Prop :=
  if qop = "" then st.used = true else n ≤ st.lastNC

namespace NonceState

variable {st : NonceState} {qop qop' : String} {n n' : UInt64}

theorem expires_record : (st.record qop n).2.expires = st.expires := by
  unfold record
  split_ifs <;> rfl

theorem used_record (h : st.used) : (st.record qop n).2.used := by
  unfold record
  split_ifs <;> exact h

theorem lastNC_le_record : st.lastNC ≤ (st.record qop n).2.lastNC := by
  unfold record
  split_ifs with _ _ hle
  · exact UInt64.le_refl _
  · exact UInt64.le_refl _
  · exact UInt64.le_refl _
  · exact UInt64.le_of_lt (UInt64.not_le.mp hle)

theorem Spent.record (h : st.Spent qop n) : (st.record qop' n').2.Spent qop n := by
  unfold Spent at h ⊢
  split_ifs at h ⊢
  · exact used_record h
  · exact UInt64.le_trans h lastNC_le_record

theorem accepted_record (h : (st.record qop n).1) :
    ¬ st.Spent qop n ∧ (st.record qop n).2.Spent qop n := by
  unfold record at h ⊢
  unfold Spent
  split_ifs at h ⊢ with hqop hused hle
  · exact ⟨hused, rfl⟩
  · exact ⟨hle, UInt64.le_refl n⟩

end NonceState

namespace NonceCache

variable {c : NonceCache} {nonce qop k : String} {st : NonceState} {n : UInt64}
  {expires now : Instant}

/-- An entry is the one it was, up to what it has recorded, or that of the nonce checked. -/
theorem entry_record {st' : NonceState}
    (h : (c.record nonce qop n expires).2.m.lookup k = some st') :
    (k = nonce ∧ st'.expires = expires) ∨
      ∃ st, c.m.lookup k = some st ∧ st'.expires = st.expires := by
  unfold record at h
  split at h
  · rcases lookup_of_insert h with ⟨rfl, rfl⟩ | ⟨-, h⟩
    · rw [NonceState.expires_record]
      cases c.m.lookup k with
      | none => exact .inl ⟨rfl, rfl⟩
      | some st => exact .inr ⟨st, rfl, rfl⟩
    · exact .inr ⟨st', h, rfl⟩
  · exact .inr ⟨st', h, rfl⟩

theorem kept_record {qop' : String} {n' : UInt64} (h : c.m.lookup k = some st)
    (hspent : st.Spent qop n) :
    ∃ st', (c.record nonce qop' n' expires).2.m.lookup k = some st' ∧ st'.Spent qop n := by
  unfold record
  split
  · show ∃ st', (c.m.insert nonce _).lookup k = some st' ∧ _
    rw [lookup_insert_if]
    split
    next hk =>
      subst hk
      rw [h]
      exact ⟨_, rfl, hspent.record⟩
    · exact ⟨st, h, hspent⟩
  · exact ⟨st, h, hspent⟩

theorem accepted_record (h : (c.record nonce qop n expires).1) :
    (∀ st, c.m.lookup nonce = some st → ¬ st.Spent qop n) ∧
      ∃ st, (c.record nonce qop n expires).2.m.lookup nonce = some st ∧ st.Spent qop n := by
  unfold record at h ⊢
  split at h
  next hroom =>
    rw [dif_pos hroom]
    obtain ⟨hnew, hspent⟩ := NonceState.accepted_record h
    refine ⟨?_, _, lookup_insert _, hspent⟩
    intro st hst
    rw [hst] at hnew
    exact hnew
  · cases h

theorem lookup_of_purgeExpired (h : (c.purgeExpired now).m.lookup k = some st) :
    c.m.lookup k = some st := by
  rw [purgeExpired, lookup_select, filter_eq_some_iff] at h
  exact h.1

theorem kept_purgeExpired (h : c.m.lookup k = some st) (hnow : now ≤ st.expires) :
    (c.purgeExpired now).m.lookup k = some st := by
  rw [purgeExpired, lookup_select, h, filter_some, if_pos]
  simpa using hnow

theorem entry_check {st' : NonceState}
    (h : (c.check nonce qop n expires now).2.m.lookup k = some st') :
    (k = nonce ∧ st'.expires = expires) ∨
      ∃ st, c.m.lookup k = some st ∧ st'.expires = st.expires := by
  unfold check at h
  split at h
  · exact entry_record h
  · rcases entry_record h with hnew | ⟨st, hst, hexpires⟩
    · exact .inl hnew
    · exact .inr ⟨st, lookup_of_purgeExpired hst, hexpires⟩

theorem dropped_check {qop' : String} {n' : UInt64} (h : c.m.lookup k = some st)
    (hfull : ¬ (nonce ∈ c.m ∨ c.m.keys.length < nonceCacheMax)) (hexpired : st.expires < now) :
    (c.check nonce qop' n' expires now).2.m.lookup k = none := by
  have hpurged : (c.purgeExpired now).m.lookup k = none := by
    rw [purgeExpired, lookup_select, h, filter_some, if_neg]
    simpa using hexpired
  have hk : k ≠ nonce := by
    rintro rfl
    exact hfull (.inl (lookup_isSome.mp (by rw [h]; rfl)))
  rw [check, if_neg hfull]
  unfold record
  split
  · exact (lookup_insert_ne hk).trans hpurged
  · exact hpurged

/-- An entry is dropped only from a full cache, after its expiry. -/
theorem kept_check {qop' : String} {n' : UInt64} (h : c.m.lookup k = some st)
    (hspent : st.Spent qop n) :
    (∃ st', (c.check nonce qop' n' expires now).2.m.lookup k = some st' ∧ st'.Spent qop n) ∨
      ¬ (nonce ∈ c.m ∨ c.m.keys.length < nonceCacheMax) ∧ st.expires < now := by
  by_cases hroom : nonce ∈ c.m ∨ c.m.keys.length < nonceCacheMax
  · rw [check, if_pos hroom]
    exact .inl (kept_record h hspent)
  · rw [check, if_neg hroom]
    by_cases hexpired : st.expires < now
    · exact .inr ⟨hroom, hexpired⟩
    · exact .inl (kept_record (kept_purgeExpired h (Int.not_lt.mp hexpired)) hspent)

/-- What is accepted was not spent, even if the check purged the cache first: then the
nonce was not in it. -/
theorem accepted_check (h : (c.check nonce qop n expires now).1) :
    (∀ st, c.m.lookup nonce = some st → ¬ st.Spent qop n) ∧
      ∃ st, (c.check nonce qop n expires now).2.m.lookup nonce = some st ∧ st.Spent qop n := by
  unfold check at h ⊢
  split at h
  next hroom =>
    rw [if_pos hroom]
    exact accepted_record h
  next hfull =>
    rw [if_neg hfull]
    refine ⟨?_, (accepted_record h).2⟩
    intro st hst
    exact absurd (.inl (lookup_isSome.mp (by rw [hst]; rfl))) hfull

end NonceCache

/-! ### Statements -/

section

variable (state : ReplayState) (nonce : String)

/-- When a nonce expires. -/
def nonceExpiry : Option Instant :=
  (nonceTime nonce).map (· + nonceTTL)

/-- What makes two requests the same for a replay store. -/
def Presented.use (p : Presented) : String × Bool × Option UInt64 :=
  (p.nonce, decide (p.qop = ""), p.ncOrdinal)

/-- A check is that of a nonce that had not expired when the clock was read. -/
def DigestStmt.Sane : DigestStmt → Prop
  | .checkAndRecord p n expires readAt | .checkCache _ p n expires readAt =>
    p.ncOrdinal = some n ∧ nonceExpiry p.nonce = some expires ∧ readAt ≤ expires
  | _ => True

/-- Every entry has the expiry of its nonce. -/
structure ExpiriesAgree (w : DigestWorld) : Prop where
  table : ∀ nonce row, w.nonces.lookup nonce = some row →
    (nonceExpiry nonce).map microseconds = some row.expiresAt
  caches : ∀ id nonce st, (w.caches id).m.lookup nonce = some st →
    nonceExpiry nonce = some st.expires

/-- The use is recorded in the store. -/
def Spent : ReplayState → Presented → DigestWorld → Prop
  | .shared, p, w => ∃ n row, p.ncOrdinal = some n ∧ w.nonces.lookup p.nonce = some row ∧
      n.toInt64 ≤ row.lastNC
  | .process id, p, w => ∃ n st, p.ncOrdinal = some n ∧
      (w.caches id).m.lookup p.nonce = some st ∧ st.Spent p.qop n

theorem Spent.congr {state : ReplayState} {p q : Presented} {w : DigestWorld}
    (h : Spent state p w) (huse : p.use = q.use) : Spent state q w := by
  simp only [Presented.use, Prod.mk.injEq, decide_eq_decide] at huse
  obtain ⟨hnonce, hqop, hnc⟩ := huse
  cases state with
  | shared =>
    obtain ⟨n, row, hn, hrow, hle⟩ := h
    exact ⟨n, row, hnc ▸ hn, hnonce ▸ hrow, hle⟩
  | process id =>
    obtain ⟨n, st, hn, hst, hspent⟩ := h
    refine ⟨n, st, hnc ▸ hn, hnonce ▸ hst, ?_⟩
    unfold NonceState.Spent at hspent ⊢
    simpa only [hqop] using hspent

/-- The clock reading with which an event may drop expired entries of the store. -/
def sweptAt : DigestEvent → Option Instant
  | ⟨.purge t, _, _, _⟩ => if state = .shared then some t else none
  | ⟨.checkCache id p _ _ readAt, _, pre, _⟩ =>
    if state = .process id ∧ ¬ (p.nonce ∈ (pre.caches id).m ∨
        (pre.caches id).m.keys.length < nonceCacheMax) then some readAt
    else none
  | _ => none

/-- The nonce an event checks in the store, and the clock reading its expiry was compared
with. -/
def checkedAt : DigestEvent → Option (String × Instant)
  | ⟨.checkAndRecord p _ _ readAt, _, _, _⟩ =>
    if state = .shared then some (p.nonce, readAt) else none
  | ⟨.checkCache id p _ _ readAt, _, _, _⟩ =>
    if state = .process id then some (p.nonce, readAt) else none
  | _ => none

/-- The store has an entry of the nonce. -/
def holds (w : DigestWorld) : Bool :=
  match state with
  | .shared => (w.nonces.lookup nonce).isSome
  | .process id => ((w.caches id).m.lookup nonce).isSome

/-- A purge overtakes a verification: it has read the clock later, and is ahead at the store,
where it drops the entry of the nonce. -/
def overtakes (sweep check : DigestEvent) : Bool :=
  match sweptAt state sweep, checkedAt state check with
  | some t, some (nonce, readAt) =>
    decide (readAt < t) && holds state nonce sweep.pre && !holds state nonce sweep.post
  | _, _ => false

/-- The event drops the entry of the nonce, which has expired. -/
structure Drops (ev : DigestEvent) (t expires : Instant) : Prop where
  swept : sweptAt state ev = some t
  expiry : nonceExpiry nonce = some expires
  expired : expires < t
  before : holds state nonce ev.pre = true
  after : holds state nonce ev.post = false

end

/-! ### One statement -/

section Statements

variable (id : Nat) (p : Presented) (n : UInt64) (expires readAt : Instant) (c : DigestChoice)
  (w : DigestWorld)

theorem nonces_purge (t : Instant) :
    ((purge t).exec c w).2.nonces = w.nonces ∨
      ((purge t).exec c w).2.nonces = w.nonces.purge t := by
  refine (c.delivery.deliver_state () (w.tick c) { w.tick c with
    nonces := w.nonces.purge t }).imp ?_ ?_
  · exact congrArg nonces
  · exact congrArg nonces

theorem nonces_checkAndRecord :
    ((checkAndRecord p n expires readAt).exec c w).2.nonces = w.nonces ∨
      ((checkAndRecord p n expires readAt).exec c w).2.nonces =
        (w.nonces.checkAndRecord p.nonce n expires).2 := by
  refine (c.delivery.deliver_state (w.nonces.checkAndRecord p.nonce n expires).1 (w.tick c)
    { w.tick c with nonces := (w.nonces.checkAndRecord p.nonce n expires).2 }).imp ?_ ?_
  · exact congrArg nonces
  · exact congrArg nonces

theorem caches_checkCache (id' : Nat) :
    ((checkCache id p n expires readAt).exec c w).2.caches id' =
      if id' = id then ((w.caches id).check p.nonce p.qop n expires readAt).2
      else w.caches id' :=
  Function.update_apply w.caches id _ id'

theorem caches_exec {s : DigestStmt} (h : ∀ id p n expires readAt,
    s ≠ .checkCache id p n expires readAt) : (s.exec c w).2.caches = w.caches := by
  cases s with
  | now => rfl
  | purge t =>
    exact (c.delivery.deliver_state () (w.tick c) _).elim (congrArg caches)
      (congrArg caches)
  | checkAndRecord p n expires readAt =>
    exact (c.delivery.deliver_state _ (w.tick c) _).elim (congrArg caches)
      (congrArg caches)
  | checkCache id p n expires readAt => exact absurd rfl (h id p n expires readAt)

end Statements

section Events

variable {state : ReplayState} {p : Presented} {ev : DigestEvent}

theorem expiriesAgree_exec {s : DigestStmt} {c : DigestChoice} {w : DigestWorld} (hsane : s.Sane)
    (h : ExpiriesAgree w) : ExpiriesAgree (s.exec c w).2 := by
  constructor
  · intro nonce row hrow
    cases s with
    | now | checkCache => exact h.table nonce row hrow
    | purge t =>
      rcases nonces_purge c w t with heq | heq
      · exact h.table nonce row (heq ▸ hrow)
      · exact h.table nonce row (NonceTable.lookup_of_purge (heq ▸ hrow))
    | checkAndRecord p n expires readAt =>
      rcases nonces_checkAndRecord p n expires readAt c w with heq | heq
      · exact h.table nonce row (heq ▸ hrow)
      · rcases NonceTable.row_checkAndRecord (heq ▸ hrow) with ⟨rfl, hnew⟩ | ⟨old, hold, hsame⟩
        · rw [hnew, hsane.2.1]
          rfl
        · rw [hsame]
          exact h.table nonce old hold
  · intro id nonce st hst
    cases s with
    | checkCache id' p n expires readAt =>
      rw [caches_checkCache] at hst
      split at hst
      next hid =>
        subst hid
        rcases NonceCache.entry_check hst with ⟨rfl, hnew⟩ | ⟨old, hold, hsame⟩
        · rw [hnew]
          exact hsane.2.1
        · rw [hsame]
          exact h.caches id nonce old hold
      · exact h.caches id nonce st hst
    | _ =>
      rw [caches_exec c w (by simp)] at hst
      exact h.caches id nonce st hst

theorem acceptedBy_checkAndRecord {q : Presented} {n : UInt64} {expires readAt : Instant}
    {answer : Option Bool} {pre post : DigestWorld}
    (h : acceptedBy state ⟨.checkAndRecord q n expires readAt, answer, pre, post⟩ = some p) :
    state = .shared ∧ q = p ∧ answer = some true := by
  rcases answer with _ | _ | _
  · cases h
  · cases h
  · obtain ⟨hstate, hp⟩ := ite_none_right_eq_some.mp h
    exact ⟨hstate, some.inj hp, rfl⟩

theorem acceptedBy_checkCache {id : Nat} {q : Presented} {n : UInt64} {expires readAt : Instant}
    {answer : Bool} {pre post : DigestWorld}
    (h : acceptedBy state ⟨.checkCache id q n expires readAt, answer, pre, post⟩ = some p) :
    state = .process id ∧ q = p ∧ answer := by
  rcases answer with _ | _
  · cases h
  · obtain ⟨hstate, hp⟩ := ite_none_right_eq_some.mp h
    exact ⟨hstate, some.inj hp, rfl⟩

theorem accepted_checkedAt (hsane : ev.stmt.Sane) (hacc : acceptedBy state ev = some p) :
    ∃ expires readAt, checkedAt state ev = some (p.nonce, readAt) ∧
      nonceExpiry p.nonce = some expires ∧ readAt ≤ expires := by
  obtain ⟨s, answer, pre, post⟩ := ev
  cases s with
  | now | purge => cases hacc
  | checkAndRecord q n expires readAt =>
    obtain ⟨rfl, rfl, -⟩ := acceptedBy_checkAndRecord hacc
    exact ⟨expires, readAt, rfl, hsane.2⟩
  | checkCache id q n expires readAt =>
    obtain ⟨rfl, rfl, -⟩ := acceptedBy_checkCache hacc
    exact ⟨expires, readAt, if_pos rfl, hsane.2⟩

theorem accepted_spent (hlegal : ev.Legal DigestStmt.exec) (hsane : ev.stmt.Sane)
    (hacc : acceptedBy state ev = some p) : ¬ Spent state p ev.pre ∧ Spent state p ev.post := by
  obtain ⟨s, c, w, rfl⟩ := hlegal.eq_fire
  cases s with
  | now | purge => cases hacc
  | checkAndRecord q n expires readAt =>
    obtain ⟨rfl, rfl, hanswer⟩ := acceptedBy_checkAndRecord hacc
    obtain ⟨htrue, hstate⟩ := c.delivery.deliver_answer
      (w.nonces.checkAndRecord q.nonce n expires).1 (w.tick c)
      { w.tick c with nonces := (w.nonces.checkAndRecord q.nonce n expires).2 } hanswer
    have hnonces : ((checkAndRecord q n expires readAt).exec c w).2.nonces = _ :=
      congrArg nonces hstate
    obtain ⟨hnew, row, hrow, hlast⟩ := NonceTable.accepted_checkAndRecord htrue.symm
    constructor
    · rintro ⟨n', row', hn', hrow', hle⟩
      cases hsane.1.symm.trans hn'
      exact Int64.lt_irrefl (Int64.lt_of_lt_of_le (hnew row' hrow') hle)
    · exact ⟨n, row, hsane.1, hnonces ▸ hrow, hlast ▸ Int64.le_refl _⟩
  | checkCache id q n expires readAt =>
    obtain ⟨rfl, rfl, hanswer⟩ := acceptedBy_checkCache hacc
    obtain ⟨hnew, st, hst, hspent⟩ := NonceCache.accepted_check hanswer
    constructor
    · rintro ⟨n', st', hn', hst', hspent'⟩
      cases hsane.1.symm.trans hn'
      exact hnew st' hst' hspent'
    · refine ⟨n, st, hsane.1, ?_, hspent⟩
      show (((checkCache id q n expires readAt).exec c w).2.caches id).m.lookup _ = _
      rw [caches_checkCache, if_pos rfl]
      exact hst

theorem spent_shared_post (hlegal : ev.Legal DigestStmt.exec) (hpre : ExpiriesAgree ev.pre)
    (h : Spent .shared p ev.pre) :
    Spent .shared p ev.post ∨ ∃ t expires, Drops .shared p.nonce ev t expires := by
  obtain ⟨s, c, w, rfl⟩ := hlegal.eq_fire
  obtain ⟨n, row, hn, hrow, hle⟩ := h
  cases s with
  | now | checkCache => exact .inl ⟨n, row, hn, hrow, hle⟩
  | checkAndRecord q m expires readAt =>
    left
    rcases nonces_checkAndRecord q m expires readAt c w with heq | heq
    · exact ⟨n, row, hn, heq ▸ hrow, hle⟩
    · obtain ⟨row', hrow', hkept⟩ := NonceTable.kept_checkAndRecord hrow
      exact ⟨n, row', hn, heq ▸ hrow', Int64.le_trans hle hkept⟩
  | purge t =>
    rcases nonces_purge c w t with heq | heq
    · exact .inl ⟨n, row, hn, heq ▸ hrow, hle⟩
    have hlookup : ((purge t).exec c w).2.nonces.lookup p.nonce = _ :=
      (congrArg (AList.lookup p.nonce) heq).trans (NonceTable.lookup_purge hrow)
    split at hlookup
    next hlt =>
      obtain ⟨expires, hexpires, hmicros⟩ := map_eq_some_iff.mp (hpre.table _ row hrow)
      refine .inr ⟨t, expires, rfl, hexpires, ?_, isSome_iff_exists.mpr ⟨row, hrow⟩, ?_⟩
      · rw [← hmicros] at hlt
        exact Int.not_le.mp fun hle => Int.not_le.mpr hlt (Int.ediv_le_ediv (by decide) hle)
      · exact congrArg isSome hlookup
    · exact .inl ⟨n, row, hn, hlookup, hle⟩

theorem spent_process_post {id : Nat} (hlegal : ev.Legal DigestStmt.exec)
    (hpre : ExpiriesAgree ev.pre) (h : Spent (.process id) p ev.pre) :
    Spent (.process id) p ev.post ∨ ∃ t expires, Drops (.process id) p.nonce ev t expires := by
  obtain ⟨s, c, w, rfl⟩ := hlegal.eq_fire
  obtain ⟨n, st, hn, hst, hspent⟩ := h
  have hsame : (s.exec c w).2.caches id = w.caches id → Spent (.process id) p (s.exec c w).2 := by
    intro hcaches
    exact ⟨n, st, hn, by rw [hcaches]; exact hst, hspent⟩
  cases s with
  | checkCache id' q m expires readAt =>
    by_cases hid : id' = id
    · subst hid
      rcases NonceCache.kept_check hst hspent with ⟨st', hst', hspent'⟩ | ⟨hfull, hexpired⟩
      · refine .inl ⟨n, st', hn, ?_, hspent'⟩
        show (((checkCache id' q m expires readAt).exec c w).2.caches id').m.lookup _ = _
        rw [caches_checkCache, if_pos rfl]
        exact hst'
      · refine .inr ⟨readAt, st.expires, if_pos ⟨rfl, hfull⟩, hpre.caches _ _ st hst, hexpired,
          isSome_iff_exists.mpr ⟨st, hst⟩, ?_⟩
        show ((((checkCache id' q m expires readAt).exec c w).2.caches id').m.lookup _).isSome = false
        rw [caches_checkCache, if_pos rfl]
        exact congrArg isSome (NonceCache.dropped_check hst hfull hexpired)
    · left
      apply hsame
      rw [caches_checkCache, if_neg fun heq => hid heq.symm]
  | _ => exact .inl (hsame (congrFun (caches_exec c w (by simp)) id))

/-- A spent use stays spent until the store drops it. -/
theorem spent_post (hlegal : ev.Legal DigestStmt.exec) (hpre : ExpiriesAgree ev.pre)
    (h : Spent state p ev.pre) :
    Spent state p ev.post ∨ ∃ t expires, Drops state p.nonce ev t expires := by
  cases state with
  | shared => exact spent_shared_post hlegal hpre h
  | process id => exact spent_process_post hlegal hpre h

end Events

/-! ### The handlers -/

section Handlers

variable (crypto : Crypto) (toUpper : String → String)

theorem checkResponse_expiry {d : DigestAuthenticator} {r : DigestRequest} {p : Presented}
    {expires : Instant} {identity : Identity}
    (h : checkResponse crypto toUpper d r = some (p, expires, identity)) :
    nonceExpiry p.nonce = some expires := by
  obtain ⟨⟨password, deviceID, perDevice⟩, -, h⟩ := bind_eq_some_iff.mp h
  obtain ⟨-, h⟩ := ite_none_left_eq_some.mp h
  obtain ⟨-, h⟩ := ite_none_left_eq_some.mp h
  obtain ⟨issued, hissued, h⟩ := bind_eq_some_iff.mp h
  obtain ⟨hash, -, h⟩ := bind_eq_some_iff.mp h
  obtain ⟨-, h⟩ := ite_none_left_eq_some.mp h
  obtain ⟨-, h⟩ := ite_none_left_eq_some.mp h
  cases h
  obtain ⟨parts, hparts, hmac⟩ := bind_eq_some_iff.mp hissued
  split at hmac
  · rw [nonceExpiry, nonceTime, hparts, Option.bind_some, hmac]
    rfl
  · cases hmac

theorem sane_checkReplay (state : ReplayState) {p : Presented} {expires now : Instant}
    (hexpires : nonceExpiry p.nonce = some expires) (hnow : now ≤ expires) :
    (checkReplay state p expires now).Issues (fun _ _ => True) Sane := by
  unfold checkReplay
  split
  · trivial
  next n hn =>
    cases state with
    | shared | process => exact ⟨⟨hn, hexpires, hnow⟩, fun _ _ => trivial⟩

theorem sane_verifyDigest (d : DigestAuthenticator) (state : ReplayState) (r : DigestRequest) :
    (verifyDigest crypto toUpper d state r).Issues (fun _ _ => True) Sane := by
  refine Prog.all_ask trivial fun now _ => ?_
  split
  · trivial
  next p expires identity hresponse =>
    have hexpires := checkResponse_expiry crypto toUpper hresponse
    split
    · trivial
    next hnow =>
      refine (sane_checkReplay state hexpires (Int.not_lt.mp hnow)).bind fun ok _ => ?_
      cases ok <;> trivial

theorem sane_prog (task : DigestTask) :
    (task.prog crypto toUpper).Issues (fun _ _ => True) Sane := by
  cases task with
  | verify d state r => exact (sane_verifyDigest crypto toUpper d state r).bind fun _ _ => trivial
  | reap => exact ⟨trivial, fun _ _ => ⟨trivial, fun _ _ => trivial⟩⟩

/-! ### Runs -/

/-- Whether a store accepts this use. -/
def acceptsUse (state : ReplayState) (use : String × Bool × Option UInt64) (ev : DigestEvent) :
    Bool :=
  (acceptedBy state ev).any (·.use = use)

theorem acceptsUse_iff {state : ReplayState} {use : String × Bool × Option UInt64}
    {ev : DigestEvent} :
    acceptsUse state use ev ↔ ∃ p, acceptedBy state ev = some p ∧ p.use = use := by
  simp [acceptsUse, any_eq_true]

theorem trace_sound (start : Instant) (as : List DigestAction) :
    ∀ ev ∈ digestTrace crypto toUpper start as, ev.Legal DigestStmt.exec ∧
      ev.Sound (fun _ _ => True) Sane ExpiriesAgree := by
  refine Pool.run_rule (G := fun _ => True) ?_ (by simp) ?_
    (fun task _ => sane_prog crypto toUpper task) (by simp)
  · exact fun s c w _ hsane hpre => ⟨trivial, expiriesAgree_exec hsane hpre⟩
  · exact ⟨nofun, nofun⟩

end Handlers

section Once

variable {state : ReplayState} {evs : List DigestEvent} {w w' : DigestWorld}
  (hchain : Pool.Chain w evs w')
  (hsound : ∀ ev ∈ evs, ev.Legal DigestStmt.exec ∧
    ev.Sound (fun _ _ => True) Sane ExpiriesAgree)
  (hpair : evs.Pairwise fun sweep check => overtakes state sweep check = false)
include hchain hsound hpair

/-- Once a use is spent no later event accepts it: the use stays spent, or the nonce was
dropped after its expiry and, with no check overtaken, is not checked again. -/
theorem spent_refused {p : Presented} (hspent : Spent state p w) :
    ∀ ev ∈ evs, acceptsUse state p.use ev = false := by
  induction hchain with
  | nil => simp
  | @cons ev evs w' hchain ih =>
    obtain ⟨hlegal, hev⟩ := hsound ev List.mem_cons_self
    obtain ⟨hfirst, hrest⟩ := List.pairwise_cons.mp hpair
    have hlater : ∀ e ∈ evs, acceptsUse state p.use e = false := by
      rcases spent_post hlegal hev.pre hspent with hpost | ⟨t, expires, hdrops⟩
      · exact ih (fun e he => hsound e (List.mem_cons_of_mem _ he)) hrest hpost
      · intro e he
        refine Bool.eq_false_iff.mpr fun hacc => ?_
        obtain ⟨q, hq, huse⟩ := acceptsUse_iff.mp hacc
        have hnonce : q.nonce = p.nonce := congrArg Prod.fst huse
        have hchecked := accepted_checkedAt (hsound e (List.mem_cons_of_mem _ he)).2.stmt hq
        obtain ⟨expires', readAt, hcheck, hexpires', hread⟩ := hchecked
        rw [hnonce] at hexpires' hcheck
        cases hdrops.expiry.symm.trans hexpires'
        have hno := hfirst e he
        simp [overtakes, hdrops.swept, hcheck, Int.lt_of_le_of_lt hread hdrops.expired,
          hdrops.before, hdrops.after] at hno
    intro e he
    rcases List.mem_cons.mp he with rfl | he
    · refine Bool.eq_false_iff.mpr fun hacc => ?_
      obtain ⟨q, hq, huse⟩ := acceptsUse_iff.mp hacc
      exact (accepted_spent hlegal hev.stmt hq).1 (hspent.congr huse.symm)
    · exact hlater e he

theorem accepted_once (use : String × Bool × Option UInt64) :
    (evs.filter (acceptsUse state use)).length ≤ 1 := by
  induction hchain with
  | nil => simp
  | @cons ev evs w' hchain ih =>
    have hsound' := fun e he => hsound e (List.mem_cons_of_mem _ he)
    have hpair' := (List.pairwise_cons.mp hpair).2
    by_cases hacc : acceptsUse state use ev
    · obtain ⟨p, hp, rfl⟩ := acceptsUse_iff.mp hacc
      obtain ⟨hlegal, hev⟩ := hsound ev List.mem_cons_self
      have hspent := (accepted_spent hlegal hev.stmt hp).2
      have hnone : evs.filter (acceptsUse state p.use) = [] := by
        rw [List.filter_eq_nil_iff]
        intro e he
        rw [spent_refused hchain hsound' hpair' hspent e he]
        decide
      rw [List.filter_cons_of_pos hacc, hnone]
      exact Nat.le_refl 1
    · rw [List.filter_cons_of_neg hacc]
      exact ih hsound' hpair'

end Once

/-- As long as no purge that drops a nonce overtakes its verification, a replay store accepts each use of a nonce
at most once, the table from all replicas together and a cache from its process; and no
cache outgrows its bound. -/
theorem digest_accepted_once (crypto : Crypto) (toUpper : String → String) (start : Instant)
    (as : List DigestAction) (state : ReplayState)
    (hpair : (digestTrace crypto toUpper start as).Pairwise fun sweep check =>
      overtakes state sweep check = false) :
    (∀ use, ((digestTrace crypto toUpper start as).filter (acceptsUse state use)).length ≤ 1) ∧
      ∀ ev ∈ digestTrace crypto toUpper start as, ∀ id,
        (ev.post.caches id).m.keys.length ≤ nonceCacheMax := by
  constructor
  · intro use
    exact accepted_once (Pool.run_chain ..) (trace_sound crypto toUpper start as) hpair use
  · intro ev _ id
    exact (ev.post.caches id).size_le

/-- Hashes that tell nothing apart. -/
def plainCrypto : Crypto where
  md5Hex _ := "r"
  sha256Hex _ := "r"
  hmacSHA256 _ _ := ""
  macHex _ := "m"

/-- A request with a nonce issued at time zero. -/
def presentedOnce : DigestRequest where
  method := "POST"
  requestURI := "/"
  authorization := "username=\"cpe\", realm=\"acs\", nonce=\"0.x.m\", uri=\"/\", " ++
    "response=\"r\", qop=auth, nc=00000001, cnonce=\"c\""

/-- A verification of the request by a replica. -/
def verifyTask (state : ReplayState) : DigestTask :=
  .verify { username := "cpe", password := "p" } state presentedOnce

/-- The request is verified by two replicas, and the reaper runs when both are done. -/
def purgedLate : List DigestAction :=
  [.spawn (verifyTask .shared), .spawn (verifyTask .shared), .spawn .reap,
    .step 0 {}, .step 1 {}, .step 0 {}, .step 1 {},
    .step 2 { elapsed := 601000000000 }, .step 2 {}]

theorem digest_accepted_once_purgedLate :
    (∀ use, ((digestTrace plainCrypto id 0 purgedLate).filter
        (acceptsUse .shared use)).length ≤ 1) ∧
      ∀ ev ∈ digestTrace plainCrypto id 0 purgedLate, ∀ id,
        (ev.post.caches id).m.keys.length ≤ nonceCacheMax :=
  digest_accepted_once plainCrypto id 0 purgedLate .shared (by decide +kernel)

/-- Both replicas read the clock in the last second of the nonce.  The first records the use;
before the second does, the nonce expires and the reaper drops the row, a microsecond later. -/
def purgedBetween : List DigestAction :=
  [.spawn (verifyTask .shared), .spawn (verifyTask .shared), .spawn .reap,
    .step 0 { elapsed := 600000000000 }, .step 1 {}, .step 0 {},
    .step 2 { elapsed := 1000 }, .step 2 {}, .step 1 {}]

/-- One header, accepted twice. -/
theorem digest_accepted_twice :
    ((digestTrace plainCrypto id 0 purgedBetween).filter
      (acceptsUse .shared ("0.x.m", false, some 1))).length = 2 := by
  decide +kernel

end Acs
