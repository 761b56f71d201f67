/-
When the two replay stores decide alike.

The cache keeps two records for a nonce, the highest nonce count and whether a response
without qop was seen; the table keeps one signed number for both.  On a nonce that is
only ever used one way, and as long as the nonce counts fit the signed column, the number
is the record that matters.  Used both ways, or with larger counts, a nonce tells the two
stores apart.
-/
import Acs.Auth.Digest
import Mathlib.Data.Finset.Card
import Mathlib.Data.Finset.Dedup
import Mathlib.Data.List.Dedup

namespace Acs

open AList NonceCache List

/-! ### The conversion of a nonce count -/

theorem toInt64_toInt {n : UInt64} (hn : n.toNat < 2 ^ 63) : n.toInt64.toInt = n.toNat := by
  show n.toBitVec.toInt = n.toNat
  rw [BitVec.toInt_eq_toNat_of_lt (by rw [UInt64.toNat_toBitVec]; omega), UInt64.toNat_toBitVec]

theorem toInt64_lt_iff {a b : UInt64} (ha : a.toNat < 2 ^ 63) (hb : b.toNat < 2 ^ 63) :
    a.toInt64 < b.toInt64 ↔ a < b := by
  rw [Int64.lt_iff_toInt_lt, UInt64.lt_iff_toNat_lt, toInt64_toInt ha, toInt64_toInt hb]
  omega

/-! ### The two stores side by side -/

/-- The entries of the two stores for a nonce say the same. -/
def NonceState.Matches (legacy : Prop) (st : NonceState) (row : NonceRow) : Prop :=
  (legacy → st.used = true ∧ row.lastNC = 1) ∧
    (¬ legacy → row.lastNC = st.lastNC.toInt64 ∧ st.lastNC.toNat < 2 ^ 63)

/-- The stores know the same nonces and say the same of each. -/
structure StoresMatch (legacy : String → Prop) (c : NonceCache) (t : NonceTable) : Prop where
  known : ∀ nonce, nonce ∈ c.m ↔ nonce ∈ t
  entries : ∀ nonce st row, c.m.lookup nonce = some st → t.lookup nonce = some row →
    st.Matches (legacy nonce) row

section Step

variable {legacy : String → Prop} {c : NonceCache} {t : NonceTable}

theorem StoresMatch.put {c' : NonceCache} {t' : NonceTable} {nonce : String} {st : NonceState}
    {row : NonceRow} (h : StoresMatch legacy c t) (hc : c'.m = c.m.insert nonce st)
    (ht : ∀ other, t'.lookup other = if other = nonce then some row else t.lookup other)
    (hentry : st.Matches (legacy nonce) row) : StoresMatch legacy c' t' := by
  constructor
  · intro other
    rw [hc, mem_insert, h.known other, ← lookup_isSome, ← lookup_isSome, ht]
    split <;> simp_all
  · intro other st' row' hst' hrow'
    rw [hc] at hst'
    rw [ht] at hrow'
    split at hrow'
    next hother =>
      subst hother
      rw [lookup_insert] at hst'
      cases hst'
      cases hrow'
      exact hentry
    next hother =>
      rw [lookup_insert_ne hother] at hst'
      exact h.entries other st' row' hst' hrow'

/-- Where a nonce is used one way only, one use changes its two entries alike. -/
theorem NonceState.Matches.record {p : Prop} {st : NonceState} {row : NonceRow} {qop : String}
    {n : UInt64} (h : st.Matches p row) (hp : p ↔ qop = "") (hone : qop = "" → n = 1)
    (hn : n.toNat < 2 ^ 63) :
    (st.record qop n).1 = decide (row.lastNC < n.toInt64) ∧
      (st.record qop n).2.Matches p
        (if row.lastNC < n.toInt64 then { row with lastNC := n.toInt64 } else row) := by
  unfold NonceState.record
  by_cases hqop : qop = ""
  · obtain ⟨hused, hrow⟩ := h.1 (hp.mpr hqop)
    have hno : ¬ row.lastNC < n.toInt64 := by
      rw [hrow, hone hqop]
      decide
    simp only [hqop, hused, if_true, if_neg hno]
    exact ⟨by simp [hno], h⟩
  · obtain ⟨hrow, hlast⟩ := h.2 fun hlegacy => hqop (hp.mp hlegacy)
    have hlt : row.lastNC < n.toInt64 ↔ ¬ n ≤ st.lastNC := by
      rw [hrow, toInt64_lt_iff hlast hn, UInt64.not_le]
    rw [if_neg hqop]
    by_cases hle : n ≤ st.lastNC
    · have hno : ¬ row.lastNC < n.toInt64 := fun hc => hlt.mp hc hle
      rw [if_pos hle, if_neg hno]
      exact ⟨by simp [hno], h⟩
    · rw [if_neg hle, if_pos (hlt.mpr hle)]
      refine ⟨by simp [hlt.mpr hle], ?_, ?_⟩
      · intro hlegacy
        exact absurd (hp.mp hlegacy) hqop
      · intro _
        exact ⟨rfl, hn⟩

theorem NonceState.matches_first {p : Prop} {qop : String} {n : UInt64} (expires : Instant)
    (hp : p ↔ qop = "") (hone : qop = "" → n = 1) (hpos : n ≠ 0) (hn : n.toNat < 2 ^ 63) :
    (({ expires } : NonceState).record qop n).1 ∧
      (({ expires } : NonceState).record qop n).2.Matches p ⟨n.toInt64, expires⟩ := by
  unfold NonceState.record
  by_cases hqop : qop = ""
  · simp only [hqop, if_true, Bool.false_eq_true, if_false, true_and]
    refine ⟨?_, ?_⟩
    · intro _
      rw [hone hqop]
      exact ⟨rfl, rfl⟩
    · intro hno
      exact absurd (hp.mpr hqop) hno
  · have hgt : ¬ n ≤ 0 := by
      intro hle
      exact hpos (UInt64.le_zero_iff.mp hle)
    rw [if_neg hqop, if_neg hgt]
    refine ⟨rfl, ?_, ?_⟩
    · intro hlegacy
      exact absurd (hp.mp hlegacy) hqop
    · intro _
      exact ⟨rfl, hn⟩

theorem Presented.ncOrdinal_spec {p : Presented} {n : UInt64} (h : p.ncOrdinal = some n) :
    (p.qop = "" → n = 1) ∧ n ≠ 0 := by
  unfold Presented.ncOrdinal at h
  split at h
  · cases h
    exact ⟨fun _ => rfl, by decide⟩
  next hqop =>
    obtain ⟨m, -, hm⟩ := Option.bind_eq_some_iff.mp h
    split at hm
    · cases hm
    · cases hm
      exact ⟨fun hc => absurd hc hqop, by assumption⟩

theorem StoresMatch.step (h : StoresMatch legacy c t) {p : Presented} {n : UInt64}
    (expires now : Instant) (hroom : p.nonce ∈ c.m ∨ c.m.keys.length < nonceCacheMax)
    (hlegacy : legacy p.nonce ↔ p.qop = "") (hn : p.ncOrdinal = some n)
    (hfits : n.toNat < 2 ^ 63) :
    (c.check p.nonce p.qop n expires now).1 = (t.checkAndRecord p.nonce n expires).1 ∧
      StoresMatch legacy (c.check p.nonce p.qop n expires now).2
        (t.checkAndRecord p.nonce n expires).2 := by
  obtain ⟨hone, hpos⟩ := Presented.ncOrdinal_spec hn
  unfold check record NonceTable.checkAndRecord
  rw [if_pos hroom, dif_pos hroom]
  cases hst : c.m.lookup p.nonce with
  | none =>
    have hrow : t.lookup p.nonce = none := by
      rw [lookup_eq_none, ← h.known, ← lookup_eq_none]
      exact hst
    obtain ⟨hnew, hentry⟩ := NonceState.matches_first expires hlegacy hone hpos hfits
    rw [hrow]
    exact ⟨hnew, h.put rfl (fun other => Assoc.lookup_insert_if p.nonce other _ t) hentry⟩
  | some st =>
    have hmem : p.nonce ∈ t := (h.known p.nonce).mp (lookup_isSome.mp (by rw [hst]; rfl))
    obtain ⟨row, hrow⟩ := Option.isSome_iff_exists.mp (lookup_isSome.mpr hmem)
    obtain ⟨hdecision, hentry⟩ := (h.entries _ st row hst hrow).record hlegacy hone hfits
    rw [hrow]
    dsimp only [Option.getD_some]
    by_cases hlt : row.lastNC < n.toInt64
    · rw [if_pos hlt] at hentry ⊢
      rw [decide_eq_true hlt] at hdecision
      exact ⟨hdecision, h.put rfl (fun other => Assoc.lookup_insert_if p.nonce other _ t) hentry⟩
    · rw [if_neg hlt] at hentry ⊢
      rw [decide_eq_false hlt] at hdecision
      refine ⟨hdecision, h.put rfl (fun other => ?_) hentry⟩
      split
      next hother =>
        rw [hother, hrow]
      · rfl

end Step

/-! ### Sequences of requests -/

/-- A cache whose nonces are among at most as many as it may hold has room for each. -/
theorem NonceCache.room_of_subset {c : NonceCache} {nonces : Finset String}
    (hcard : nonces.card ≤ nonceCacheMax) (hsub : ∀ k ∈ c.m, k ∈ nonces) {nonce : String}
    (hnonce : nonce ∈ nonces) : nonce ∈ c.m ∨ c.m.keys.length < nonceCacheMax := by
  by_cases hmem : nonce ∈ c.m
  · exact .inl hmem
  · right
    have hlen : c.m.keys.toFinset.card = c.m.keys.length :=
      toFinset_card_of_nodup c.m.nodupKeys
    have hstrict : c.m.keys.toFinset ⊂ nonces := by
      refine Finset.ssubset_iff_subset_ne.mpr ⟨?_, ?_⟩
      · intro k hk
        exact hsub k (mem_toFinset.mp hk)
      · intro heq
        rw [← heq] at hnonce
        exact hmem (mem_toFinset.mp hnonce)
    have hlt := Finset.card_lt_card hstrict
    omega

section Decisions

variable (id : Nat) {p : Presented} {n : UInt64} (expires now : Instant)
  (rest : List (Presented × Instant × Instant)) (w : DigestWorld)

theorem replayDecisions_process (hn : p.ncOrdinal = some n) :
    replayDecisions (.process id) ((p, expires, now) :: rest) w =
      ((w.caches id).check p.nonce p.qop n expires now).1 ::
        replayDecisions (.process id) rest { w.tick {} with
          caches := Function.update w.caches id
            ((w.caches id).check p.nonce p.qop n expires now).2 } := by
  rw [replayDecisions, checkReplay, hn]
  rfl

theorem replayDecisions_shared (hn : p.ncOrdinal = some n) :
    replayDecisions .shared ((p, expires, now) :: rest) w =
      (w.nonces.checkAndRecord p.nonce n expires).1 ::
        replayDecisions .shared rest { w.tick {} with
          nonces := (w.nonces.checkAndRecord p.nonce n expires).2 } := by
  have hanswer : ∀ b, b = decide (some b = some true) := by decide
  rw [replayDecisions, checkReplay, hn, hanswer (w.nonces.checkAndRecord p.nonce n expires).1]
  rfl

theorem replayDecisions_invalid (state : ReplayState) (hn : p.ncOrdinal = none) :
    replayDecisions state ((p, expires, now) :: rest) w =
      false :: replayDecisions state rest w := by
  rw [replayDecisions, checkReplay, hn]
  rfl

end Decisions

/-- The decisions on a sequence of requests whose nonces fit the cache, from stores that
say the same. -/
theorem StoresMatch.decisions (legacy : String → Prop) {nonces : Finset String} (id : Nat)
    (hcard : nonces.card ≤ nonceCacheMax) (reqs : List (Presented × Instant × Instant))
    (hnonces : ∀ q ∈ reqs, q.1.nonce ∈ nonces)
    (hnc : ∀ q ∈ reqs, ∀ n, q.1.ncOrdinal = some n → n.toNat < 2 ^ 63)
    (hlegacy : ∀ q ∈ reqs, legacy q.1.nonce ↔ q.1.qop = "") :
    ∀ w w', (∀ k ∈ (w.caches id).m, k ∈ nonces) →
      StoresMatch legacy (w.caches id) w'.nonces →
      replayDecisions (.process id) reqs w = replayDecisions .shared reqs w' := by
  induction reqs with
  | nil =>
    intro w w' _ _
    rfl
  | cons q rest ih =>
    intro w w' hsub hmatch
    obtain ⟨p, expires, now⟩ := q
    have ih := ih (fun q hq => hnonces q (.tail _ hq)) (fun q hq => hnc q (.tail _ hq))
      (fun q hq => hlegacy q (.tail _ hq))
    cases hn : p.ncOrdinal with
    | none =>
      rw [replayDecisions_invalid _ _ _ _ _ hn, replayDecisions_invalid _ _ _ _ _ hn,
        ih w w' hsub hmatch]
    | some n =>
      have hp : p.nonce ∈ nonces := hnonces _ (.head _)
      have hroom := room_of_subset hcard hsub hp
      obtain ⟨hsame, hmatch'⟩ := hmatch.step expires now hroom (hlegacy _ (.head _)) hn
        (hnc _ (.head _) n hn)
      rw [replayDecisions_process _ _ _ _ _ hn, replayDecisions_shared _ _ _ _ hn, hsame]
      refine congrArg _ (ih _ _ ?_ ?_)
      · dsimp only
        rw [Function.update_self]
        intro k hk
        unfold check record at hk
        rw [if_pos hroom, dif_pos hroom] at hk
        rcases (mem_insert _).mp hk with rfl | hk
        · exact hp
        · exact hsub k hk
      · dsimp only
        rw [Function.update_self]
        exact hmatch'

/-- As long as the cache has room for the nonces of the requests, no nonce count exceeds
the signed 64 bits of the column and no nonce is used both with and without qop, the cache
of a process and the shared table accept the same requests. -/
theorem replay_stores_agree (reqs : List (Presented × Instant × Instant)) (start : Instant)
    (id : Nat) (hroom : (reqs.map fun q => q.1.nonce).dedup.length ≤ nonceCacheMax)
    (hnc : ∀ q ∈ reqs, ∀ n, q.1.ncOrdinal = some n → n.toNat < 2 ^ 63)
    (hqop : ∀ q ∈ reqs, ∀ q' ∈ reqs, q.1.nonce = q'.1.nonce → (q.1.qop = "" ↔ q'.1.qop = "")) :
    replayDecisions (.process id) reqs (.init start) =
      replayDecisions .shared reqs (.init start) := by
  have hmem : ∀ q ∈ reqs, q.1.nonce ∈ (reqs.map (·.1.nonce)).toFinset := by
    intro q hq
    exact mem_toFinset.mpr (mem_map_of_mem hq)
  rw [← card_toFinset] at hroom
  refine StoresMatch.decisions (fun nonce => ∃ q ∈ reqs, q.1.nonce = nonce ∧ q.1.qop = "") id
    hroom reqs hmem hnc ?_ _ _ ?_ ?_
  · intro q hq
    constructor
    · rintro ⟨q', hq', hnonce, hlegacy⟩
      exact (hqop q hq q' hq' hnonce.symm).mpr hlegacy
    · intro hlegacy
      exact ⟨q, hq, rfl, hlegacy⟩
  · intro k hk
    exact absurd hk (notMem_empty k)
  · refine ⟨fun _ => Iff.rfl, ?_⟩
    intro nonce st row hst _
    cases hst

/-- The first three requests of a device that replays its second one, and a request without
qop on another nonce. -/
def plainUses : List (Presented × Instant × Instant) :=
  [(⟨"a", "auth", "00000001"⟩, 9, 0), (⟨"a", "auth", "0000000A"⟩, 9, 1),
    (⟨"a", "auth", "0000000a"⟩, 9, 2), (⟨"b", "", ""⟩, 9, 3)]

theorem replay_stores_agree_plain :
    replayDecisions .shared plainUses (.init 0) = [true, true, false, true] ∧
      replayDecisions (.process 0) plainUses (.init 0) =
        replayDecisions .shared plainUses (.init 0) := by
  refine ⟨by decide +kernel, replay_stores_agree plainUses 0 0 ?_ ?_ ?_⟩
  · decide +kernel
  · have hfit : ∀ q ∈ plainUses, q.1.ncOrdinal.all (·.toNat < 2 ^ 63) = true := by decide +kernel
    intro q hq n hn
    simpa [hn] using hfit q hq
  · decide +kernel

/-- A nonce used with and then without qop. -/
def mixedUses : List (Presented × Instant × Instant) :=
  [(⟨"a", "auth", "00000001"⟩, 9, 0), (⟨"a", "", ""⟩, 9, 1)]

/-- A nonce count of 2⁶³, then a count of one. -/
def largeUses : List (Presented × Instant × Instant) :=
  [(⟨"a", "auth", "8000000000000000"⟩, 9, 0), (⟨"a", "auth", "1"⟩, 9, 1)]

/-- Only the table counts the mixed uses as one, and only the table takes the count of one
for the higher of the large ones. -/
theorem replay_stores_differ :
    replayDecisions (.process 0) mixedUses (.init 0) = [true, true] ∧
      replayDecisions .shared mixedUses (.init 0) = [true, false] ∧
      replayDecisions (.process 0) largeUses (.init 0) = [true, false] ∧
      replayDecisions .shared largeUses (.init 0) = [true, true] := by
  decide +kernel

end Acs
