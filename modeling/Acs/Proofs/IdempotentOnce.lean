/-
An idempotency key lets the handler run once.

The UPDATE that completes a key and the DELETE that releases it find the row by account
and key alone.  It is the row of their own request as long as no run takes more than the TTL:
a claim that is under way and not older has its row, in flight (`World.Consistent`), because
the row cannot have been expired and nobody else holds the same claim, each being won once and
used up once (`Pool.run_tokens`).

So a row changes only when its own claim ends, or when it has expired (`row_step`).  What
requests are told follows from the row being the same from their first statement to their
last.
-/
import Acs.Bss.Idempotency

namespace Acs.Idempotency

open List Idempotency.Stmt Pool Idempotency.World AList KeyRow

/-! ### Claims as tokens -/

/-- The claims a statement hands out: that of an INSERT that won, and that of a run with
the answer in it. -/
def Stmt.issues : (s : Stmt) → s.Res → Set Claim
  | .insert .., r => {c | (show Option (Option Claim) from r) = some (some c)}
  | .run (some c), h => {{ c with handled := some h }}
  | _, _ => ∅

def Stmt.spends : Stmt → Option Claim
  | .run c => c
  | .complete c _ => some c
  | .release c => some c
  | _ => none

def World.held (w : World) : Set Claim :=
  {c | c ∈ w.underway}

/-- The handler runs, and its answer is stored or the key released, within the TTL of
the claim. -/
def OnceEvent.timely (ev : OnceEvent) : Bool :=
  match ev.stmt.spends with
  | none => true
  | some c => ev.post.now ≤ c.since + idempotencyTTL

/-- What a request does with its claim: the handler runs first, and what it answers decides
how the claim ends. -/
def Stmt.Proper : Stmt → Prop
  | .run (some c) => c.handled = none
  | .complete c resp => ∃ h, c.handled = some h ∧ h.recorded.status < 500 ∧ resp = h.response
  | .release c => ∃ h, c.handled = some h ∧ 500 ≤ h.recorded.status
  | _ => True

/-! ### Rows -/

section Rows

variable (w : World) (accountID key a k : String)

theorem expire_frame : (w.expire accountID key).underway = w.underway ∧
    (w.expire accountID key).claims = w.claims ∧ (w.expire accountID key).now = w.now := by
  unfold World.expire
  split
  · exact ⟨rfl, rfl, rfl⟩
  · split <;> exact ⟨rfl, rfl, rfl⟩

variable {row : KeyRow}

theorem row_expire (h : w.row a k = some row) :
    (w.expire accountID key).row a k = some row ∨
    (w.expire accountID key).row a k = none ∧ (accountID, key) = (a, k) ∧
      row.createdAt + idempotencyTTL < w.now := by
  unfold World.expire
  split
  · exact .inl h
  next found hfound =>
    split
    next hold =>
      by_cases hid : (accountID, key) = (a, k)
      · obtain ⟨rfl, rfl⟩ := Prod.mk.inj hid
        cases hfound.symm.trans h
        exact .inr ⟨lookup_erase _ _, hid, hold⟩
      · exact .inl ((lookup_erase_ne (Ne.symm hid)).trans h)
    · exact .inl h

theorem insert_cases (op digest : String) :
    w.insert accountID key op digest = (none, w) ∨
    ∃ c, (w.insert accountID key op digest).1 = some c ∧ c.number = w.claims ∧
      c.handled = none ∧
      (w.insert accountID key op digest).2.underway = c :: w.underway ∧
      (w.insert accountID key op digest).2.claims = w.claims + 1 ∧
      (w.insert accountID key op digest).2.now = w.now := by
  unfold World.insert
  split
  · exact .inl rfl
  · exact .inr ⟨_, rfl, rfl, rfl, rfl, rfl, rfl⟩

theorem row_insert {op digest : String} (h : w.row a k = some row) :
    (w.insert accountID key op digest).2.row a k = some row := by
  unfold World.insert
  split
  · exact h
  next hnone =>
    have hid : (a, k) ≠ (accountID, key) := by
      rintro heq
      obtain ⟨rfl, rfl⟩ := Prod.mk.inj heq
      cases hnone.symm.trans h
    exact (lookup_insert_ne hid).trans h

theorem row_complete {c : Claim} {resp : IdempotentResponse} (h : w.row a k = some row) :
    (w.complete c resp).row a k = some (if c.id = (a, k) then row.complete resp else row) := by
  by_cases hid : c.id = (a, k)
  · obtain ⟨rfl, rfl⟩ := Prod.mk.inj hid
    simp only [World.complete] at h ⊢
    rw [h, if_pos hid]
    exact lookup_insert _
  · simp only [World.complete] at h ⊢
    rw [if_neg hid]
    split
    · exact h
    · exact (lookup_insert_ne (Ne.symm hid)).trans h

theorem row_release {c : Claim} (h : w.row a k = some row) :
    (w.release c).row a k = some row ∨
    (w.release c).row a k = none ∧ c.id = (a, k) ∧ row.status = none := by
  simp only [World.release] at h ⊢
  split
  next found hfound =>
    split
    next hstatus =>
      by_cases hid : c.id = (a, k)
      · obtain ⟨rfl, rfl⟩ := Prod.mk.inj hid
        cases hfound.symm.trans h
        exact .inr ⟨lookup_erase _ _, hid, hstatus⟩
      · exact .inl ((lookup_erase_ne (Ne.symm hid)).trans h)
    · exact .inl h
  · exact .inl h

end Rows

/-! ### The invariant -/

/-- The row of a claim: in flight, and as old as the claim. -/
structure KeyRow.Of (row : KeyRow) (c : Claim) : Prop where
  claim : row.claim = c.number
  inFlight : row.status = none
  age : row.createdAt = c.since

/-- Claims are numbered apart, and one that is under way and not older than the TTL has
its row. -/
structure World.Consistent (w : World) : Prop where
  numbered : ∀ c ∈ w.underway, c.number < w.claims
  distinct : (w.underway.map (·.number)).Nodup
  kept : ∀ c ∈ w.underway, w.now ≤ c.since + idempotencyTTL →
    ∃ row, w.row c.accountID c.key = some row ∧ row.Of c

namespace World.Consistent

variable {w : World} (h : w.Consistent)

include h

variable {c : Claim}

theorem eq_of_number {c' : Claim} (hc : c ∈ w.underway) (hc' : c' ∈ w.underway)
    (hnumber : c.number = c'.number) : c = c' :=
  inj_on_of_nodup_map h.distinct hc hc' hnumber

theorem mem_erase {c' : Claim} (hc : c ∈ w.underway) (hc' : c' ∈ w.underway.erase c) :
    c' ∈ w.underway ∧ c'.number ≠ c.number := by
  have hnodup : w.underway.Nodup := h.distinct.of_map
  obtain ⟨hne, hmem⟩ := (hnodup.mem_erase_iff).mp hc'
  exact ⟨hmem, fun hnumber => hne (h.eq_of_number hmem hc hnumber)⟩

theorem later (n : Nat) : (w.later n).Consistent where
  numbered := h.numbered
  distinct := h.distinct
  kept := fun c hc hnow => h.kept c hc (le_trans (Nat.le_add_right _ _) hnow)

theorem expire (accountID key : String) : (w.expire accountID key).Consistent := by
  obtain ⟨hunderway, hclaims, hnow⟩ := expire_frame w accountID key
  refine ⟨by rw [hunderway, hclaims]; exact h.numbered, by rw [hunderway]; exact h.distinct, ?_⟩
  rw [hunderway, hnow]
  intro c hc hintime
  obtain ⟨row, hrow, hof⟩ := h.kept c hc hintime
  rcases row_expire w accountID key c.accountID c.key hrow with hrow' | ⟨-, -, hold⟩
  · exact ⟨row, hrow', hof⟩
  · rw [hof.age] at hold
    exact absurd hintime (Nat.not_le_of_lt hold)

theorem insert (accountID key op digest : String) :
    (w.insert accountID key op digest).2.Consistent := by
  cases hrow : w.row accountID key with
  | some row =>
    have hsame : (w.insert accountID key op digest).2 = w := by
      simp only [World.insert, hrow]
    rw [hsame]
    exact h
  | none =>
    simp only [World.insert, hrow]
    refine ⟨?_, ?_, ?_⟩
    · intro c hc
      rcases mem_cons.mp hc with rfl | hc
      · exact Nat.lt_succ_self _
      · exact Nat.lt_succ_of_lt (h.numbered c hc)
    · refine nodup_cons.mpr ⟨?_, h.distinct⟩
      intro hmem
      obtain ⟨c, hc, hnumber⟩ := mem_map.mp hmem
      exact lt_irrefl _ (hnumber ▸ h.numbered c hc)
    · intro c hc hintime
      rcases mem_cons.mp hc with rfl | hc
      · exact ⟨_, lookup_insert _, rfl, rfl, rfl⟩
      · obtain ⟨row, hfound, hof⟩ := h.kept c hc hintime
        have hid : (c.accountID, c.key) ≠ (accountID, key) := by
          intro heq
          obtain ⟨rfl, rfl⟩ := Prod.mk.inj heq
          cases hrow.symm.trans hfound
        exact ⟨row, (lookup_insert_ne hid).trans hfound, hof⟩

theorem handle (hc : c ∈ w.underway) (answer : Handled) :
    (w.handle c answer).Consistent where
  numbered := by
    intro c' hc'
    rcases mem_cons.mp hc' with rfl | hc'
    · exact h.numbered c hc
    · exact h.numbered c' (mem_of_mem_erase hc')
  distinct := by
    refine nodup_cons.mpr ⟨?_, h.distinct.sublist (erase_sublist.map _)⟩
    intro hmem
    obtain ⟨c', hc', hnumber⟩ := mem_map.mp hmem
    exact (h.mem_erase hc hc').2 hnumber
  kept := by
    intro c' hc' hintime
    rcases mem_cons.mp hc' with rfl | hc'
    · obtain ⟨row, hrow, hof⟩ := h.kept c hc hintime
      exact ⟨row, hrow, hof.claim, hof.inFlight, hof.age⟩
    · exact h.kept c' (mem_of_mem_erase hc') hintime

/-- A claim that ends takes only its own row with it. -/
theorem erase {w' : World} (hc : c ∈ w.underway) (hintime : w.now ≤ c.since + idempotencyTTL)
    (hunderway : w'.underway = w.underway.erase c) (hclaims : w'.claims = w.claims)
    (hnow : w'.now = w.now)
    (hrows : ∀ a k row, w.row a k = some row → c.id ≠ (a, k) → w'.row a k = some row) :
    w'.Consistent where
  numbered := by
    rw [hunderway, hclaims]
    exact fun c' hc' => h.numbered c' (mem_of_mem_erase hc')
  distinct := by
    rw [hunderway]
    exact h.distinct.sublist (erase_sublist.map _)
  kept := by
    rw [hunderway, hnow]
    intro c' hc' hintime'
    obtain ⟨hmem, hnumber⟩ := h.mem_erase hc hc'
    obtain ⟨row', hrow', hof'⟩ := h.kept c' hmem hintime'
    refine ⟨row', hrows _ _ row' hrow' fun hid => ?_, hof'⟩
    -- Two claims that have the same row have the same number.
    obtain ⟨row, hrow, hof⟩ := h.kept c hc hintime
    obtain ⟨ha, hk⟩ := Prod.mk.inj hid
    rw [ha, hk, hrow'] at hrow
    cases hrow
    exact hnumber (hof'.claim.symm.trans hof.claim)

theorem complete (hc : c ∈ w.underway) (hintime : w.now ≤ c.since + idempotencyTTL)
    (resp : IdempotentResponse) : (w.complete c resp).Consistent := by
  refine h.erase hc hintime rfl rfl rfl fun a k row hrow hid => ?_
  rw [row_complete w a k hrow, if_neg hid]

theorem release (hc : c ∈ w.underway) (hintime : w.now ≤ c.since + idempotencyTTL) :
    (w.release c).Consistent := by
  refine h.erase hc hintime rfl rfl rfl fun a k row hrow hid => ?_
  rcases row_release w a k (c := c) hrow with hrow' | ⟨-, heq, -⟩
  · exact hrow'
  · exact absurd heq hid

end World.Consistent

/-! ### One statement -/

/-- What a statement makes of the table when it is carried out. -/
def Stmt.after (w : World) (answer : Handled) : Stmt → World
  | .expire accountID key => w.expire accountID key
  | .insert accountID key op digest =>
    (w.insert accountID key op digest).2
  | .run (some c) => w.handle c answer
  | .complete c resp => w.complete c resp
  | .release c => w.release c
  | _ => w

theorem exec_keeps {I : World → Prop} (s : Stmt) (ch : Choice) {w : World}
    (h : I (w.later ch.elapsed)) (hafter : I (s.after (w.later ch.elapsed) ch.handled)) :
    I (s.exec ch w).2 := by
  cases s with
  | run c => cases c <;> exact hafter
  | respond req resp => exact h
  | _ => exact ch.delivery.deliver_keeps h hafter

theorem now_exec (s : Stmt) (ch : Choice) (w : World) :
    (s.exec ch w).2.now = w.now + ch.elapsed := by
  refine exec_keeps (I := (·.now = _)) s ch rfl ?_
  cases s with
  | expire accountID key => exact (expire_frame (w.later ch.elapsed) accountID key).2.2
  | insert accountID key op digest =>
    rcases insert_cases (w.later ch.elapsed) accountID key op digest with
      heq | ⟨c, -, -, -, -, -, hnow⟩
    · rw [Stmt.after, heq]
      rfl
    · exact hnow
  | run c => cases c <;> rfl
  | _ => rfl

/-- What a statement that finds the row leaves of it: all, unless it expires the row or ends
the row's own claim. -/
def KeyRow.Left (row : KeyRow) (a k : String) (s : Stmt) (w : World) : Prop :=
  w.row a k = some row ∨
  w.row a k = none ∧
    (s = .expire a k ∧ row.createdAt + idempotencyTTL < w.now ∨
      ∃ c, s = .release c ∧ c.id = (a, k) ∧ row.Of c) ∨
  ∃ c resp, s = .complete c resp ∧ c.id = (a, k) ∧ row.Of c ∧
    w.row a k = some (row.complete resp)

section Exec

variable {w : World} {s : Stmt} {ch : Choice} {c : Claim}

theorem later_of_timely (htimely : OnceEvent.timely (fire Stmt.exec s ch w))
    (hc : s.spends = some c) : (w.later ch.elapsed).now ≤ c.since + idempotencyTTL := by
  simp only [OnceEvent.timely, fire, hc, now_exec, decide_eq_true_eq] at htimely
  exact htimely

variable (h : w.Consistent) (hheld : ∀ c, s.spends = some c → c ∈ w.underway)
variable (htimely : OnceEvent.timely (fire Stmt.exec s ch w))

include h hheld htimely

/-- A statement that uses only claims that are under way, in time, keeps the others. -/
theorem World.Consistent.step (hproper : s.Proper) :
    (fire Stmt.exec s ch w).Honest issues spends held ∧
      (s.exec ch w).2.Consistent := by
  have h' : (w.later ch.elapsed).Consistent := h.later ch.elapsed
  have herase : ∀ c, s.spends = some c → ∀ c' ∈ w.underway, s.spends ≠ some c' →
      c' ∈ w.underway.erase c := fun c hc c' hc' hne =>
    (mem_erase_of_ne fun heq : c' = c => hne (heq ▸ hc)).mpr hc'
  have hkept : (∀ c ∈ w.underway, s.spends ≠ some c → c ∈ (s.exec ch w).2.underway) ∧
      (s.exec ch w).2.Consistent := by
    refine exec_keeps (I := fun w' => (∀ c ∈ w.underway, s.spends ≠ some c → c ∈ w'.underway) ∧
      w'.Consistent) s ch ⟨fun c hc _ => hc, h'⟩ ?_
    cases s with
    | expire accountID key =>
      refine ⟨fun c hc _ => ?_, h'.expire accountID key⟩
      rw [Stmt.after, (expire_frame (w.later ch.elapsed) accountID key).1]
      exact hc
    | insert accountID key op digest =>
      refine ⟨fun c hc _ => ?_, h'.insert accountID key op digest⟩
      rcases insert_cases (w.later ch.elapsed) accountID key op digest with
        heq | ⟨c', -, -, -, hunderway, -⟩
      · rw [Stmt.after, heq]
        exact hc
      · rw [Stmt.after, hunderway]
        exact mem_cons_of_mem _ hc
    | run c =>
      cases c with
      | none => exact ⟨fun c hc _ => hc, h'⟩
      | some c =>
        exact ⟨fun c' hc' hne => mem_cons_of_mem _ (herase c rfl c' hc' hne),
          h'.handle (hheld c rfl) _⟩
    | complete c resp =>
      exact ⟨herase c rfl, h'.complete (hheld c rfl) (later_of_timely htimely rfl) resp⟩
    | release c => exact ⟨herase c rfl, h'.release (hheld c rfl) (later_of_timely htimely rfl)⟩
    | _ => exact ⟨fun c hc _ => hc, h'⟩
  refine ⟨⟨hkept.1, fun c hc => ?_⟩, hkept.2⟩
  cases s with
  | insert accountID key op digest =>
    have hanswer : (ch.delivery.deliver
        ((w.later ch.elapsed).insert accountID key op digest).1
        (w.later ch.elapsed) _).1 = some (some c) := hc
    obtain ⟨hwon, hstate⟩ := ch.delivery.deliver_answer _ _ _ hanswer
    rcases insert_cases (w.later ch.elapsed) accountID key op digest with
      heq | ⟨c', hc', hnumber, -, hunderway, -⟩
    · rw [heq] at hwon
      cases hwon
    · cases hwon.trans hc'
      refine ⟨fun hmem => ?_, ?_⟩
      · exact lt_irrefl _ (hnumber ▸ h'.numbered c hmem)
      · show c ∈ (ch.delivery.deliver _ (w.later ch.elapsed) _).2.underway
        rw [hstate, hunderway]
        exact mem_cons_self
  | run ran =>
    cases ran with
    | none => exact hc.elim
    | some ran =>
      obtain rfl : c = _ := hc
      refine ⟨fun hmem => ?_, mem_cons_self⟩
      have heq := congrArg Claim.handled (h.eq_of_number hmem (hheld ran rfl) rfl)
      cases heq.trans hproper
  | _ => exact hc.elim

theorem World.Consistent.row_step {a k : String} {row : KeyRow} (hrow : w.row a k = some row) :
    row.Left a k s (s.exec ch w).2 := by
  have hrow' : (w.later ch.elapsed).row a k = some row := hrow
  -- The row found by a claim that is used in time is that of the claim.
  have hof : ∀ c, s.spends = some c → c.id = (a, k) → row.Of c := by
    intro c hc hid
    obtain ⟨ha, hk⟩ := Prod.mk.inj hid
    obtain ⟨found, hfound, hof⟩ := h.kept c (hheld c hc)
      (le_trans (Nat.le_add_right _ _) (later_of_timely htimely hc))
    rw [ha, hk, hrow] at hfound
    cases hfound
    exact hof
  refine exec_keeps (I := row.Left a k s) s ch (.inl hrow') ?_
  cases s with
  | expire accountID key =>
    rcases row_expire _ accountID key a k hrow' with hsame | ⟨hgone, hid, hold⟩
    · exact .inl hsame
    · obtain ⟨rfl, rfl⟩ := Prod.mk.inj hid
      rw [← (expire_frame (w.later ch.elapsed) accountID key).2.2] at hold
      exact .inr (.inl ⟨hgone, .inl ⟨rfl, hold⟩⟩)
  | insert accountID key op digest =>
    exact .inl (row_insert _ accountID key a k hrow')
  | run c => cases c <;> exact .inl hrow
  | complete c resp =>
    have hpost : ((w.later ch.elapsed).complete c resp).row a k = _ := row_complete _ a k hrow'
    by_cases hid : c.id = (a, k)
    · rw [if_pos hid] at hpost
      exact .inr (.inr ⟨c, resp, rfl, hid, hof c rfl hid, hpost⟩)
    · rw [if_neg hid] at hpost
      exact .inl hpost
  | release c =>
    rcases row_release (w.later ch.elapsed) a k (c := c) hrow' with hsame | ⟨hgone, hid, -⟩
    · exact .inl hsame
    · exact .inr (.inl ⟨hgone, .inr ⟨c, rfl, hid, hof c rfl hid⟩⟩)
  | _ => exact .inl hrow

end Exec

/-- The handler has run under claim `n`. -/
def World.Spent (n : Nat) (w : World) : Prop :=
  n < w.claims ∧ ∀ c ∈ w.underway, c.number = n → c.handled ≠ none

variable {w : World} {W : Stmt → Prop} {a k : String} {row : KeyRow}

theorem World.Spent.step {n : Nat} (h : w.Spent n) (s : Stmt) (ch : Choice) :
    (s.exec ch w).2.Spent n := by
  refine exec_keeps (I := World.Spent n) s ch h ?_
  have herase : ∀ c, ∀ c' ∈ w.underway.erase c, c'.number = n → c'.handled ≠ none :=
    fun c c' hc' => h.2 c' (mem_of_mem_erase hc')
  cases s with
  | expire accountID key =>
    obtain ⟨hunderway, hclaims, -⟩ := expire_frame (w.later ch.elapsed) accountID key
    rw [World.Spent, Stmt.after, hclaims, hunderway]
    exact h
  | insert accountID key op digest =>
    rcases insert_cases (w.later ch.elapsed) accountID key op digest with
      heq | ⟨c, -, hnumber, -, hunderway, hclaims, -⟩
    · rw [Stmt.after, heq]
      exact h
    · rw [World.Spent, Stmt.after, hclaims, hunderway]
      refine ⟨Nat.lt_succ_of_lt h.1, fun c' hc' hn => ?_⟩
      rcases mem_cons.mp hc' with rfl | hc'
      · exact absurd (hn.symm.trans hnumber) (ne_of_lt h.1)
      · exact h.2 c' hc' hn
  | run c =>
    cases c with
    | none => exact h
    | some c =>
      refine ⟨h.1, fun c' hc' hn => ?_⟩
      rcases mem_cons.mp hc' with rfl | hc'
      · exact Option.some_ne_none _
      · exact herase c c' hc' hn
  | complete c | release c => exact ⟨h.1, herase c⟩
  | _ => exact h

/-- Once the handler has run under a claim, it has. -/
theorem World.Consistent.spent_run (h : w.Consistent) {c : Claim} (hc : c ∈ w.underway)
    (ch : Choice) : ((Stmt.run (some c)).exec ch w).2.Spent c.number := by
  refine ⟨h.numbered c hc, fun c' hc' hn => ?_⟩
  rcases mem_cons.mp hc' with rfl | hc'
  · exact Option.some_ne_none _
  · exact absurd hn (h.mem_erase hc hc').2

/-! ### Programs -/

theorem runClaimed_spends (req : Request) {c : Claim} {held : Set Claim} (hc : c ∈ held) :
    (runClaimed req c).Spends issues spends (fun _ _ => True) (fun _ _ => True) held := by
  refine ⟨?_, fun answer _ => ⟨nofun, fun _ _ => ?_⟩⟩
  · rintro _ ⟨⟩
    exact hc
  · split
    · refine ⟨?_, fun _ _ => trivial⟩
      rintro _ ⟨⟩
      exact .inl ⟨.inr rfl, nofun⟩
    · refine ⟨?_, fun _ _ => trivial⟩
      rintro _ ⟨⟩
      exact .inl ⟨.inr rfl, nofun⟩

theorem answerTo_ne_claimed (op digest : String) (row : Option KeyRow) (c : Claim) :
    answerTo op digest row ≠ .claimed c := by
  unfold answerTo
  split
  · nofun
  · split
    · nofun
    · split <;> nofun

theorem idempotent_spends (hash : String → String) (req : Request) :
    (idempotent hash req).Spends issues spends (fun _ _ => True) (fun _ _ => True) ∅ := by
  have hbegin : ∀ accountID key op digest,
      (beginIdempotent accountID key op digest).Spends issues spends (fun _ _ => True)
        (fun b held => ∀ c, b = .claimed c → c ∈ held) ∅ := by
    intro accountID key op digest
    refine ⟨nofun, fun r _ => ?_⟩
    cases r with
    | none => nofun
    | some _ =>
      refine ⟨nofun, fun r _ => ?_⟩
      rcases r with _ | _ | c
      · nofun
      · refine ⟨nofun, fun r _ => ?_⟩
        cases r with
        | none => nofun
        | some row => exact fun c hc => absurd hc (answerTo_ne_claimed _ _ _ c)
      · rintro _ ⟨⟩
        exact .inr rfl
  have hrespond : ∀ resp held,
      (respond req resp).Spends issues spends (fun _ _ => True) (fun _ _ => True) held :=
    fun resp held => ⟨nofun, fun _ _ => trivial⟩
  unfold idempotent
  split
  · exact ⟨nofun, fun _ _ => hrespond _ _⟩
  · split
    · exact hrespond _ _
    · refine (hbegin _ _ _ _).bind fun b held hb => ?_
      cases b with
      | mismatch | inFlight | failed | stored => exact hrespond _ _
      | claimed c => exact runClaimed_spends req (hb c rfl)

/-- What an INSERT that has won tells: a claim under which nothing has been done. -/
def Stmt.Won : (s : Stmt) → s.Res → Prop
  | .insert .., r =>
    ∀ c, (show Option (Option Claim) from r) = some (some c) → c.handled = none
  | _, _ => True

/-- The rule for a request: what it answers, what `BeginIdempotent` comes to, and what it
does with the claim. -/
theorem idempotent_all {R : (s : Stmt) → s.Res → Prop} {B : Begun → Prop} (hash : String → String)
    (req : Request) (hrespond : ∀ resp, (respond req resp).Issues R W)
    (hrun : W (.run none))
    (hbegin : ∀ accountID key op digest,
      (beginIdempotent accountID key op digest).All R W B)
    (hclaimed : ∀ c, B (.claimed c) → (runClaimed req c).Issues R W) :
    (idempotent hash req).Issues R W := by
  unfold idempotent
  split
  · exact ⟨hrun, fun _ _ => hrespond _⟩
  · split
    · exact hrespond _
    · refine (hbegin _ _ _ _).bind fun b hb => ?_
      cases b with
      | mismatch | inFlight | failed | stored => exact hrespond _
      | claimed c => exact hclaimed c hb

theorem beginIdempotent_won (accountID key op digest : String)
    (hexpire : W (.expire accountID key))
    (hinsert : W (.insert accountID key op digest))
    (hselect : W (.select accountID key)) :
    (beginIdempotent accountID key op digest).All Won W
      fun b => ∀ c, b = .claimed c → c.handled = none := by
  refine ⟨hexpire, fun r _ => ?_⟩
  cases r with
  | none => nofun
  | some _ =>
    refine ⟨hinsert, fun r hr => ?_⟩
    rcases r with _ | _ | c
    · nofun
    · refine ⟨hselect, fun r _ => ?_⟩
      cases r with
      | none => nofun
      | some row => exact fun c hc => absurd hc (answerTo_ne_claimed _ _ _ c)
    · rintro _ ⟨⟩
      exact hr c rfl

theorem idempotent_proper (hash : String → String) (req : Request) :
    (idempotent hash req).Issues Won Proper := by
  refine idempotent_all hash req (fun _ => ⟨trivial, fun _ _ => trivial⟩) trivial
    (fun _ _ _ _ => beginIdempotent_won _ _ _ _ trivial trivial trivial) fun c hc => ?_
  refine ⟨hc c rfl, fun answer _ => ⟨trivial, fun _ _ => ?_⟩⟩
  split
  next h => exact ⟨⟨answer, rfl, h⟩, fun _ _ => trivial⟩
  next h => exact ⟨⟨answer, rfl, lt_of_not_ge h, rfl⟩, fun _ _ => trivial⟩

/-- The statement answers no request but this one. -/
def Stmt.RespondsTo (req : Request) (s : Stmt) : Prop :=
  ∀ req' resp, s = .respond req' resp → req' = req

theorem idempotent_responds (hash : String → String) (req : Request) :
    (idempotent hash req).Issues Won (RespondsTo req) := by
  have hrespond : ∀ resp, (respond req resp).Issues Won (RespondsTo req) := by
    refine fun resp => ⟨?_, fun _ _ => trivial⟩
    rintro _ _ ⟨⟩
    rfl
  refine idempotent_all hash req hrespond nofun
    (fun _ _ _ _ => beginIdempotent_won _ _ _ _ nofun
      nofun nofun) fun c _ => ?_
  refine ⟨nofun, fun answer _ => (hrespond _).bind fun _ _ => ?_⟩
  split
  · exact ⟨nofun, fun _ _ => trivial⟩
  · exact ⟨nofun, fun _ _ => trivial⟩

/-! ### What requests are told -/

/-- The request is the one the row was inserted for. -/
def KeyRow.sameRequest (row : KeyRow) (hash : String → String) (req : Request) : Prop :=
  row.operation = req.operation ∧ row.requestHash = hash req.canonical

instance (row : KeyRow) (hash : String → String) (req : Request) :
    Decidable (row.sameRequest hash req) :=
  inferInstanceAs (Decidable (_ ∧ _))

/-- The answer under a row. -/
def KeyRow.answer (row : KeyRow) (hash : String → String) (req : Request) : Response :=
  if row.sameRequest hash req then
    match row.status with
    | none => keyInFlight
    | some status => replayed { status, body := row.response, location := row.location.getD "" }
  else keyReused

theorem answerTo_cases (row : KeyRow) (hash : String → String) (req : Request) :
    ¬ row.sameRequest hash req ∧
      answerTo req.operation (hash req.canonical) (some row) = .mismatch ∨
    row.sameRequest hash req ∧ row.status = none ∧
      answerTo req.operation (hash req.canonical) (some row) = .inFlight ∨
    ∃ status, row.sameRequest hash req ∧ row.status = some status ∧
      answerTo req.operation (hash req.canonical) (some row) =
        .stored { status, body := row.response, location := row.location.getD "" } := by
  by_cases hsame : row.sameRequest hash req
  · have hno : ¬ (row.operation ≠ req.operation ∨ row.requestHash ≠ hash req.canonical) := by
      rintro (hne | hne)
      · exact hne hsame.1
      · exact hne hsame.2
    cases hstatus : row.status with
    | none => exact .inr (.inl ⟨hsame, rfl, by simp only [answerTo, if_neg hno, hstatus]⟩)
    | some status =>
      exact .inr (.inr ⟨status, hsame, rfl, by simp only [answerTo, if_neg hno, hstatus]⟩)
  · have hyes : row.operation ≠ req.operation ∨ row.requestHash ≠ hash req.canonical :=
      not_and_or.mp hsame
    exact .inl ⟨hsame, by simp only [answerTo, if_pos hyes]⟩

/-- The statement got no answer. -/
def Stmt.failed : (s : Stmt) → s.Res → Bool
  | .expire .., r => (show Option Unit from r).isNone
  | .insert .., r => (show Option (Option Claim) from r).isNone
  | .select .., r => (show Option (Option KeyRow) from r).isNone
  | _, _ => false

/-- What statements tell while the key has a row: the row, or that something fails. -/
def Stmt.Finds (a k : String) (row : KeyRow) (fails : Prop) : (s : Stmt) → s.Res → Prop
  | .insert a' k' o hash, r => Won (.insert a' k' o hash) r ∧
      (failed (.insert a' k' o hash) r = true → fails) ∧
      ((a', k') = (a, k) → ∀ c, (show Option (Option Claim) from r) ≠ some (some c))
  | .select a' k', r => (failed (.select a' k') r = true → fails) ∧
      ((a', k') = (a, k) → ∀ found, (show Option (Option KeyRow) from r) = some found →
        found = some row)
  | s, r => s.failed r = true → fails

/-- A request for the key, other than the ones in `old`, is answered from the row. -/
def Stmt.Answers (hash : String → String) (a k : String) (row : KeyRow) (fails : Prop)
    (old : List Request) : Stmt → Prop
  | .respond req resp =>
    req ∉ old → req.accountID = a → req.key = k →
      resp = row.answer hash req ∨ resp = internalError ∧ fails
  | _ => True

/-- A program that is right whatever an INSERT wins is right while the key has a row. -/
theorem finds_of_won {fails : Prop} {p : Prog Res Unit} (h : p.Issues Won W) :
    p.Issues (Finds a k row fails) W := by
  have hwon : ∀ (s : Stmt) r, s.Finds a k row fails r → s.Won r := by
    intro s r hr
    cases s with
    | insert => exact hr.1
    | _ => trivial
  have htrue : p.Issues (fun _ _ => True) (fun _ => True) := Prog.all_true p
  exact (h.both htrue hwon fun _ _ _ => trivial).mono_stmt fun s hs => hs.1

theorem idempotent_answers {hash : String → String} {fails : Prop} {old : List Request}
    (hkey : k ≠ "") (hlen : k.utf8ByteSize ≤ maxIdempotencyKeyLen) (req : Request) :
    (idempotent hash req).Issues (Finds a k row fails) (Answers hash a k row fails old) := by
  by_cases hreq : req ∉ old ∧ req.accountID = a ∧ req.key = k
  · obtain ⟨-, ha, hk⟩ := hreq
    have hrespond : ∀ resp, resp = row.answer hash req ∨ resp = internalError ∧ fails →
        (respond req resp).Issues (Finds a k row fails) (Answers hash a k row fails old) :=
      fun resp h => ⟨fun _ _ _ => h, fun _ _ => trivial⟩
    have hbegin : (beginIdempotent a k req.operation (hash req.canonical)).All
        (Finds a k row fails) (Answers hash a k row fails old) fun b =>
          b = .failed ∧ fails ∨ b = answerTo req.operation (hash req.canonical) (some row) := by
      refine ⟨trivial, fun r hr => ?_⟩
      cases r with
      | none => exact .inl ⟨rfl, hr rfl⟩
      | some _ =>
        refine ⟨trivial, fun r hr => ?_⟩
        rcases r with _ | _ | c
        · exact .inl ⟨rfl, hr.2.1 rfl⟩
        · refine ⟨trivial, fun r hr => ?_⟩
          cases r with
          | none => exact .inl ⟨rfl, hr.1 rfl⟩
          | some found =>
            cases hr.2 rfl found rfl
            exact .inr rfl
        · exact absurd rfl (hr.2.2 rfl c)
    unfold idempotent
    rw [hk, ha, if_neg hkey, if_neg (Nat.not_lt.mpr hlen)]
    refine hbegin.bind fun b hb => ?_
    rcases hb with ⟨rfl, hfails⟩ | rfl
    · exact hrespond _ (.inr ⟨rfl, hfails⟩)
    · rcases answerTo_cases row hash req with
        ⟨hsame, hbegun⟩ | ⟨hsame, hstatus, hbegun⟩ | ⟨status, hsame, hstatus, hbegun⟩
      · rw [hbegun]
        exact hrespond _ (.inl (by rw [answer, if_neg hsame]))
      · rw [hbegun]
        exact hrespond _ (.inl (by rw [answer, if_pos hsame, hstatus]))
      · rw [hbegun]
        exact hrespond _ (.inl (by rw [answer, if_pos hsame, hstatus]))
  · -- The request is not for the key, or an old one.
    have hother : ∀ s : Stmt, s.RespondsTo req → s.Answers hash a k row fails old := by
      intro s hs
      cases s with
      | respond req' resp =>
        cases hs req' resp rfl
        exact fun hold ha hk => absurd ⟨hold, ha, hk⟩ hreq
      | _ => trivial
    exact (finds_of_won (idempotent_responds hash req)).mono_stmt hother

/-! ### Every run -/

namespace OnceEvent

/-- The handler runs for a request with this key. -/
def runs (a k : String) (ev : OnceEvent) : Prop :=
  ∃ c, ev.stmt = .run (some c) ∧ c.id = (a, k)

/-- The key is free again. -/
def frees (a k : String) (ev : OnceEvent) : Prop :=
  (ev.pre.row a k).isSome = true ∧ ev.post.row a k = none

/-- The answer of claim `n` is stored, or its key released. -/
def ends (n : Nat) (ev : OnceEvent) : Prop :=
  ∃ c, c.number = n ∧ (ev.stmt = .release c ∨ ∃ resp, ev.stmt = .complete c resp)

def fails (ev : OnceEvent) : Bool :=
  ev.stmt.failed ev.res

/-- What is known of each event of a timely run. -/
structure Fine (ev : OnceEvent) : Prop where
  owned : ev.Owned Stmt.exec spends held Consistent
  proper : ev.stmt.Proper
  timely : ev.timely

variable {ev : OnceEvent} (h : ev.Fine)

include h

variable {a k : String}

theorem Fine.row_step {row : KeyRow} (hrow : ev.pre.row a k = some row) :
    row.Left a k ev.stmt ev.post := by
  obtain ⟨howned, -, htimely⟩ := h
  obtain ⟨s, ch, w, rfl⟩ := howned.legal.eq_fire
  exact howned.pre.row_step howned.stmt htimely hrow

theorem Fine.spent {n : Nat} (hn : ev.pre.Spent n) : ev.post.Spent n := by
  obtain ⟨s, ch, w, rfl⟩ := h.owned.legal.eq_fire
  exact hn.step s ch

/-- The handler runs under a claim that has its row and under which it has not run. -/
theorem Fine.row_of_runs (hruns : ev.runs a k) :
    ∃ n row, ev.pre.row a k = some row ∧ row.claim = n ∧ ¬ ev.pre.Spent n ∧ ev.post.Spent n ∧
      ev.post.row a k = some row := by
  obtain ⟨c, hstmt, hid⟩ := hruns
  obtain ⟨ha, hk⟩ := Prod.mk.inj hid
  obtain ⟨howned, hproper, htimely⟩ := h
  obtain ⟨s, ch, w, rfl⟩ := howned.legal.eq_fire
  cases hstmt
  have hc : c ∈ w.underway := howned.stmt c rfl
  have hintime : w.now + ch.elapsed ≤ c.since + idempotencyTTL := of_decide_eq_true htimely
  obtain ⟨row, hrow, hof⟩ := howned.pre.kept c hc (le_trans (Nat.le_add_right _ _) hintime)
  rw [ha, hk] at hrow
  exact ⟨c.number, row, hrow, hof.claim, fun hspent => hspent.2 c hc rfl hproper,
    howned.pre.spent_run hc ch, hrow⟩

/-- A key becomes free when it has expired, or after an answer of 500 and above. -/
theorem Fine.frees_cases (hfrees : ev.frees a k) :
    (∃ row, ev.stmt = .expire a k ∧ ev.pre.row a k = some row ∧
      row.createdAt + idempotencyTTL < ev.post.now) ∨
    ∃ c h, ev.stmt = .release c ∧ c.id = (a, k) ∧ c.handled = some h ∧
      500 ≤ h.recorded.status := by
  obtain ⟨hsome, hgone⟩ := hfrees
  obtain ⟨row, hrow⟩ := Option.isSome_iff_exists.mp hsome
  rcases h.row_step hrow with hsame | ⟨-, hfree⟩ | ⟨c, resp, -, -, -, hdone⟩
  · rw [hsame] at hgone
    cases hgone
  · rcases hfree with ⟨hstmt, hold⟩ | ⟨c, hstmt, hid, -⟩
    · exact .inl ⟨row, hstmt, hrow, hold⟩
    · have hproper := h.proper
      rw [hstmt] at hproper
      obtain ⟨h, hhandled, hstatus⟩ := hproper
      exact .inr ⟨c, h, hstmt, hid, hhandled, hstatus⟩
  · rw [hdone] at hgone
    cases hgone

end OnceEvent

variable {hash : String → String}

theorem won_exec (s : Stmt) (ch : Choice) (w : World) : s.Won (s.exec ch w).1 := by
  cases s with
  | insert accountID key op digest =>
    intro c hc
    have hwon := (ch.delivery.deliver_answer _ _ _ hc).1
    rcases insert_cases (w.later ch.elapsed) accountID key op digest with
      heq | ⟨c', hc', -, hnone, -⟩
    · rw [heq] at hwon
      cases hwon
    · cases hwon.trans hc'
      exact hnone
  | _ => trivial

theorem run_fine {as : List Action} (hw : w.Consistent)
    (htimely : ∀ ev ∈ (run hash as w).1, ev.timely) :
    ∀ ev ∈ (run hash as w).1, ev.Fine := by
  have hproper : ∀ ev ∈ (run hash as w).1, ev.stmt.Proper := by
    intro ev hev
    exact (run_rule (J := fun _ => True) (G := fun _ => True)
      (fun s ch w _ _ _ => ⟨won_exec s ch w, trivial⟩) (fun p hp => absurd hp not_mem_nil)
      trivial (fun req _ => idempotent_proper hash req) (fun _ _ => trivial) ev hev).2.stmt
  intro ev hev
  refine ⟨?_, hproper ev hev, htimely ev hev⟩
  refine run_tokens (G := fun ev => OnceEvent.timely ev ∧ ev.stmt.Proper)
    (fun s ch w hG hheld hpre => ?_) hw (fun req _ => idempotent_spends hash req)
    (fun ev hev => ⟨htimely ev hev, hproper ev hev⟩) ev hev
  obtain ⟨hhonest, hpost⟩ := hpre.step hheld hG.1 hG.2
  exact ⟨hhonest, trivial, hpost⟩

/-- Between two runs of the handler the key has been free. -/
theorem freed_between {st st' : World} {ev₁ ev₂ : OnceEvent} {between : List OnceEvent}
    (hchain : Chain st (ev₁ :: between ++ [ev₂]) st')
    (hfine : ∀ ev ∈ ev₁ :: between ++ [ev₂], ev.Fine) (h₁ : ev₁.runs a k) (h₂ : ev₂.runs a k) :
    ∃ ev ∈ between, ev.frees a k := by
  by_contra hnone
  push Not at hnone
  obtain ⟨n, row, -, hclaim, -, hspent, hrow⟩ := (hfine ev₁ (by simp)).row_of_runs h₁
  have hbetween : ∀ ev ∈ between, ev.Fine := fun ev hev => hfine ev (by simp [hev])
  obtain ⟨m, row', hrow', hclaim', hnot, -, -⟩ := (hfine ev₂ (by simp)).row_of_runs h₂
  cases hchain with
  | cons hchain =>
    obtain ⟨mid, hmid, hlast⟩ := hchain.split
    have hmid_eq : mid = ev₂.pre := by
      cases hlast
      rfl
    -- From one run to the other the row belongs to the first claim, which is spent.
    obtain ⟨⟨⟨found, hfound, hfoundclaim⟩, hstill⟩, -⟩ := hmid.keeps
      (I := fun st => (∃ row, st.row a k = some row ∧ row.claim = n) ∧ st.Spent n)
      (fun ev hev ⟨⟨row, hrow, hclaim⟩, hspent⟩ => by
        refine ⟨?_, (hbetween ev hev).spent hspent⟩
        rcases (hbetween ev hev).row_step hrow with hsame | ⟨hgone, -⟩ | ⟨c, resp, -, -, -, hdone⟩
        · exact ⟨row, hsame, hclaim⟩
        · exact absurd ⟨by rw [hrow]; rfl, hgone⟩ (hnone ev hev)
        · exact ⟨_, hdone, hclaim⟩) ⟨⟨row, hrow, hclaim⟩, hspent⟩
    rw [hmid_eq] at hfound hstill
    rw [hfound] at hrow'
    cases hrow'
    rw [← hclaim', hfoundclaim] at hnot
    exact hnot hstill

theorem finds_exec {s : Stmt} {ch : Choice} {fails : Prop} (hrow : w.row a k = some row)
    (hfails : OnceEvent.fails (fire Stmt.exec s ch w) → fails) :
    s.Finds a k row fails (s.exec ch w).1 := by
  have hwon := won_exec s ch w
  have hrow' : (w.later ch.elapsed).row a k = some row := hrow
  cases s with
  | insert accountID key op digest =>
    refine ⟨hwon, hfails, fun hid c hc => ?_⟩
    obtain ⟨rfl, rfl⟩ := Prod.mk.inj hid
    have hanswer := (ch.delivery.deliver_answer _ _ _ hc).1
    simp only [World.insert, hrow'] at hanswer
    cases hanswer
  | select accountID key =>
    refine ⟨hfails, fun hid found hfound => ?_⟩
    obtain ⟨rfl, rfl⟩ := Prod.mk.inj hid
    rw [(ch.delivery.deliver_answer _ _ _ hfound).1]
    exact hrow'
  | expire | run | complete | release | respond => exact hfails

/-- While the key has its row, requests for it that come later are answered from it. -/
theorem answered_from_row {as₁ as₂ : List Action} (hkey : k ≠ "")
    (hlen : k.utf8ByteSize ≤ maxIdempotencyKeyLen)
    (hrow : ∀ ev ∈ (Pool.run Stmt.exec (idempotent hash) as₂ (run hash as₁ w).2).1,
      ev.pre.row a k = some row) :
    ∀ ev ∈ (Pool.run Stmt.exec (idempotent hash) as₂ (run hash as₁ w).2).1,
      ev.stmt.Answers hash a k row
        (∃ e ∈ (Pool.run Stmt.exec (idempotent hash) as₂ (run hash as₁ w).2).1,
          OnceEvent.fails e) (started as₁) := by
  intro ev hev
  refine (run_rule (R := Finds a k row _) (J := fun _ => True)
    (G := fun ev => ev ∈ (Pool.run Stmt.exec (idempotent hash) as₂ (run hash as₁ w).2).1)
    ?_ ?_ trivial (fun req _ => idempotent_answers hkey hlen req) (fun _ h => h) ev hev).2.stmt
  · exact fun s ch w hmem _ _ => ⟨finds_exec (hrow _ hmem) fun hfails => ⟨_, hmem, hfails⟩, trivial⟩
  · -- The threads that are there answer the requests they were started for.
    intro p hp
    have hold := run_threads (R := Won)
      (W := fun s => ∀ req resp, s = .respond req resp → req ∈ started as₁)
      (P := ⟨w, []⟩) (fun p hp => absurd hp not_mem_nil) (fun req hreq =>
        (idempotent_responds hash req).mono_stmt fun s hs req' resp hs' =>
          hs req' resp hs' ▸ started_of_spawned hreq)
      (fun ev hev => by
        obtain ⟨s, ch, w', rfl⟩ := (run_legal as₁ _ ev hev).eq_fire
        exact won_exec s ch w') p hp
    refine (finds_of_won hold).mono_stmt fun s hs => ?_
    cases s with
    | respond req resp => exact fun hnew => absurd (hs req resp rfl) hnew
    | _ => trivial

/-- What happens after `as₁`. -/
def later (hash : String → String) (as₁ as₂ : List Action) (w : World) : List OnceEvent :=
  (Pool.run Stmt.exec (idempotent hash) as₂ (run hash as₁ w).2).1

/-- Every request with the key that is not one of `old` gets this answer, unless a statement
fails. -/
def Answered (evs : List OnceEvent) (old : List Request) (a k : String)
    (answer : Request → Response) : Prop :=
  ∀ ev ∈ evs, ∀ req resp, ev.stmt = .respond req resp → req ∉ old → req.accountID = a →
    req.key = k →
    resp = answer req ∨ resp = internalError ∧ ∃ e ∈ evs, e.fails = true

theorem answered_while {as₁ as₂ : List Action} (hkey : k ≠ "")
    (hlen : k.utf8ByteSize ≤ maxIdempotencyKeyLen)
    (hrow : (run hash as₁ w).2.shared.row a k = some row)
    (hsame : ∀ ev ∈ later hash as₁ as₂ w, ev.pre.row a k = some row → ev.post.row a k = some row) :
    Answered (later hash as₁ as₂ w) (started as₁) a k (row.answer hash) := by
  have hkept := ((run_chain Stmt.exec (idempotent hash) as₂ (run hash as₁ w).2).keeps
    (I := fun st : World => st.row a k = some row) hsame hrow).2
  intro ev hev req resp hstmt hnew ha hk
  have hanswers := answered_from_row hkey hlen (fun ev hev => (hkept ev hev).1) ev hev
  rw [hstmt] at hanswers
  exact hanswers hnew ha hk

section Later

variable {as₁ as₂ : List Action} {w : World} {a k : String} {row : KeyRow}
variable (hkey : k ≠ "") (hlen : k.utf8ByteSize ≤ maxIdempotencyKeyLen)
variable (hlater : ∀ ev ∈ later hash as₁ as₂ w, ev.Fine)
variable (hrow : (run hash as₁ w).2.shared.row a k = some row)

include hkey hlen hlater hrow

theorem stored_answered {status : Nat} (hstatus : row.status = some status)
    (hfree : ∀ ev ∈ later hash as₁ as₂ w, ¬ ev.frees a k) :
    Answered (later hash as₁ as₂ w) (started as₁) a k fun req =>
      if row.sameRequest hash req then
        replayed { status, body := row.response, location := row.location.getD "" }
      else keyReused := by
  have hanswer : row.answer hash = fun req =>
      if row.sameRequest hash req then
        replayed { status, body := row.response, location := row.location.getD "" }
      else keyReused := by
    funext req
    rw [answer, hstatus]
  rw [← hanswer]
  refine answered_while hkey hlen hrow fun ev hev hpre => ?_
  rcases (hlater ev hev).row_step hpre with hsame | ⟨hgone, -⟩ | ⟨c, resp, -, -, hof, -⟩
  · exact hsame
  · exact absurd ⟨by rw [hpre]; rfl, hgone⟩ (hfree ev hev)
  · cases hstatus.symm.trans hof.inFlight

theorem underway_answered {c : Claim} (hof : row.Of c)
    (hquiet : ∀ ev ∈ later hash as₁ as₂ w, ev.post.now ≤ c.since + idempotencyTTL ∧
      ¬ ev.ends c.number) :
    Answered (later hash as₁ as₂ w) (started as₁) a k fun req =>
      if row.sameRequest hash req then keyInFlight else keyReused := by
  have hanswer : row.answer hash = fun req =>
      if row.sameRequest hash req then keyInFlight else keyReused := by
    funext req
    rw [answer, hof.inFlight]
  rw [← hanswer]
  refine answered_while hkey hlen hrow fun ev hev hpre => ?_
  obtain ⟨hintime, hgoes⟩ := hquiet ev hev
  -- Whatever ends the row ends the claim, or comes after the TTL.
  rcases (hlater ev hev).row_step hpre with
    hsame | ⟨-, ⟨-, hold⟩ | ⟨c', hstmt, -, hof'⟩⟩ | ⟨c', resp, hstmt, -, hof', -⟩
  · exact hsame
  · rw [hof.age] at hold
    exact absurd hintime (Nat.not_le_of_lt hold)
  · exact absurd ⟨c', hof'.claim.symm.trans hof.claim, .inl hstmt⟩ hgoes
  · exact absurd ⟨c', hof'.claim.symm.trans hof.claim, .inr ⟨resp, hstmt⟩⟩ hgoes

end Later

/-- **Runs in which no run of the handler takes longer than the TTL.**  The handler runs
once between two times the key becomes free, which it does by expiry or after an answer of
500 and above; an answer below 500 is stored.  A request that comes after the answer has
been stored gets the stored status, body and location, one that comes while the claim is
under way is told so, and a request with another fingerprint is refused in either case. -/
theorem idempotency_key_once (hash : String → String) (as : List Action) (w : World)
    (hw : w.Consistent) (htimely : ∀ ev ∈ (run hash as w).1, ev.timely = true) (a k : String)
    (hkey : k ≠ "") (hlen : k.utf8ByteSize ≤ maxIdempotencyKeyLen) :
    (∀ before ev₁ between ev₂ after, (run hash as w).1 = before ++ ev₁ :: between ++ ev₂ :: after →
      ev₁.runs a k → ev₂.runs a k → ∃ ev ∈ between, ev.frees a k) ∧
    (∀ ev ∈ (run hash as w).1, ev.frees a k →
      (∃ row, ev.stmt = .expire a k ∧ ev.pre.row a k = some row ∧
        row.createdAt + idempotencyTTL < ev.post.now) ∨
      ∃ c h, ev.stmt = .release c ∧ c.id = (a, k) ∧ c.handled = some h ∧ 500 ≤ h.recorded.status) ∧
    (∀ ev ∈ (run hash as w).1, ∀ c resp, ev.stmt = .complete c resp →
      ∃ h, c.handled = some h ∧ h.recorded.status < 500 ∧ resp = h.response) ∧
    ∀ as₁ as₂, as = as₁ ++ as₂ →
      (∀ row status, (run hash as₁ w).2.shared.row a k = some row → row.status = some status →
        (∀ ev ∈ later hash as₁ as₂ w, ¬ ev.frees a k) →
        Answered (later hash as₁ as₂ w) (started as₁) a k fun req =>
          if row.sameRequest hash req then
            replayed { status, body := row.response, location := row.location.getD "" }
          else keyReused) ∧
      ∀ c ∈ (run hash as₁ w).2.shared.underway, c.id = (a, k) →
        (run hash as₁ w).2.shared.now ≤ c.since + idempotencyTTL →
        (∀ ev ∈ later hash as₁ as₂ w, ev.post.now ≤ c.since + idempotencyTTL ∧
          ¬ ev.ends c.number) →
        ∃ row, (run hash as₁ w).2.shared.row a k = some row ∧ row.claim = c.number ∧
          Answered (later hash as₁ as₂ w) (started as₁) a k fun req =>
            if row.sameRequest hash req then keyInFlight else keyReused := by
  have hfine := run_fine hw htimely
  have hchain := run_chain Stmt.exec (idempotent hash) as ⟨w, []⟩
  refine ⟨?_, ?_, fun ev hev c resp hstmt => ?_, ?_⟩
  · intro before ev₁ between ev₂ after htrace h₁ h₂
    have hmem : ∀ ev ∈ ev₁ :: between ++ [ev₂], ev ∈ (run hash as w).1 := by
      intro ev hev
      rw [htrace]
      simp only [mem_cons, mem_append, not_mem_nil] at hev ⊢
      tauto
    have hsplit : (run hash as w).1 = before ++ ((ev₁ :: between ++ [ev₂]) ++ after) := by
      rw [htrace]
      simp
    rw [run] at hsplit
    rw [hsplit] at hchain
    obtain ⟨_, -, hrest⟩ := hchain.split
    obtain ⟨_, hmid, -⟩ := hrest.split
    exact freed_between hmid (fun ev hev => hfine ev (hmem ev hev)) h₁ h₂
  · exact fun ev hev hfrees => (hfine ev hev).frees_cases hfrees
  · have hproper := (hfine ev hev).proper
    rw [hstmt] at hproper
    exact hproper
  · rintro as₁ as₂ rfl
    have htrace : (run hash (as₁ ++ as₂) w).1 = (run hash as₁ w).1 ++ later hash as₁ as₂ w := by
      rw [run, run_append]
      rfl
    have hlater : ∀ ev ∈ later hash as₁ as₂ w, ev.Fine :=
      fun ev hev => hfine ev (by rw [htrace]; exact mem_append_right _ hev)
    refine ⟨fun row status hrow hstatus hfree => ?_, fun c hc hid hnow hquiet => ?_⟩
    · exact stored_answered hkey hlen hlater hrow hstatus hfree
    · have hlast : (run hash as₁ w).2.shared.Consistent :=
        ((run_chain Stmt.exec (idempotent hash) as₁ ⟨w, []⟩).keeps (I := Consistent)
          (fun ev hev _ => (hfine ev (by
            rw [htrace]
            exact mem_append_left _ hev)).owned.post) hw).1
      obtain ⟨row, hrow, hof⟩ := hlast.kept c hc hnow
      obtain ⟨ha, hk⟩ := Prod.mk.inj hid
      rw [ha, hk] at hrow
      exact ⟨row, hrow, hof.claim, underway_answered hkey hlen hlater hrow hof hquiet⟩

/-! ### Runs -/

/-- The first request, another try of it, and another request with the same key. -/
def firstTry : Request where
  id := 1
  accountID := "acc-1"
  idempotencyKey := "k"
  canonical := "gateway"

def secondTry : Request :=
  { firstTry with id := 2 }

def thirdTry : Request :=
  { firstTry with id := 3 }

def otherRequest : Request :=
  { firstTry with id := 4, canonical := "mesh" }

/-- The handler creates a mapping. -/
def created : Choice where
  handled := { calls := [.writeHeader 201, .write "created\n"], location := "/bss/v1/mappings/m1" }

/-- Two requests come while the handler runs for the first, one after its answer has been
stored. -/
def duringAndAfter : List Action :=
  [.spawn firstTry, .step 0 {}, .step 0 {}, .atomic secondTry fun _ => {},
    .atomic otherRequest fun _ => {}, .step 0 created, .step 0 {}, .step 0 {},
    .atomic thirdTry fun _ => {}]

/-- The answers of a run: which request, which status, and the code or the body. -/
def answers (as : List Action) : List (Nat × Nat × String) :=
  (run (·) as {}).1.filterMap fun ev =>
    match ev.stmt with
    | .respond req resp =>
      some (req.id, resp.status, match resp.body with
        | .problem code _ => code
        | .bytes b => b)
    | _ => none

/-- The second try is told that the first is running, the third gets what it has answered. -/
theorem idempotency_key_once_duringAndAfter :
    answers duringAndAfter = [(2, 409, "ErrIdempotencyKeyInFlight"),
      (4, 409, "ErrIdempotencyKeyReused"), (1, 201, "created\n"), (3, 201, "created")] ∧
    ∀ before ev₁ between ev₂ after,
      (run (·) duringAndAfter {}).1 = before ++ ev₁ :: between ++ ev₂ :: after →
      ev₁.runs "acc-1" "k" → ev₂.runs "acc-1" "k" → ∃ ev ∈ between, ev.frees "acc-1" "k" :=
  ⟨by decide +kernel, (idempotency_key_once (·) duringAndAfter {}
    ⟨by decide, by decide, fun c hc => absurd hc not_mem_nil⟩ (by decide +kernel) "acc-1" "k"
    (by decide) (by decide)).1⟩

/-- A request that comes while the handler runs, with another fingerprint: it is refused for
its fingerprint, and not told that the key is in flight. -/
theorem other_request_during_run :
    (answers (duringAndAfter.take 5)).map (·.2.2) =
      ["ErrIdempotencyKeyInFlight", "ErrIdempotencyKeyReused"] := by
  decide +kernel

end Acs.Idempotency
