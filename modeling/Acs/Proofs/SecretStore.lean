/-
A stored secret goes out once, to the device its owner named, before it expires.

Each row of the table is the row of one insert, and what a caller may do with it is
decided by what the row says when its statement runs.  So it is enough to know where
the rows come from: every row carries what its Put sealed, and the device of a
claimed row was written by a claim of its owner (`Traced`).  A row that has been
opened is gone, and its number is never used again.
-/
import Acs.Secrets.Store

namespace Acs

open SecretCall List SecretWorld Pool

variable {Key : Type}

/-! ### What a call did -/

/-- The secret a Put has stored. -/
structure StoredSecret where
  /-- The number of the Put among all that stored something. -/
  put : Nat
  (id owner value : String)
  expiresAt : Int

/-- A Put that stored a row, whatever its caller was told. -/
def stored : SecretEvent Key → Option StoredSecret
  | ⟨.put _ owner value ttl raw _, _, pre, post⟩ =>
    if post.table.puts = pre.table.puts + 1 then
      some ⟨pre.table.puts, "sh_" ++ raw, owner, value, post.now + ttl⟩
    else none
  | _ => none

/-- What a Claim has bound. -/
structure ClaimedSecret where
  put : Nat
  (owner deviceID : String)

/-- A Claim that bound an unclaimed row to a device. -/
def claimed : SecretEvent Key → Option ClaimedSecret
  | ⟨.claim _ id owner deviceID, _, pre, post⟩ =>
    match pre.table.find id, post.table.find id with
    | some row, some row' =>
      if row.deviceID = none ∧ row'.deviceID = some deviceID then
        some ⟨row.put, owner, deviceID⟩
      else none
    | _, _ => none
  | _ => none

/-- What an Open has returned. -/
structure ReturnedSecret where
  put : Nat
  (id deviceID value : String)

/-- An Open that returned a value to its caller. -/
def returned : SecretEvent Key → Option ReturnedSecret
  | ⟨.open _ id deviceID, .ok value, pre, _⟩ =>
    (pre.table.find id).map fun row => ⟨row.put, id, deviceID, value⟩
  | _ => none

/-- The event is the `n`-th Put that stored a secret. -/
def storesPut (n : Nat) (ev : SecretEvent Key) : Bool :=
  (stored ev).any (·.put = n)

/-- The event returns the value of the `n`-th Put. -/
def returnsPut (n : Nat) (ev : SecretEvent Key) : Bool :=
  (returned ev).any (·.put = n)

/-! ### Looking up rows -/

namespace SecretTable

variable {t : SecretTable}

theorem find_of_mem {row : SecretRow} (h : row ∈ t.rows) :
    t.find row.id = some row :=
  Keyed.find_of_mem t.ids h

theorem eq_of_put {row row' : SecretRow} (h : row ∈ t.rows) (h' : row' ∈ t.rows)
    (hput : row.put = row'.put) : row = row' :=
  inj_on_of_nodup_map t.numbered h h' hput

theorem mem_insert {t' : SecretTable} {id : String} {customer : Option String} {sealed : List Char}
    {expiresAt : Int} (h : t.insert id customer sealed expiresAt = some t') :
    t'.puts = t.puts + 1 ∧ ∀ row ∈ t'.rows,
      row ∈ t.rows ∨ row = ⟨id, customer, sealed, none, expiresAt, t.puts⟩ := by
  unfold insert at h
  split at h
  · exact absurd h (by simp)
  · rw [← Option.some.inj h]
    exact ⟨rfl, by simp⟩

end SecretTable

/-! ### What a call does to the table -/

section Effect

variable (aead : Aead Key) (uuid : String → Option String)

/-- The changes a call can make; `now` is the time of its statement. -/
inductive SecretEffect : SecretCall Key → SecretWorld → SecretWorld → Prop
  | idle {call : SecretCall Key} {w : SecretWorld} {now : Int} :
      SecretEffect call w ⟨w.table, now⟩
  | put {key : Key} {owner value raw : String} {ttl now : Int} {nonce : List Char}
      {customer : Option String} {w : SecretWorld} {table : SecretTable}
      (hnonce : nonce.length = aead.nonceSize) (hcustomer : customerOf uuid owner = some customer)
      (hinsert : w.table.insert ("sh_" ++ raw) customer
        (nonce ++ aead.sealValue key nonce value (additionalData ("sh_" ++ raw) owner))
        (now + ttl) = some table) :
      SecretEffect (.put (some key) owner value ttl raw nonce) w ⟨table, now⟩
  | claim {key : Option Key} {id owner deviceID : String} {customer : Option String}
      {w : SecretWorld} {now : Int} (hcustomer : customerOf uuid owner = some customer) :
      SecretEffect (.claim key id owner deviceID) w
        ⟨w.table.claim (·.claimable id customer now) deviceID, now⟩
  | delete {call : SecretCall Key} {w : SecretWorld} {now : Int} (p : SecretRow → Bool) :
      SecretEffect call w ⟨w.table.delete p, now⟩

variable {aead uuid}

variable {w : SecretWorld}

theorem SecretEffect.deliver {α : Type} {call : SecretCall Key} {c : SecretChoice} {what : String}
    {answer : Except String α} {table : SecretTable}
    (h : SecretEffect aead uuid call w ⟨table, w.now + c.elapsed⟩) :
    SecretEffect aead uuid call w (deliver c w what answer table).2 := by
  unfold Acs.deliver
  split
  · exact h
  · exact .idle
  · exact h

theorem exec_effect (call : SecretCall Key) (c : SecretChoice) (w : SecretWorld) :
    SecretEffect aead uuid call w (call.exec aead uuid c w).2 := by
  cases call with
  | put key owner value ttl raw nonce =>
    simp only [SecretCall.exec, putCall]
    split
    · exact .idle
    · split
      · exact .idle
      next hnonce =>
        split
        · exact SecretEffect.idle.deliver
        next hcustomer =>
          split
          · exact SecretEffect.idle.deliver
          next hinsert =>
            exact (SecretEffect.put (not_not.mp hnonce) hcustomer hinsert).deliver
  | check key id owner =>
    simp only [SecretCall.exec, checkCall]
    split
    · exact .idle
    · exact SecretEffect.idle.deliver
    · exact SecretEffect.idle.deliver
  | claim key id owner deviceID =>
    simp only [SecretCall.exec, claimCall]
    split
    · exact .idle
    · exact SecretEffect.idle.deliver
    next hcustomer =>
      exact (SecretEffect.claim hcustomer).deliver
  | «open» key id deviceID =>
    simp only [SecretCall.exec, openCall]
    split
    · exact .idle
    · exact (SecretEffect.delete _).deliver
  | discard key id owner =>
    simp only [SecretCall.exec, discardCall]
    split
    · exact .idle
    · exact SecretEffect.idle.deliver
    · exact (SecretEffect.delete _).deliver
  | sweep => exact (SecretEffect.delete _).deliver

/-- The numbers of inserts are given out in order: a new row has the next one. -/
theorem SecretEffect.puts {call : SecretCall Key} {w' : SecretWorld}
    (h : SecretEffect aead uuid call w w') :
    w.table.puts ≤ w'.table.puts ∧ ∀ row' ∈ w'.table.rows,
      w.table.puts ≤ row'.put ∨ ∃ row ∈ w.table.rows, row.put = row'.put := by
  cases h with
  | idle => exact ⟨Nat.le_refl _, fun row hrow => .inr ⟨row, hrow, rfl⟩⟩
  | put hnonce hcustomer hinsert =>
    obtain ⟨hputs, hrows⟩ := SecretTable.mem_insert hinsert
    refine ⟨by simp only [hputs]; omega, ?_⟩
    intro row hrow
    rcases hrows row hrow with hold | rfl
    · exact .inr ⟨row, hold, rfl⟩
    · exact .inl (Nat.le_refl _)
  | claim hcustomer =>
    refine ⟨Nat.le_refl _, ?_⟩
    intro row' hrow'
    obtain ⟨row, hrow, rfl⟩ := mem_map.mp hrow'
    exact .inr ⟨row, hrow, by split <;> rfl⟩
  | delete p =>
    refine ⟨Nat.le_refl _, ?_⟩
    intro row hrow
    exact .inr ⟨row, (mem_filter.mp hrow).1, rfl⟩

theorem open_ok {key : Option Key} {id deviceID value : String} {c : SecretChoice}
    (h : (openCall aead key id deviceID c w).1 = .ok value) :
    ∃ k, ∃ row ∈ w.table.rows, row.opens id deviceID (openCall aead key id deviceID c w).2.now ∧
      openSealed aead k id row = .ok value ∧
      ∀ row' ∈ (openCall aead key id deviceID c w).2.table.rows, row'.put ≠ row.put := by
  unfold openCall deliver at h ⊢
  cases key with
  | none => exact absurd h (by simp)
  | some k =>
    cases hdelivery : c.delivery with
    | refused | lost => simp [hdelivery] at h
    | executed =>
      simp only [hdelivery] at h ⊢
      split at h
      · exact absurd h (by simp)
      next row hfind =>
        have hopens := find?_some hfind
        have hrow := mem_of_find?_eq_some hfind
        refine ⟨k, row, hrow, hopens, h, ?_⟩
        intro row' hrow' hput
        obtain ⟨hold, hkept⟩ := mem_filter.mp hrow'
        simp [SecretTable.eq_of_put hold hrow hput, hopens] at hkept

end Effect

/-! ### Where rows come from -/

section Traced

variable (aead : Aead Key) (uuid : String → Option String)

/-- The row holds what the Put sealed. -/
structure SealedBy (s : StoredSecret) (row : SecretRow) : Prop where
  put : s.put = row.put
  id : s.id = row.id
  expiresAt : s.expiresAt = row.expiresAt
  owner : customerOf uuid s.owner = some row.customerID
  sealed : ∃ key nonce, nonce.length = aead.nonceSize ∧
    row.sealed = nonce ++ aead.sealValue key nonce s.value (additionalData s.id s.owner)

/-- The row was stored by a Put of the trace, and its device named by a Claim of it. -/
structure Traced (trace : List (SecretEvent Key)) (row : SecretRow) : Prop where
  put : ∃ ev ∈ trace, ∃ s, stored ev = some s ∧ SealedBy aead uuid s row
  claim : ∀ d, row.deviceID = some d → ∃ ev ∈ trace, ∃ c, claimed ev = some c ∧
    c.put = row.put ∧ c.deviceID = d ∧ customerOf uuid c.owner = some row.customerID

variable {aead uuid}

theorem claimed_of_row {key : Option Key} {id owner deviceID : String} {customer : Option String}
    {w : SecretWorld} {now : Int} {r} {row : SecretRow} (hrow : row ∈ w.table.rows)
    (hp : row.claimable id customer now) :
    claimed (⟨.claim key id owner deviceID, r, w,
      ⟨w.table.claim (·.claimable id customer now) deviceID, now⟩⟩ : SecretEvent Key) =
        some ⟨row.put, owner, deviceID⟩ := by
  have hfacts := hp
  simp only [SecretRow.claimable, Bool.and_eq_true, decide_eq_true_eq] at hfacts
  obtain ⟨⟨⟨hid, -⟩, hdevice⟩, -⟩ := hfacts
  have hpre : w.table.find id = some row := hid ▸ SecretTable.find_of_mem hrow
  have hpost : (w.table.claim (·.claimable id customer now) deviceID).find id =
      some { row with deviceID := some deviceID } := by
    have hmem : { row with deviceID := some deviceID } ∈
        (w.table.claim (·.claimable id customer now) deviceID).rows :=
      mem_map.mpr ⟨row, hrow, by simp [hp]⟩
    exact hid ▸ SecretTable.find_of_mem hmem
  simp only [claimed, hpre, hpost, hdevice, and_self, if_true]

theorem Traced.step {trace : List (SecretEvent Key)} {ev : SecretEvent Key} (hmem : ev ∈ trace)
    (heff : SecretEffect aead uuid ev.stmt ev.pre ev.post)
    (h : ∀ row ∈ ev.pre.table.rows, Traced aead uuid trace row) :
    ∀ row ∈ ev.post.table.rows, Traced aead uuid trace row := by
  obtain ⟨call, r, pre, post⟩ := ev
  change SecretEffect aead uuid call pre post at heff
  cases heff with
  | idle => exact h
  | @put key owner value raw ttl now nonce customer w table hnonce hcustomer hinsert =>
    obtain ⟨hputs, hrows⟩ := SecretTable.mem_insert hinsert
    intro row hrow
    rcases hrows row hrow with hold | rfl
    · exact h row hold
    · refine ⟨⟨_, hmem, ⟨pre.table.puts, "sh_" ++ raw, owner, value, now + ttl⟩, ?_, ?_⟩, ?_⟩
      · simp only [stored, hputs, if_true]
      · exact ⟨rfl, rfl, rfl, hcustomer, key, nonce, hnonce, rfl⟩
      · intro d hd
        exact absurd hd (by simp)
  | @claim key id owner deviceID customer w now hcustomer =>
    intro row' hrow'
    obtain ⟨row, hrow, rfl⟩ := mem_map.mp hrow'
    by_cases hp : row.claimable id customer now
    · have hcust : row.customerID = customer := by
        simp only [SecretRow.claimable, Bool.and_eq_true, decide_eq_true_eq] at hp
        exact hp.1.1.2
      obtain ⟨ev, hev, s, hs, hsealed⟩ := (h row hrow).put
      rw [if_pos hp]
      refine ⟨⟨ev, hev, s, hs, ⟨hsealed.1, hsealed.2, hsealed.3, hsealed.4, hsealed.5⟩⟩, ?_⟩
      intro d hd
      have hd : deviceID = d := Option.some.inj hd
      exact ⟨_, hmem, _, claimed_of_row hrow hp, rfl, hd, hcust ▸ hcustomer⟩
    · rw [if_neg hp]
      exact h row hrow
  | delete p =>
    intro row hrow
    exact h row (mem_filter.mp hrow).1

theorem SealedBy.openSealed {s : StoredSecret} {row : SecretRow} {key : Key} {id value : String}
    (h : SealedBy aead uuid s row) (hopen : openSealed aead key id row = .ok value) :
    value = s.value := by
  obtain ⟨k, nonce, hnonce, hrow⟩ := h.sealed
  unfold Acs.openSealed at hopen
  rw [hrow] at hopen
  split at hopen
  · exact absurd hopen (by simp)
  · rw [← hnonce, take_left, drop_left] at hopen
    split at hopen
    · exact absurd hopen (by simp)
    next plain hplain =>
      obtain ⟨-, -, hvalue⟩ := aead.authentic _ _ _ _ _ _ _ hplain
      rw [← hvalue]
      exact (Except.ok.inj hopen).symm

end Traced

/-! ### Every run -/

section Runs

variable (aead : Aead Key) (uuid : String → Option String)

/-- The calls of a run follow one another and do what they may. -/
theorem secretTrace_chain (as : List (SecretAction Key)) :
    (∃ w, Chain init (secretTrace aead uuid as) w) ∧
      ∀ ev ∈ secretTrace aead uuid as, ev.Legal (SecretCall.exec aead uuid) :=
  ⟨⟨_, run_chain (SecretCall.exec aead uuid) prog as ⟨init, []⟩⟩,
    run_legal as _⟩

variable {aead uuid}

variable {ev : SecretEvent Key} {n : Nat}

theorem legal_effect (h : ev.Legal (SecretCall.exec aead uuid)) :
    SecretEffect aead uuid ev.stmt ev.pre ev.post := by
  obtain ⟨call, c, w, rfl⟩ := h.eq_fire
  exact exec_effect call c w

theorem returned_inv (h : ev.Legal (SecretCall.exec aead uuid)) {r : ReturnedSecret}
    (hr : returned ev = some r) :
    ∃ k, ∃ row ∈ ev.pre.table.rows, row.opens r.id r.deviceID ev.post.now ∧ row.put = r.put ∧
      openSealed aead k r.id row = .ok r.value ∧
      ∀ row' ∈ ev.post.table.rows, row'.put ≠ row.put := by
  obtain ⟨call, c, w, rfl⟩ := h.eq_fire
  cases call with
  | «open» key id deviceID =>
    cases hres : (openCall aead key id deviceID c w).1 with
    | error msg => simp [returned, fire, SecretCall.exec, hres] at hr
    | ok value =>
      obtain ⟨k, row, hrow, hopens, hsealed, hgone⟩ := open_ok hres
      have hid : row.id = id := by
        simp only [SecretRow.opens, Bool.and_eq_true, decide_eq_true_eq] at hopens
        exact hopens.1.1
      have hfind : w.table.find id = some row := hid ▸ SecretTable.find_of_mem hrow
      simp only [returned, fire, SecretCall.exec, hres, hfind, Option.map_some,
        Option.some.injEq] at hr
      subst hr
      exact ⟨k, row, hrow, hopens, rfl, hsealed, hgone⟩
  | _ => simp [returned, fire] at hr

theorem traced_pre (as : List (SecretAction Key)) :
    ∀ ev ∈ secretTrace aead uuid as, ∀ row ∈ ev.pre.table.rows,
      Traced aead uuid (secretTrace aead uuid as) row := by
  obtain ⟨⟨w, hchain⟩, hlegal⟩ := secretTrace_chain aead uuid as
  have hinit : ∀ row ∈ init.table.rows,
      Traced aead uuid (secretTrace aead uuid as) row := by
    intro row hrow
    exact absurd hrow (by simp [init, SecretTable.empty])
  intro ev hev
  exact ((hchain.keeps (I := fun w => ∀ row ∈ w.table.rows,
      Traced aead uuid (secretTrace aead uuid as) row) (fun e he hpre => Traced.step he (legal_effect (hlegal e he)) hpre)
    hinit).2 ev hev).1

/-- The `n`-th secret has not been used up: it is in the table, or not stored yet. -/
def Unspent (n : Nat) (w : SecretWorld) : Prop :=
  w.table.puts ≤ n ∨ ∃ row ∈ w.table.rows, row.put = n

theorem unspent_stays (h : ev.Legal (SecretCall.exec aead uuid)) (hpre : ¬ Unspent n ev.pre) :
    ¬ Unspent n ev.post := by
  obtain ⟨hle, hrows⟩ := (legal_effect h).puts
  intro hpost
  apply hpre
  rcases hpost with hputs | ⟨row', hrow', hput⟩
  · exact .inl (Nat.le_trans hle hputs)
  · rcases hrows row' hrow' with hnew | ⟨row, hrow, heq⟩
    · exact .inl (hput ▸ hnew)
    · exact .inr ⟨row, hrow, heq.trans hput⟩

theorem returned_spends (h : ev.Legal (SecretCall.exec aead uuid)) (hret : returnsPut n ev) :
    Unspent n ev.pre ∧ ¬ Unspent n ev.post := by
  obtain ⟨r, hr, hput⟩ := Option.any_eq_true _ _ |>.mp hret
  obtain ⟨k, row, hrow, -, hrowput, -, hgone⟩ := returned_inv h hr
  have hn : row.put = n := hrowput.trans (of_decide_eq_true hput)
  refine ⟨.inr ⟨row, hrow, hn⟩, ?_⟩
  obtain ⟨hle, hrows⟩ := (legal_effect h).puts
  have hlt := ev.pre.table.bounded row hrow
  rintro (hputs | ⟨row', hrow', hput'⟩)
  · omega
  · exact hgone row' hrow' (hput'.trans hn.symm)

theorem stored_puts (h : storesPut n ev) :
    ev.pre.table.puts = n ∧ ev.post.table.puts = n + 1 := by
  obtain ⟨s, hs, hput⟩ := Option.any_eq_true _ _ |>.mp h
  unfold stored at hs
  split at hs
  · split at hs
    next hputs =>
      have hn : _ = n := of_decide_eq_true hput
      rw [← Option.some.inj hs] at hn
      exact ⟨hn, by rw [← hn]; exact hputs⟩
    · exact absurd hs (by simp)
  · exact absurd hs (by simp)

/-- **A secret goes out at most once, to the device its owner claimed it for, before it
expires.**  Secrets are numbered by the Puts that stored them. -/
theorem secret_single_use (aead : Aead Key) (uuid : String → Option String)
    (as : List (SecretAction Key)) :
    (∀ n, ((secretTrace aead uuid as).filter (storesPut n)).length ≤ 1) ∧
    (∀ n, ((secretTrace aead uuid as).filter (returnsPut n)).length ≤ 1) ∧
    ∀ ev ∈ secretTrace aead uuid as, ∀ r, returned ev = some r →
      (∃ put ∈ secretTrace aead uuid as, ∃ s, stored put = some s ∧
        s.put = r.put ∧ s.id = r.id ∧ s.value = r.value ∧ ev.post.now < s.expiresAt ∧
        ∃ claim ∈ secretTrace aead uuid as, ∃ c, claimed claim = some c ∧
          c.put = r.put ∧ c.deviceID = r.deviceID ∧
          customerOf uuid c.owner = customerOf uuid s.owner) := by
  obtain ⟨⟨w, hchain⟩, hlegal⟩ := secretTrace_chain aead uuid as
  refine ⟨?_, ?_, ?_⟩
  · intro n
    refine hchain.atMostOnce (I := fun w => w.table.puts ≤ n) ?_ ?_
    · intro ev _ hstores
      have := stored_puts hstores
      omega
    · intro ev hev hpre
      have := (legal_effect (hlegal ev hev)).puts.1
      omega
  · intro n
    exact hchain.atMostOnce (I := Unspent n) (fun ev hev => returned_spends (hlegal ev hev))
      (fun ev hev => unspent_stays (hlegal ev hev))
  · intro ev hev r hr
    obtain ⟨k, row, hrow, hopens, hput, hsealed, -⟩ := returned_inv (hlegal ev hev) hr
    simp only [SecretRow.opens, Bool.and_eq_true, decide_eq_true_eq] at hopens
    obtain ⟨⟨hid, hdevice⟩, hexpires⟩ := hopens
    have htraced := traced_pre as ev hev row hrow
    obtain ⟨put, hputmem, s, hs, hsealedby⟩ := htraced.put
    obtain ⟨claim, hclaimmem, c, hc, hcput, hcdevice, howner⟩ := htraced.claim _ hdevice
    refine ⟨put, hputmem, s, hs, hsealedby.put.trans hput, hsealedby.id.trans hid,
      (hsealedby.openSealed hsealed).symm, hsealedby.expiresAt ▸ hexpires,
      claim, hclaimmem, c, hc, hcput.trans hput, hcdevice, ?_⟩
    rw [howner, hsealedby.owner]

end Runs

/-! ### A run -/

/-- A cipher without secrecy: each character of the value is marked, and key and data
stand beside it. -/
def markPlain : List Char → List Char → List Char
  | [], data => '.' :: data
  | c :: plain, data => ':' :: c :: markPlain plain data

def unmarkPlain : List Char → Option (List Char × List Char)
  | '.' :: data => some ([], data)
  | ':' :: c :: rest => (unmarkPlain rest).map fun r => (c :: r.1, r.2)
  | _ => none

theorem unmark_mark (plain data : List Char) :
    unmarkPlain (markPlain plain data) = some (plain, data) := by
  induction plain with
  | nil => rfl
  | cons c plain ih => simp [markPlain, unmarkPlain, ih]

def plainAead : Aead Char where
  nonceSize := 2
  sealValue key _ plain data := key :: markPlain plain.toList data.toList
  openValue key _ sealed data :=
    match sealed with
    | k :: rest => (unmarkPlain rest).bind fun r =>
      if k = key ∧ r.2 = data.toList then some (String.ofList r.1) else none
    | [] => none
  open_seal := by
    intro key nonce plain data
    simp [unmark_mark]
  authentic := by
    intro key key' nonce plain plain' data data' h
    simp only [unmark_mark, Option.bind_some] at h
    split at h
    next heq =>
      refine ⟨heq.1.symm, (String.toList_inj.mp heq.2).symm, ?_⟩
      rw [← Option.some.inj h]
      simp
    · exact absurd h (by simp)

/-- A passphrase is stored for a minute, claimed for a device and opened twice. -/
def passphraseOpened : List (SecretAction Char) :=
  [.atomic (.put (some 'k') "" "hunter22" 60000000 "a1" ['0', '1']) fun _ => {},
   .atomic (.claim (some 'k') "sh_a1" "" "cpe1") fun _ => { elapsed := 1000000 },
   .atomic (.open (some 'k') "sh_a1" "cpe1") fun _ => { elapsed := 1000000 },
   .atomic (.open (some 'k') "sh_a1" "cpe1") fun _ => { elapsed := 1000000 }]

/-- The first of the two dispatches gets the passphrase. -/
theorem secret_single_use_passphraseOpened :
    (secretTrace plainAead some passphraseOpened).map
        (fun ev => (returned ev).map fun r => (r.put, r.deviceID, r.value)) =
      [none, none, some (0, "cpe1", "hunter22"), none] ∧
    ((secretTrace plainAead some passphraseOpened).filter (returnsPut 0)).length ≤ 1 :=
  ⟨by decide +kernel, (secret_single_use plainAead some passphraseOpened).2.1 0⟩

end Acs
