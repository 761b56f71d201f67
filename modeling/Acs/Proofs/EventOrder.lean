/-
The numbers of a stream become visible in order.

A transaction that has taken a number holds the counter row, so its numbers lie above the
committed counter and no other transaction has a number of that stream (`Database.Sound`).
Its commit raises the counter to the last of them.  So the committed stream only moves on
(`World.Grows`), which is what the statements of the integration take an insert for.
-/
import Acs.Bss.EventCommit
import Acs.Proofs.EventReplay

namespace Acs.EventStream

open List AList Assoc Option EventStream.World Database

/-- Events of one stream, in the order of their numbers. -/
def Increasing (events : List Event) : Prop :=
  events.Pairwise fun a b => a.scope = b.scope → a.seq < b.seq

/-- The committed events, in the order of their commits. -/
structure World.Ordered (w : World) : Prop where
  present : w.events.Sublist w.inserted
  numbered : ∀ e ∈ w.inserted, e.seq ≤ (w.sequence e.scope).lastSeq
  increasing : Increasing w.inserted

/-- The events that have numbers of the transaction. -/
def Transaction.numbered (tx : Transaction) : List Event :=
  tx.events ++ tx.pending.toList

/-- An open transaction is ahead of what is committed in the streams it has locked. -/
structure Transaction.Ahead (tx : Transaction) (w : World) : Prop where
  counted : ∀ e ∈ tx.numbered, ∃ sq, tx.sequences.lookup e.scope = some sq ∧ e.seq ≤ sq.lastSeq
  above : ∀ e ∈ tx.numbered, (w.sequence e.scope).lastSeq < e.seq
  increasing : Increasing tx.numbered
  raised : ∀ scope sq, tx.sequences.lookup scope = some sq →
    (w.sequence scope).lastSeq ≤ sq.lastSeq ∧ (w.sequence scope).purgedThrough ≤ sq.purgedThrough

/-- What every reachable database satisfies. -/
structure Database.Sound (db : Database) : Prop where
  ordered : db.world.Ordered
  ahead : ∀ t tx, db.underway.lookup t = some tx → tx.Ahead db.world
  exclusive : ∀ t tx t' tx' scope, db.underway.lookup t = some tx →
    db.underway.lookup t' = some tx' → scope ∈ tx.sequences → scope ∈ tx'.sequences → t = t'

/-! ### Events from before the migration -/

/-- A later row of a stream counts the rows an earlier one counts, and itself. -/
theorem rowNumber_lt {sorted : List Event} {i j : Nat} (hij : i < j) (hj : j < sorted.length) :
    rowNumber sorted (i + 1) sorted[j].scope < rowNumber sorted (j + 1) sorted[j].scope := by
  have hself : [sorted[j]].filter (·.scope = sorted[j].scope) = [sorted[j]] := by simp
  have hsub : ((sorted.take (i + 1)).filter (·.scope = sorted[j].scope)).Sublist
      ((sorted.take j).filter (·.scope = sorted[j].scope)) :=
    (take_sublist_take_left (by omega)).filter _
  have hle := hsub.length_le
  rw [rowNumber, rowNumber, take_succ_eq_append_getElem hj, filter_append, hself,
    length_append, length_singleton]
  omega

theorem rowNumbers_increasing (sorted : List Event) : Increasing (rowNumbers sorted) := by
  refine pairwise_iff_getElem.mpr ?_
  intro i j hi hj hij hscope
  have hj' : j < sorted.length := by simpa [rowNumbers] using hj
  have hi' : i < sorted.length := Nat.lt_trans hij hj'
  have hrow : ∀ k (hk : k < sorted.length) (hk' : k < (rowNumbers sorted).length),
      (rowNumbers sorted)[k] = { sorted[k] with seq := rowNumber sorted (k + 1) sorted[k].scope } :=
    fun k hk hk' => getElem_mapIdx ..
  rw [hrow i hi' hi, hrow j hj' hj] at hscope ⊢
  have hscope' : sorted[i].scope = sorted[j].scope := hscope
  rw [hscope']
  exact rowNumber_lt hij hj'

theorem le_foldr_max {n : Nat} {numbers : List Nat} (h : n ∈ numbers) : n ≤ numbers.foldr max 0 := by
  induction numbers with
  | nil => nomatch h
  | cons m rest ih =>
    rw [foldr_cons]
    rcases mem_cons.mp h with rfl | hrest
    · exact Nat.le_max_left _ _
    · exact le_trans (ih hrest) (Nat.le_max_right _ _)

variable {scope : String} {tx' : Transaction} {w : World} {db' : Database}

theorem lookup_counters (value : String → Sequence) {scopes : List String} (h : scope ∈ scopes) :
    (scopes.foldr (fun s m => m.insert s (value s)) (∅ : AList fun _ : String => Sequence)).lookup scope =
      some (value scope) := by
  induction scopes with
  | nil => nomatch h
  | cons s rest ih =>
    rw [foldr_cons, lookup_insert_if]
    split
    next heq => rw [heq]
    next hne => exact ih ((mem_cons.mp h).resolve_left hne)

theorem sound_migrate (env : Env) (old : List Event) : (migrate env old).Sound where
  ordered :=
    { present := List.Sublist.refl _
      numbered := by
        intro e he
        have hrow := lookup_counters
          (fun scope => { lastSeq := maxSeq (migrate env old).world.inserted scope })
          (mem_map_of_mem (f := Event.scope) he)
        have hsequence : (migrate env old).world.sequence e.scope =
            { lastSeq := maxSeq (migrate env old).world.inserted e.scope } := by
          rw [World.sequence]
          exact congrArg (·.getD {}) hrow
        rw [hsequence]
        exact le_foldr_max (mem_map_of_mem (mem_filter.mpr ⟨he, by simp⟩))
      increasing := rowNumbers_increasing _ }
  ahead _ _ h := nomatch h
  exclusive _ _ _ _ _ h := nomatch h

/-! ### Steps -/

variable {db : Database} {t : String} {tx : Transaction}

theorem not_locked (h : db.locked t scope = false) {t' : String}
    (hrow : db.underway.lookup t' = some tx') (hne : t' ≠ t) :
    scope ∉ tx'.sequences := by
  intro hmem
  have hentry : (⟨t', tx'⟩ : Sigma fun _ : String => Transaction) ∈ db.underway.entries :=
    mem_lookup_iff.mp hrow
  have hlocked : db.locked t scope :=
    any_eq_true.mpr ⟨_, hentry, by simpa [hne] using lookup_isSome.mpr hmem⟩
  rw [h] at hlocked
  nomatch hlocked

theorem Database.Sound.put (h : db.Sound) (hahead : tx.Ahead db.world)
    (hfree : ∀ scope ∈ tx.sequences, ∀ t' tx', db.underway.lookup t' = some tx' → t' ≠ t →
      scope ∉ tx'.sequences) : (db.put t tx).Sound where
  ordered := h.ordered
  ahead := forall_lookup_insert hahead h.ahead
  exclusive t₁ tx₁ t₂ tx₂ scope hrow₁ hrow₂ hmem₁ hmem₂ := by
    rcases lookup_of_insert hrow₁ with ⟨rfl, rfl⟩ | ⟨hne₁, hold₁⟩ <;>
      rcases lookup_of_insert hrow₂ with ⟨rfl, rfl⟩ | ⟨hne₂, hold₂⟩
    · rfl
    · exact absurd hmem₂ (hfree scope hmem₁ t₂ tx₂ hold₂ hne₂)
    · exact absurd hmem₁ (hfree scope hmem₂ t₁ tx₁ hold₁ hne₁)
    · exact h.exclusive t₁ tx₁ t₂ tx₂ scope hold₁ hold₂ hmem₁ hmem₂

theorem Database.Sound.free (h : db.Sound) (hrow : db.underway.lookup t = some tx)
    (hmem : scope ∈ tx.sequences) (t' : String) (tx' : Transaction)
    (hrow' : db.underway.lookup t' = some tx') (hne : t' ≠ t) : scope ∉ tx'.sequences :=
  fun hmem' => hne (h.exclusive t' tx' t tx scope hrow' hrow hmem' hmem)

theorem Database.Sound.rollback (h : db.Sound) : (db.rollback t).Sound where
  ordered := h.ordered
  ahead t' tx' hrow := h.ahead t' tx' (lookup_of_erase hrow).2
  exclusive t₁ tx₁ t₂ tx₂ scope hrow₁ hrow₂ :=
    h.exclusive t₁ tx₁ t₂ tx₂ scope (lookup_of_erase hrow₁).2 (lookup_of_erase hrow₂).2

theorem increasing_append {a b : List Event} : Increasing (a ++ b) ↔
    Increasing a ∧ Increasing b ∧ ∀ e ∈ a, ∀ e' ∈ b, e.scope = e'.scope → e.seq < e'.seq :=
  pairwise_append

/-- The trigger numbers an event above all of the transaction and above the counter. -/
theorem Transaction.Ahead.assign (h : tx.Ahead w) (hpending : tx.pending = none) (e : Event)
    {sq : Sequence} (hsq : sq = (tx.sequences.lookup e.scope).getD (w.sequence e.scope)) :
    Transaction.Ahead { tx with
      sequences := tx.sequences.insert e.scope { sq with lastSeq := sq.lastSeq + 1 }
      pending := some { e with seq := sq.lastSeq + 1 } } w := by
  have hevents : tx.numbered = tx.events := by
    rw [Transaction.numbered, hpending, toList_none, append_nil]
  -- the row version the trigger starts from is not behind the committed one
  have hraised : (w.sequence e.scope).lastSeq ≤ sq.lastSeq ∧
      (w.sequence e.scope).purgedThrough ≤ sq.purgedThrough := by
    cases hown : tx.sequences.lookup e.scope with
    | none =>
      rw [hsq, hown]
      exact ⟨le_rfl, le_rfl⟩
    | some own =>
      rw [hsq, hown]
      exact h.raised e.scope own hown
  have hbelow : ∀ e' ∈ tx.events, e'.scope = e.scope → e'.seq ≤ sq.lastSeq := by
    intro e' he' hscope
    obtain ⟨own, hown, hle⟩ := h.counted e' (hevents ▸ he')
    rw [hscope] at hown
    rw [hsq, hown]
    exact hle
  refine ⟨?_, ?_, ?_, ?_⟩
  · intro e' he'
    rw [lookup_insert_if]
    rcases mem_append.mp he' with hold | hnew
    · split
      next heq => exact ⟨_, rfl, Nat.le_succ_of_le (hbelow e' hold heq)⟩
      next => exact h.counted e' (hevents ▸ hold)
    · obtain rfl := mem_singleton.mp hnew
      exact ⟨_, if_pos rfl, le_rfl⟩
  · intro e' he'
    rcases mem_append.mp he' with hold | hnew
    · exact h.above e' (hevents ▸ hold)
    · obtain rfl := mem_singleton.mp hnew
      exact Nat.lt_succ_of_le hraised.1
  · refine increasing_append.mpr ⟨hevents ▸ h.increasing, pairwise_singleton _ _, ?_⟩
    intro e' he' new hnew hscope
    obtain rfl := mem_singleton.mp hnew
    exact Nat.lt_succ_of_le (hbelow e' he' hscope)
  · exact forall_lookup_insert ⟨Nat.le_succ_of_le hraised.1, hraised.2⟩ h.raised

theorem Transaction.Ahead.of_sublist (h : tx.Ahead w) (hsequences : tx'.sequences = tx.sequences)
    (hsub : tx'.numbered.Sublist tx.numbered) :
    tx'.Ahead w where
  counted e he := hsequences ▸ h.counted e (hsub.subset he)
  above e he := h.above e (hsub.subset he)
  increasing := h.increasing.sublist hsub
  raised scope sq hrow := h.raised scope sq (hsequences ▸ hrow)

/-- Nothing has changed in the streams the transaction has locked. -/
theorem Transaction.Ahead.of_world {w' : World} (h : tx.Ahead w)
    (hsame : ∀ scope ∈ tx.sequences, w'.sequence scope = w.sequence scope) : tx.Ahead w' where
  counted := h.counted
  above e he := by
    obtain ⟨sq, hrow, -⟩ := h.counted e he
    rw [hsame e.scope (lookup_isSome.mp (by rw [hrow]; rfl))]
    exact h.above e he
  increasing := h.increasing
  raised scope sq hrow := by
    rw [hsame scope (lookup_isSome.mp (by rw [hrow]; rfl))]
    exact h.raised scope sq hrow

theorem sequence_union (w : World) (own : AList fun _ : String => Sequence) (scope : String)
    (events inserted : List Event) :
    sequence ⟨events, own ∪ w.sequences, inserted⟩ scope =
      (own.lookup scope).getD (w.sequence scope) := by
  unfold World.sequence
  cases hrow : own.lookup scope with
  | none => rw [lookup_union_right (lookup_eq_none.mp hrow)]; rfl
  | some sq =>
    rw [lookup_union_left (lookup_isSome.mp (by rw [hrow]; rfl)), hrow]
    rfl

section Commit

/-- The world a commit leaves. -/
def committed (w : World) (tx : Transaction) : World :=
  ⟨w.events ++ tx.events, tx.sequences ∪ w.sequences, w.inserted ++ tx.events⟩

theorem Transaction.Ahead.grows {w : World} (h : tx.Ahead w) : w.Grows (committed w tx) := by
  have hrow : ∀ scope, (w.sequence scope).lastSeq ≤ ((committed w tx).sequence scope).lastSeq ∧
      (w.sequence scope).purgedThrough ≤ ((committed w tx).sequence scope).purgedThrough := by
    intro scope
    rw [committed, sequence_union]
    cases hown : tx.sequences.lookup scope with
    | none => exact ⟨le_rfl, le_rfl⟩
    | some sq => exact h.raised scope sq hown
  refine ⟨fun e he => mem_append_left _ he, ?_, fun s => (hrow s).1, fun s => (hrow s).2, ?_⟩
  · intro e he
    exact (mem_append.mp he).imp_right fun hnew => h.above e (mem_append_left _ hnew)
  · intro scope hmem
    exact mem_union.mpr (.inr hmem)

theorem World.Ordered.commit {w : World} (hw : w.Ordered) (h : tx.Ahead w) :
    (committed w tx).Ordered where
  present := hw.present.append (List.Sublist.refl _)
  numbered e he := by
    rcases mem_append.mp he with hold | hnew
    · exact le_trans (hw.numbered e hold) (h.grows.lastSeq _)
    · obtain ⟨sq, hown, hle⟩ := h.counted e (mem_append_left _ hnew)
      rw [committed, sequence_union, hown]
      exact hle
  increasing := by
    refine increasing_append.mpr
      ⟨hw.increasing, h.increasing.sublist (sublist_append_left _ _), ?_⟩
    intro e he e' he' hscope
    calc e.seq ≤ (w.sequence e.scope).lastSeq := hw.numbered e he
      _ = (w.sequence e'.scope).lastSeq := by rw [hscope]
      _ < e'.seq := h.above e' (mem_append_left _ he')

theorem Database.Sound.commit (h : db.Sound) (hrow : db.underway.lookup t = some tx) :
    Database.Sound ⟨committed db.world tx, db.underway.erase t⟩ where
  ordered := h.ordered.commit (h.ahead t tx hrow)
  ahead t' tx' hrow' := by
    obtain ⟨hne, hrow'⟩ := lookup_of_erase hrow'
    refine (h.ahead t' tx' hrow').of_world ?_
    intro scope hmem
    have hnot : tx.sequences.lookup scope = none :=
      lookup_eq_none.mpr (h.free hrow' hmem t tx hrow (Ne.symm hne))
    rw [committed, sequence_union, hnot]
    rfl
  exclusive t₁ tx₁ t₂ tx₂ scope hrow₁ hrow₂ :=
    h.exclusive t₁ tx₁ t₂ tx₂ scope (lookup_of_erase hrow₁).2 (lookup_of_erase hrow₂).2

end Commit

theorem World.Ordered.of_sublist {w' : World} (h : w.Ordered) (hevents : w'.events.Sublist w.events)
    (hinserted : w'.inserted = w.inserted)
    (hlast : ∀ scope, (w'.sequence scope).lastSeq = (w.sequence scope).lastSeq) : w'.Ordered where
  present := hinserted ▸ hevents.trans h.present
  numbered e he := hlast e.scope ▸ h.numbered e (hinserted ▸ he)
  increasing := hinserted ▸ h.increasing

theorem sound_assign (h : db.Sound) (hrow : db.underway.lookup t = some tx) {env : Env} {e : Event}
    (hexec : db.assign t tx env e = some db') :
    db'.Sound ∧ db'.world = db.world := by
  unfold assign at hexec
  dsimp only at hexec
  split at hexec
  · nomatch hexec
  next hcan =>
    simp only [Bool.or_eq_true, not_or, Bool.not_eq_true, isSome_eq_false_iff,
      isNone_iff_eq_none] at hcan
    cases hexec
    refine ⟨h.put ((h.ahead t tx hrow).assign hcan.1 _ rfl) ?_, rfl⟩
    intro scope hmem t' tx' hrow' hne
    rcases (mem_insert _).mp hmem with rfl | hmem
    · exact not_locked hcan.2 hrow' hne
    · exact h.free hrow hmem t' tx' hrow' hne

theorem sound_insert (h : db.Sound) (hrow : db.underway.lookup t = some tx)
    (hexec : db.insert t tx = some db') : db'.Sound ∧ db'.world = db.world := by
  have hahead := h.ahead t tx hrow
  have hfree := fun scope (hmem : scope ∈ tx.sequences) => h.free hrow hmem
  unfold Database.insert at hexec
  split at hexec
  · nomatch hexec
  next e hpending =>
    have hnumbered : tx.numbered = tx.events ++ [e] := by
      rw [Transaction.numbered, hpending, toList_some]
    split at hexec
    · cases hexec
      refine ⟨h.put (hahead.of_sublist rfl ?_) hfree, rfl⟩
      rw [hnumbered, Transaction.numbered]
      exact List.Sublist.append_left (nil_sublist _) _
    split at hexec
    · nomatch hexec
    split at hexec
    · cases hexec
      exact ⟨h.rollback, rfl⟩
    · cases hexec
      refine ⟨h.put (hahead.of_sublist rfl ?_) hfree, rfl⟩
      rw [hnumbered, Transaction.numbered, toList_none, append_nil]

theorem sound_exec (h : db.Sound) {act : Act} (hexec : db.exec act = some db') :
    db'.Sound ∧ db.world.Grows db'.world := by
  have hsame : ∀ {db' : Database}, db'.Sound ∧ db'.world = db.world →
      db'.Sound ∧ db.world.Grows db'.world := fun hdb => ⟨hdb.1, hdb.2 ▸ Grows.refl _⟩
  cases act with
  | begin t =>
    simp only [Database.exec] at hexec
    split at hexec
    · nomatch hexec
    · cases hexec
      refine hsame ⟨h.put ⟨?_, ?_, List.Pairwise.nil, ?_⟩ ?_, rfl⟩
      · nofun
      · nofun
      · nofun
      · exact fun scope hmem => absurd hmem (notMem_empty scope)
  | assign t row trigger i =>
    obtain ⟨tx, hrow, hexec⟩ := bind_eq_some_iff.mp hexec
    exact hsame (sound_assign h hrow hexec)
  | insert t =>
    obtain ⟨tx, hrow, hexec⟩ := bind_eq_some_iff.mp hexec
    exact hsame (sound_insert h hrow hexec)
  | commit t =>
    obtain ⟨tx, hrow, hexec⟩ := bind_eq_some_iff.mp hexec
    unfold commit at hexec
    split at hexec
    · nomatch hexec
    · cases hexec
      exact ⟨h.commit hrow, (h.ahead t tx hrow).grows⟩
  | rollback t =>
    cases hexec
    exact hsame ⟨h.rollback, rfl⟩
  | raisePurged scope through =>
    simp only [Database.exec] at hexec
    split at hexec
    · nomatch hexec
    next hunlocked =>
      cases hexec
      have hlast : ∀ scope', ((db.world.raisePurged scope through).sequence scope').lastSeq =
          (db.world.sequence scope').lastSeq := by
        intro scope'
        rw [sequence_raisePurged]
        split <;> rfl
      refine ⟨⟨h.ordered.of_sublist (List.Sublist.refl _) rfl hlast, ?_, h.exclusive⟩,
        grows_raisePurged scope through⟩
      intro t tx hrow
      refine (h.ahead t tx hrow).of_world ?_
      intro scope' hmem
      have hne : scope' ≠ scope := by
        rintro rfl
        exact hunlocked (any_eq_true.mpr
          ⟨⟨t, tx⟩, mem_lookup_iff.mp hrow, lookup_isSome.mpr hmem⟩)
      rw [sequence_raisePurged, if_neg (fun hand => hne hand.1)]
  | deleteBatch scope through =>
    cases hexec
    exact ⟨⟨h.ordered.of_sublist filter_sublist rfl fun _ => rfl,
        fun t tx hrow => (h.ahead t tx hrow).of_world fun _ _ => rfl, h.exclusive⟩,
      grows_deleteBatch⟩

theorem sound_step (h : db.Sound) (act : Act) :
    (db.step act).Sound ∧ db.world.Grows (db.step act).world := by
  unfold step
  cases hexec : db.exec act with
  | none => exact ⟨h, Grows.refl _⟩
  | some db' => exact sound_exec h hexec

theorem sound_run (h : db.Sound) (acts : List Act) :
    (db.run acts).Sound ∧ db.world.Grows (db.run acts).world := by
  induction acts generalizing db with
  | nil => exact ⟨h, Grows.refl _⟩
  | cons act acts ih =>
    have hstep := sound_step h act
    have hrest := ih hstep.1
    exact ⟨hrest.1, hstep.2.trans hrest.2⟩

/-- In every run the numbers of the events that are committed are distinct in each stream,
and what is committed later has the higher number. -/
theorem sequence_visible_in_order (env : Env) (old : List Event) (acts later : List Act) :
    let db := (migrate env old).run acts
    let db' := db.run later
    Increasing db'.world.inserted ∧ db'.world.events.Sublist db'.world.inserted ∧
      (∀ e ∈ db.world.inserted, e ∈ db'.world.inserted) ∧
      ∀ e ∈ db.world.inserted, ∀ e' ∈ db'.world.inserted, e' ∉ db.world.inserted →
        e'.scope = e.scope → e.seq < e'.seq := by
  intro db db'
  have hdb : db.Sound := (sound_run (sound_migrate env old) acts).1
  obtain ⟨hdb', hgrows⟩ := sound_run hdb later
  refine ⟨hdb'.ordered.increasing, hdb'.ordered.present, hgrows.inserted, ?_⟩
  intro e he e' he' hnew hscope
  have hlater : (db.world.sequence e'.scope).lastSeq < e'.seq :=
    (hgrows.later e' he').resolve_left hnew
  rw [hscope] at hlater
  exact lt_of_le_of_lt (hdb.ordered.numbered e he) hlater

end Acs.EventStream
