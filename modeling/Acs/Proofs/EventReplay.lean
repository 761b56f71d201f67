/-
No event is lost silently on the way to an integration, unless retention gets in between.

An event is deleted only after `purged_through` has been raised to its number, but a page
reads `purged_through` before the events: if the purge falls between the two SELECTs, the
events are missing, the page says there is no gap, and the next page begins beyond them.
-/
import Acs.Bss.EventStream

namespace Acs.EventStream

open List EventStream.Stmt EventStream.World AList Query

/-! ### What is known of the stream -/

/-- Events are numbered without repetition, and none is gone unless it is at or below
`purged_through`. -/
structure World.Consistent (w : World) : Prop where
  kept : ∀ e ∈ w.inserted, e ∈ w.events ∨ e.seq ≤ (w.sequence e.scope).purgedThrough
  present : ∀ e ∈ w.events, e ∈ w.inserted
  numbered : ∀ e ∈ w.inserted, e.seq ≤ (w.sequence e.scope).lastSeq
  distinct : ∀ e ∈ w.inserted, ∀ e' ∈ w.inserted, e.scope = e'.scope → e.seq = e'.seq → e = e'
  ids : (w.events.map (·.id)).Nodup

/-- The stream only moves on: later events have higher numbers. -/
structure World.Grows (a b : World) : Prop where
  inserted : ∀ e ∈ a.inserted, e ∈ b.inserted
  later : ∀ e ∈ b.inserted, e ∈ a.inserted ∨ (a.sequence e.scope).lastSeq < e.seq
  lastSeq : ∀ scope, (a.sequence scope).lastSeq ≤ (b.sequence scope).lastSeq
  purged : ∀ scope, (a.sequence scope).purgedThrough ≤ (b.sequence scope).purgedThrough
  scopes : ∀ scope ∈ a.sequences, scope ∈ b.sequences

namespace World.Grows

theorem refl (a : World) : a.Grows a :=
  ⟨fun _ h => h, fun _ h => .inl h, fun _ => le_rfl, fun _ => le_rfl, fun _ h => h⟩

theorem trans {a b c : World} (h : a.Grows b) (h' : b.Grows c) : a.Grows c where
  inserted e he := h'.inserted e (h.inserted e he)
  later e he := by
    rcases h'.later e he with hb | hlt
    · exact h.later e hb
    · exact .inr (lt_of_le_of_lt (h.lastSeq _) hlt)
  lastSeq scope := le_trans (h.lastSeq scope) (h'.lastSeq scope)
  purged scope := le_trans (h.purged scope) (h'.purged scope)
  scopes scope hs := h'.scopes scope (h.scopes scope hs)

end World.Grows

/-- What a page of events holds, however far the stream has moved on since. -/
structure PageOf (w : World) (q : Query) (after : Nat) (seen : Sequence) (events : List Event) :
    Prop where
  increasing : events.Pairwise (·.seq < ·.seq)
  member : ∀ e ∈ events, q.holds e ∧ after < e.seq
  numbered : ∀ e ∈ events, e.seq ≤ (w.sequence q.customerID).lastSeq
  complete : ∀ e ∈ w.inserted, q.holds e → after < e.seq → e.seq ≤ nextAfter after events →
    e ∈ events ∨ e.seq ≤ seen.purgedThrough

/-- What a client knows of its stream. -/
structure Reader.Sound (r : Reader) (w : World) : Prop where
  increasing : r.received.Pairwise (·.seq < ·.seq)
  within : ∀ e ∈ r.received, r.start < e.seq ∧ e.seq ≤ r.after
  ahead : r.start ≤ r.after
  numbered : r.after ≤ max r.start (w.sequence r.query.customerID).lastSeq
  complete : ∀ e ∈ w.inserted, r.query.holds e → r.start < e.seq → e.seq ≤ r.after →
    e ∈ r.received ∨ r.gap

theorem Query.holds_scope {q : Query} {e : Event} (h : q.holds e) :
    e.scope = q.customerID := by
  simp only [holds, decide_eq_true_eq] at h
  exact h.1

section Last

variable {after : Nat} {events : List Event}

theorem nextAfter_cases (after : Nat) (events : List Event) :
    (events = [] ∧ nextAfter after events = after) ∨
      ∃ e ∈ events, events.getLast? = some e ∧ nextAfter after events = e.seq := by
  cases hlast : events.getLast? with
  | none => exact .inl ⟨getLast?_eq_none_iff.mp hlast, by simp [nextAfter, hlast]⟩
  | some e => exact .inr ⟨e, mem_of_getLast? hlast, rfl, by simp [nextAfter, hlast]⟩

theorem after_le_nextAfter (h : ∀ e ∈ events, after < e.seq) : after ≤ nextAfter after events := by
  rcases nextAfter_cases after events with ⟨-, hnext⟩ | ⟨last, hmem, -, hnext⟩
  · omega
  · have := h last hmem
    omega

theorem le_nextAfter (h : events.Pairwise (·.seq < ·.seq)) {e : Event} (he : e ∈ events) :
    e.seq ≤ nextAfter after events := by
  rcases nextAfter_cases after events with ⟨hnil, -⟩ | ⟨last, -, hlast, hnext⟩
  · rw [hnil] at he
    cases he
  · obtain ⟨init, rfl⟩ := getLast?_eq_some_iff.mp hlast
    rw [hnext]
    rcases mem_append.mp he with he | he
    · exact le_of_lt ((pairwise_append.mp h).2.2 e he last (by simp))
    · rw [mem_singleton.mp he]

end Last

/-- A page stays what it was: later events come after its last one. -/
theorem PageOf.grows {a b : World} {q : Query} {after : Nat} {seen : Sequence}
    {events : List Event} (h : PageOf a q after seen events) (hgrows : a.Grows b) :
    PageOf b q after seen events where
  increasing := h.increasing
  member := h.member
  numbered e he := le_trans (h.numbered e he) (hgrows.lastSeq _)
  complete e he hq hlt hle := by
    rcases hgrows.later e he with he | hnew
    · exact h.complete e he hq hlt hle
    · rcases nextAfter_cases after events with ⟨-, hnext⟩ | ⟨last, hmem, -, hnext⟩
      · omega
      · rw [holds_scope hq] at hnew
        have := h.numbered last hmem
        omega

theorem Reader.Sound.take {w : World} {r : Reader} {seen : Sequence} {events : List Event}
    (h : r.Sound w) (hpage : PageOf w r.query r.after seen events) :
    Reader.Sound { r with
      after := nextAfter r.after events, received := r.received ++ events
      gap := r.gap || decide (r.after < seen.purgedThrough) } w where
  increasing := by
    rw [pairwise_append]
    refine ⟨h.increasing, hpage.increasing, fun e he e' he' => ?_⟩
    have := (h.within e he).2
    have := (hpage.member e' he').2
    omega
  within e he := by
    show r.start < e.seq ∧ e.seq ≤ nextAfter r.after events
    have hahead := h.ahead
    have hnext := after_le_nextAfter fun e he => (hpage.member e he).2
    rcases mem_append.mp he with he | he
    · have := h.within e he
      omega
    · have := (hpage.member e he).2
      have : e.seq ≤ nextAfter r.after events := le_nextAfter hpage.increasing he
      omega
  ahead := le_trans h.ahead (after_le_nextAfter fun e he => (hpage.member e he).2)
  numbered := by
    rcases nextAfter_cases r.after events with ⟨-, hnext⟩ | ⟨last, hmem, -, hnext⟩
    · rw [hnext]
      exact h.numbered
    · rw [hnext]
      exact le_trans (hpage.numbered last hmem) (Nat.le_max_right _ _)
  complete e he hq hlt hle := by
    by_cases hold : e.seq ≤ r.after
    · rcases h.complete e he hq hlt hold with hrec | hgap
      · exact .inl (mem_append_left _ hrec)
      · exact .inr (by simp [hgap])
    · rcases hpage.complete e he hq (lt_of_not_ge hold) hle with hmem | hpurged
      · exact .inl (mem_append_right _ hmem)
      · refine .inr ?_
        have hbelow : r.after < seen.purgedThrough := by omega
        simp [hbelow]

/-! ### Statements -/

section Exec

variable {w : World}

variable (scope scope' : String) (through : Nat)

theorem sequence_insert (sq : Sequence) :
    World.sequence { w with sequences := w.sequences.insert scope sq } scope' =
      if scope' = scope then sq else w.sequence scope' := by
  simp only [World.sequence, Assoc.lookup_insert_if]
  split <;> rfl

theorem sequence_raisePurged : (w.raisePurged scope through).sequence scope' =
      if scope' = scope ∧ scope' ∈ w.sequences then
        { w.sequence scope' with purgedThrough := max (w.sequence scope').purgedThrough through }
      else w.sequence scope' := by
  simp only [World.sequence, World.raisePurged, Assoc.lookup_mapValues]
  cases hrow : w.sequences.lookup scope' with
  | none =>
    have hnot : scope' ∉ w.sequences := lookup_eq_none.mp hrow
    simp [hnot]
  | some sq =>
    have hmem : scope' ∈ w.sequences := lookup_isSome.mp (by rw [hrow]; rfl)
    by_cases hs : scope' = scope <;> simp [hs]
    exact fun hnot => absurd (hs ▸ hmem) hnot

theorem mem_raisePurged :
    scope' ∈ (w.raisePurged scope through).sequences ↔ scope' ∈ w.sequences := by
  rw [← lookup_isSome, ← lookup_isSome, World.raisePurged, Assoc.lookup_mapValues,
    Option.isSome_map]

theorem grows_counted : w.Grows { w with
    sequences := w.sequences.insert scope
      { w.sequence scope with lastSeq := (w.sequence scope).lastSeq + 1 } } where
  inserted _ h := h
  later _ h := .inl h
  lastSeq scope' := by
    rw [sequence_insert]
    split
    next hs =>
      rw [hs]
      exact Nat.le_succ _
    · exact le_rfl
  purged scope' := by
    rw [sequence_insert]
    split
    next hs =>
      rw [hs]
    · exact le_rfl
  scopes scope' hs := (mem_insert _).mpr (.inr hs)

theorem World.Consistent.of_sequences {w' : World} (h : w.Consistent) (hevents : w'.events = w.events)
    (hinserted : w'.inserted = w.inserted) (hgrows : w.Grows w') : w'.Consistent where
  kept e he := by
    rw [hinserted] at he
    rw [hevents]
    exact (h.kept e he).imp_right fun hle => le_trans hle (hgrows.purged _)
  present e he := by
    rw [hevents] at he
    exact hinserted ▸ h.present e he
  numbered e he := le_trans (h.numbered e (hinserted ▸ he)) (hgrows.lastSeq _)
  distinct e he e' he' := h.distinct e (hinserted ▸ he) e' (hinserted ▸ he')
  ids := hevents ▸ h.ids

theorem World.Consistent.append {e : Event} (h : w.Consistent)
    (hseq : e.seq = (w.sequence e.scope).lastSeq + 1) (hid : ∀ e' ∈ w.events, e'.id ≠ e.id) :
    let w' : World := { w with
      sequences := w.sequences.insert e.scope
        { w.sequence e.scope with lastSeq := (w.sequence e.scope).lastSeq + 1 }
      events := w.events ++ [e], inserted := w.inserted ++ [e] }
    w'.Consistent ∧ w.Grows w' := by
  intro w'
  have hcounted := grows_counted (w := w) e.scope
  have hsame : ∀ scope, w'.sequence scope = World.sequence { w with
      sequences := w.sequences.insert e.scope
        { w.sequence e.scope with lastSeq := (w.sequence e.scope).lastSeq + 1 } } scope := fun _ => rfl
  have hlater : ∀ e' ∈ w.inserted, e'.scope = e.scope → e'.seq < e.seq := by
    intro e' he' hscope
    have := h.numbered e' he'
    rw [hscope] at this
    omega
  refine ⟨⟨?_, ?_, ?_, ?_, ?_⟩, ⟨?_, ?_, hcounted.lastSeq, hcounted.purged, hcounted.scopes⟩⟩
  · intro e' he'
    rcases mem_append.mp he' with he' | he'
    · rcases h.kept e' he' with hmem | hle
      · exact .inl (mem_append_left _ hmem)
      · exact .inr (le_trans hle (hcounted.purged _))
    · exact .inl (mem_append_right _ he')
  · intro e' he'
    rcases mem_append.mp he' with he' | he'
    · exact mem_append_left _ (h.present e' he')
    · exact mem_append_right _ he'
  · intro e' he'
    rcases mem_append.mp he' with he' | he'
    · exact le_trans (h.numbered e' he') (hcounted.lastSeq _)
    · rw [mem_singleton.mp he', hsame, sequence_insert, if_pos rfl, hseq]
  · intro a ha b hb hscope hnum
    rcases mem_append.mp ha with ha | ha <;> rcases mem_append.mp hb with hb | hb
    · exact h.distinct a ha b hb hscope hnum
    · rw [mem_singleton.mp hb] at hscope hnum
      have := hlater a ha hscope
      omega
    · rw [mem_singleton.mp ha] at hscope hnum
      have := hlater b hb hscope.symm
      omega
    · rw [mem_singleton.mp ha, mem_singleton.mp hb]
  · exact Keyed.nodup_append h.ids hid
  · exact fun e' he' => mem_append_left _ he'
  · intro e' he'
    rcases mem_append.mp he' with he' | he'
    · exact .inl he'
    · rw [mem_singleton.mp he', hseq]
      exact .inr (Nat.lt_succ_self _)

theorem World.Consistent.insert {env : Env} {e : Event} {w' : World} (h : w.Consistent)
    (hinsert : w.insert env e = some w') : w'.Consistent ∧ w.Grows w' := by
  simp only [World.insert] at hinsert
  split at hinsert
  · cases hinsert
    exact ⟨h.of_sequences rfl rfl (grows_counted _), grows_counted _⟩
  · obtain ⟨hid, hw'⟩ := Option.ite_none_left_eq_some.mp hinsert
    cases hw'
    simp only [any_eq_true, decide_eq_true_eq, not_exists, not_and] at hid
    exact h.append rfl hid

theorem grows_raisePurged : w.Grows (w.raisePurged scope through) where
  inserted _ h := h
  later _ h := .inl h
  lastSeq scope' := by
    rw [sequence_raisePurged]
    split <;> exact le_rfl
  purged scope' := by
    rw [sequence_raisePurged]
    split
    · exact Nat.le_max_left _ _
    · exact le_rfl
  scopes scope' hs := (mem_raisePurged scope scope' through).mpr hs

variable {scope through}

theorem selected_of_mem_purgeBatch {e : Event} (hids : (w.events.map (·.id)).Nodup)
    (he : e ∈ w.events) (h : e.id ∈ w.purgeBatch scope through) :
    e.scope = scope ∧ e.seq ≤ through := by
  obtain ⟨e', he', hid⟩ := mem_map.mp h
  obtain ⟨hmem, hsel⟩ := mem_filter.mp (mem_of_mem_limitBy he')
  rw [inj_on_of_nodup_map hids hmem he hid] at hsel
  exact of_decide_eq_true hsel

/-- Only events at or below `purged_through` are deleted. -/
theorem World.Consistent.deleteBatch (h : w.Consistent)
    (hpurged : through ≤ (w.sequence scope).purgedThrough) :
    (w.deleteBatch scope through).Consistent where
  kept e he := by
    rcases h.kept e he with hmem | hle
    · by_cases hbatch : e.id ∈ w.purgeBatch scope through
      · obtain ⟨rfl, hle⟩ := selected_of_mem_purgeBatch h.ids hmem hbatch
        exact .inr (le_trans hle hpurged)
      · exact .inl (mem_filter.mpr ⟨hmem, by simpa using hbatch⟩)
    · exact .inr hle
  present e he := h.present e (mem_filter.mp he).1
  numbered := h.numbered
  distinct := h.distinct
  ids := h.ids.sublist (filter_sublist.map _)

theorem grows_deleteBatch : w.Grows (w.deleteBatch scope through) :=
  ⟨fun _ h => h, fun _ h => .inl h, fun _ => le_rfl, fun _ => le_rfl, fun _ h => h⟩

/-! ### The second SELECT of a page -/

variable {q : Query} {after limit : Nat} {seen : Sequence}

theorem World.Consistent.distinct_of_holds (h : w.Consistent) :
    ∀ a ∈ w.events.filter fun e => q.holds e ∧ after < e.seq,
      ∀ b ∈ w.events.filter fun e => q.holds e ∧ after < e.seq, a.seq = b.seq → a = b := by
  intro a ha b hb hseq
  simp only [mem_filter, decide_eq_true_eq] at ha hb
  refine h.distinct a (h.present a ha.1) b (h.present b hb.1) ?_ hseq
  rw [holds_scope ha.2.1, holds_scope hb.2.1]

theorem World.Consistent.pageOf (h : w.Consistent)
    (hseen : (w.sequence q.customerID).purgedThrough ≤ seen.purgedThrough) :
    PageOf w q after seen (w.eventsAfter q after limit) where
  increasing :=
    limitBy_increasing h.distinct_of_holds ((List.Nodup.of_map _ h.ids).filter _)
  member e he := by
    have := mem_of_mem_limitBy he
    simp only [mem_filter, decide_eq_true_eq] at this
    exact this.2
  numbered e he := by
    have hmem := mem_of_mem_limitBy he
    simp only [mem_filter, decide_eq_true_eq] at hmem
    rw [← holds_scope hmem.2.1]
    exact h.numbered e (h.present e hmem.1)
  complete e he hq hlt hle := by
    rcases h.kept e he with hmem | hpurged
    · refine .inl ?_
      rcases nextAfter_cases after (w.eventsAfter q after limit) with
        ⟨-, hnext⟩ | ⟨last, hlast, -, hnext⟩
      · omega
      · exact mem_limitBy_of_le h.distinct_of_holds hlast
          (mem_filter.mpr ⟨hmem, by simp [hq, hlt]⟩) (hnext ▸ hle)
    · refine .inr ?_
      rw [holds_scope hq] at hpurged
      omega

end Exec

/-! ### Programs -/

/-- What an answer tells for good. -/
def Stmt.Told (w : World) : (s : Stmt) → s.Res → Prop
  | .selectEvents q after _ seen, r =>
    ∀ events, (show Option (List Event) from r) = some events → PageOf w q after seen events
  | .scopes, r => ∀ l, (show Option (List (String × Sequence)) from r) = some l →
      ∀ x ∈ l, x.1 ∈ w.sequences
  | .raisePurged scope through, r =>
    (show Option Unit from r) = some () → through ≤ (w.sequence scope).purgedThrough
  | _, _ => True

/-- What a statement rests on. -/
def Stmt.Due (w : World) : Stmt → Prop
  | .raisePurged scope _ => scope ∈ w.sequences
  | .deleteBatch scope through => through ≤ (w.sequence scope).purgedThrough
  | .taken r => r.Sound w
  | _ => True

/-- No purge of the stream was recorded between the two SELECTs of a page. -/
def StreamEvent.unpurged (ev : StreamEvent) : Bool :=
  match ev.stmt with
  | .selectEvents q _ _ seen => (ev.pre.sequence q.customerID).purgedThrough ≤ seen.purgedThrough
  | _ => true

theorem Stmt.Told.grows {a b : World} (hgrows : a.Grows b) (s : Stmt) (r : s.Res)
    (h : s.Told a r) : s.Told b r := by
  cases s with
  | selectEvents q after limit seen => exact fun events hr => (h events hr).grows hgrows
  | scopes => exact fun l hl x hx => hgrows.scopes _ (h l hl x hx)
  | raisePurged scope through => exact fun hr => le_trans (h hr) (hgrows.purged scope)
  | _ => trivial

theorem told_exec {env : Env} {w : World} (h : w.Consistent) (s : Stmt) (d : Delivery)
    (hdue : s.Due w) (hclean : StreamEvent.unpurged (Pool.fire (Stmt.exec env) s d w)) :
    s.Told (s.exec env d w).2 (s.exec env d w).1 ∧ (s.exec env d w).2.Consistent ∧
      w.Grows (s.exec env d w).2 := by
  have hsame := Grows.refl w
  have hwrite : ∀ {α : Type} (a : α) (w' : World), w'.Consistent ∧ w.Grows w' →
      (d.deliver a w w').2.Consistent ∧ w.Grows (d.deliver a w w').2 := by
    intro α a w' hw'
    rcases d.deliver_state a w w' with heq | heq <;> rw [heq]
    · exact ⟨h, hsame⟩
    · exact hw'
  have hread := fun {α : Type} (a : α) => hwrite a w ⟨h, hsame⟩
  cases s with
  | insert e =>
    refine ⟨trivial, d.attempt_keeps (I := fun w' => w'.Consistent ∧ w.Grows w') ⟨h, hsame⟩ ?_⟩
    intro a w' hw'
    obtain ⟨w'', hinsert, heq⟩ := Option.map_eq_some_iff.mp hw'
    cases heq
    exact h.insert hinsert
  | readSequence | purgeBound => exact ⟨trivial, hread _⟩
  | selectEvents q after limit seen =>
    refine ⟨fun events hevents => ?_, hread _⟩
    obtain ⟨rfl, hstate⟩ := d.deliver_answer _ _ _ hevents
    show PageOf (d.deliver (w.eventsAfter q after limit) w w).2 q after seen _
    rw [hstate]
    exact h.pageOf (of_decide_eq_true hclean)
  | scopes =>
    refine ⟨fun l hl x hx => ?_, hread _⟩
    obtain ⟨rfl, hstate⟩ := d.deliver_answer _ _ _ hl
    obtain ⟨e, he, rfl⟩ := mem_map.mp hx
    rw [Stmt.exec, hstate]
    exact mem_keys.mpr (mem_map_of_mem he)
  | raisePurged scope through =>
    refine ⟨fun hr => ?_, ?_⟩
    · show through ≤
        ((d.deliver () w (w.raisePurged scope through)).2.sequence scope).purgedThrough
      rw [(d.deliver_answer _ _ _ hr).2, sequence_raisePurged, if_pos ⟨rfl, hdue⟩]
      exact Nat.le_max_right _ _
    · have hgrows := grows_raisePurged (w := w) scope through
      exact hwrite _ _ ⟨h.of_sequences rfl rfl hgrows, hgrows⟩
  | deleteBatch scope through =>
    exact ⟨trivial, hwrite _ _ ⟨h.deleteBatch hdue, grows_deleteBatch⟩⟩
  | taken r => exact ⟨trivial, h, hsame⟩

section Programs

variable {w : World}

theorem replay_due (env : Env) (claims : Claims) (customerID : String) (limits : List Int) :
    ∀ {r : Reader}, (∀ q, claims.stream customerID = .ok q → r.query = q) → r.Sound w →
      (replay env claims customerID limits r).Issues (Told w) (Due w) := by
  induction limits with
  | nil => exact fun _ _ => trivial
  | cons limit limits ih =>
    intro r hquery hr
    have hpage : (listEvents env { claims, customerID, after := some r.after, limit }).All
        (Told w) (Due w) fun reply => ∀ page events, reply = .ok (page, events) →
          ∃ seen, PageOf w r.query r.after seen events ∧
            page.nextAfter = nextAfter r.after events ∧
            page.gap = decide (r.after < seen.purgedThrough) := by
      unfold listEvents
      cases hstream : claims.stream customerID with
      | error e => nofun
      | ok q =>
        obtain rfl := hquery q hstream
        refine ⟨trivial, fun sq _ => ?_⟩
        cases sq with
        | none => nofun
        | some sq =>
          refine ⟨trivial, fun events hevents => ?_⟩
          cases events with
          | none => nofun
          | some events =>
            rintro page events' hreply
            cases hreply
            exact ⟨sq.getD {}, hevents events rfl, rfl, rfl⟩
    refine hpage.bind fun reply hreply => ?_
    cases reply with
    | error e => exact ih hquery hr
    | ok reply =>
      obtain ⟨seen, hof, hnext, hgap⟩ := hreply reply.1 reply.2 rfl
      have hr' := hr.take hof
      rw [← hnext, ← hgap] at hr'
      exact ⟨hr', fun _ _ => ih hquery hr'⟩

theorem deleteBatches_due {scope : String} {through : Nat}
    (h : through ≤ (w.sequence scope).purgedThrough) (rounds : Nat) :
    (deleteBatches scope through rounds).Issues (Told w) (Due w) := by
  induction rounds with
  | zero => trivial
  | succ rounds ih =>
    refine ⟨h, fun n _ => ?_⟩
    cases n with
    | none => trivial
    | some n =>
      show Prog.All _ _ _ (if n < batchSize then _ else _)
      split
      · trivial
      · exact ih

theorem pruneEvents_due (cutoff : Time) (rounds : Nat) :
    (pruneEvents cutoff rounds).Issues (Told w) (Due w) := by
  have hscope : ∀ scope purged, scope ∈ w.sequences →
      (pruneScope cutoff rounds scope purged).Issues (Told w) (Due w) := by
    intro scope purged hmem
    refine ⟨trivial, fun bound _ => ?_⟩
    rcases bound with _ | _ | through
    · trivial
    · trivial
    · show Prog.All _ _ _ (if through ≤ purged then _ else _)
      split
      · trivial
      · refine ⟨hmem, fun r hr => ?_⟩
        cases r with
        | none => trivial
        | some u => exact deleteBatches_due (hr rfl) rounds
  have hscopes : ∀ l, (∀ x ∈ l, x.1 ∈ w.sequences) →
      (pruneScopes cutoff rounds l).Issues (Told w) (Due w) := by
    intro l
    induction l with
    | nil => exact fun _ => trivial
    | cons x l ih =>
      intro hmem
      refine (hscope x.1 x.2.purgedThrough (hmem x mem_cons_self)).bind fun goOn _ => ?_
      cases goOn with
      | false => trivial
      | true => exact ih fun y hy => hmem y (mem_cons_of_mem _ hy)
  refine ⟨trivial, fun l hl => ?_⟩
  cases l with
  | none => trivial
  | some l => exact hscopes l (hl l rfl)

theorem task_due (env : Env) (t : Task) :
    (t.prog env).Issues (Told w) (Due w) := by
  cases t with
  | insert e => exact ⟨trivial, fun _ _ => trivial⟩
  | prune cutoff rounds => exact pruneEvents_due cutoff rounds
  | read claims customerID start limits =>
    refine replay_due env claims customerID limits (fun q hq => ?_) ?_
    · simp [hq, Except.toOption]
    · refine ⟨List.Pairwise.nil, nofun, le_rfl, Nat.le_max_left _ _, ?_⟩
      exact fun e _ _ hlt hle => absurd hle (Nat.not_le_of_lt hlt)

end Programs

/-! ### Every run -/

/-- As long as no purge is recorded between the two SELECTs of a page, a client has every
event of its stream up to where it is, in increasing order, or has been told of a gap; and
no page leaves out an event that is there, unless it is full of earlier ones. -/
theorem replay_without_silent_loss (env : Env) (as : List Action) (w : World)
    (hw : w.Consistent) (hclean : ∀ ev ∈ trace env as w, ev.unpurged = true) :
    (∀ ev ∈ trace env as w, ∀ r, ev.stmt = .taken r →
      r.received.Pairwise (·.seq < ·.seq) ∧
      ∀ e ∈ ev.pre.inserted, r.query.holds e = true → r.start < e.seq → e.seq ≤ r.after →
        e ∈ r.received ∨ r.gap = true) ∧
    ∀ ev ∈ trace env as w, ∀ q after limit seen, ev.stmt = .selectEvents q after limit seen →
      ∀ e ∈ ev.pre.events, q.holds e = true → after < e.seq →
        e ∈ ev.pre.eventsAfter q after limit ∨
        ((ev.pre.eventsAfter q after limit).length = limit ∧
          ∀ e' ∈ ev.pre.eventsAfter q after limit, e'.seq < e.seq) := by
  have hall : ∀ ev ∈ trace env as w, ev.stmt.Due ev.pre ∧ ev.pre.Consistent := by
    intro ev hev
    obtain ⟨_, hgrown⟩ := Pool.run_growing (R := Told) (W := fun _ w s => s.Due w)
      (G := fun ev => StreamEvent.unpurged ev = true) Grows.refl (fun _ _ _ h h' => h.trans h')
      (fun _ _ s r h => Told.grows h s r) (fun _ s d w hG hdue hpre => told_exec hpre s d hdue hG) hw (fun t _ w => task_due env t) hclean ev hev
    exact ⟨hgrown.stmt, hgrown.pre⟩
  refine ⟨fun ev hev r hr => ?_, fun ev hev q after limit seen _ e he hq hlt => ?_⟩
  · have hsound : (Stmt.taken r).Due ev.pre := hr ▸ (hall ev hev).1
    exact ⟨hsound.increasing, hsound.complete⟩
  · obtain ⟨-, hpre⟩ := hall ev hev
    have hmem : e ∈ ev.pre.events.filter fun e => q.holds e ∧ after < e.seq :=
      mem_filter.mpr ⟨he, by simp [hq, hlt]⟩
    by_cases hin : e ∈ ev.pre.eventsAfter q after limit
    · exact .inl hin
    · refine .inr ⟨limitBy_full hmem hin, fun e' he' => ?_⟩
      refine Nat.lt_of_le_of_ne (limitBy_le he' hmem hin) fun heq => ?_
      rw [hpre.distinct_of_holds e' (mem_of_mem_limitBy he') e hmem heq] at he'
      exact hin he'

/-! ### Runs -/

/-- Two events of customer `c` before the cutoff 50 and one after it. -/
def threeEvents : List Action :=
  [("e1", 10), ("e2", 20), ("e3", 60)].map fun e =>
    .atomic (.insert { id := e.1, sourceKey := e.1, customerID := some "c", eventTime := e.2 })
      fun _ => .executed

def noOwners : Env where
  accountCustomer _ := none
  deviceCustomer _ := none
  ouiSerial _ := none

/-- Customer `c` reads two pages from the beginning. -/
def readTwice : Task :=
  .read { customerID := "c" } "" 0 [0, 0]

/-- The purge comes before the pages. -/
def purgedBefore : List Action :=
  threeEvents ++ [.atomic (.prune 50 1) fun _ => .executed, .atomic readTwice fun _ => .executed]

/-- The purge falls between the two SELECTs of the first page. -/
def purgedBetween : List Action :=
  threeEvents ++ [.spawn readTwice, .step 0 .executed, .atomic (.prune 50 1) fun _ => .executed] ++
    List.replicate 5 (.step 0 .executed)

/-- What the clients of a run have read: their positions, the numbers of the events they have
and whether they were told of a gap. -/
def takings (as : List Action) : List (Nat × List Nat × Bool) :=
  (trace noOwners as {}).filterMap fun ev =>
    match ev.stmt with
    | .taken r => some (r.after, r.received.map (·.seq), r.gap)
    | _ => none

/-- The client is told of the gap. -/
theorem replay_without_silent_loss_purgedBefore :
    takings purgedBefore = [(3, [3], true), (3, [3], true)] ∧
    ∀ ev ∈ trace noOwners purgedBefore {}, ∀ r, ev.stmt = .taken r →
      r.received.Pairwise (·.seq < ·.seq) ∧
      ∀ e ∈ ev.pre.inserted, r.query.holds e = true → r.start < e.seq → e.seq ≤ r.after →
        e ∈ r.received ∨ r.gap = true :=
  ⟨by decide, (replay_without_silent_loss noOwners purgedBefore {}
    ⟨by decide, by decide, by decide, by decide, by decide⟩ (by decide)).1⟩

/-- Events 1 and 2 are gone, the client is past them, and no page has said so. -/
theorem replay_loses_silently :
    takings purgedBetween = [(3, [3], false), (3, [3], false)] ∧
    (Pool.run (Stmt.exec noOwners) (Task.prog noOwners) purgedBetween
      ⟨{}, []⟩).2.shared.inserted.map (·.seq) = [1, 2, 3] := by
  decide

/-! ### A pass of the retention -/

section Pass

variable {env : Env} {w : World} {scope : String} {cutoff : Time} {through purged rounds : Nat}
  {e : Event}

/-- A program that runs alone and without errors. -/
abbrev quiet {α : Type} (env : Env) (p : StreamProg α) (w : World) : α × World :=
  p.run (Stmt.exec env) (fun _ => .executed) w

/-- The table without the first events of a stream. -/
def World.without (w : World) (scope : String) (through : Nat) : World :=
  { w with events := w.events.filter fun e => ¬(e.scope = scope ∧ e.seq ≤ through) }

variable (hids : (w.events.map (·.id)).Nodup) (hrounds : w.events.length < rounds)

include hids

theorem without_deleteBatch :
    (w.deleteBatch scope through).without scope through = w.without scope through := by
  simp only [World.without, World.deleteBatch, filter_filter]
  congr 1
  refine filter_congr fun e he => ?_
  have : e.id ∈ w.purgeBatch scope through → _ := selected_of_mem_purgeBatch hids he
  grind

theorem deleteBatch_last (hlast : (w.purgeBatch scope through).length < batchSize) :
    w.deleteBatch scope through = w.without scope through := by
  simp only [World.without, World.deleteBatch]
  congr 1
  refine filter_congr fun e he => ?_
  rw [decide_eq_decide]
  refine not_congr ⟨selected_of_mem_purgeBatch hids he, fun hsel => mem_map_of_mem ?_⟩
  by_contra hout
  have := limitBy_full (mem_filter.mpr ⟨he, decide_eq_true hsel⟩) hout
  rw [World.purgeBatch, length_map] at hlast
  omega

include hrounds

theorem run_deleteBatches :
    quiet env (deleteBatches scope through rounds) w = (true, w.without scope through) := by
  induction rounds generalizing w with
  | zero => exact absurd hrounds (Nat.not_lt_zero _)
  | succ rounds ih =>
    show quiet env (if (w.purgeBatch scope through).length < batchSize then pure true
      else deleteBatches scope through rounds) (w.deleteBatch scope through) = _
    split
    next hlast => exact congrArg (Prod.mk true) (deleteBatch_last hids hlast)
    next hfull =>
      refine (ih (hids.sublist (filter_sublist.map _)) ?_).trans
        (congrArg (Prod.mk true) (without_deleteBatch hids))
      -- A full batch takes at least one event away.
      obtain ⟨id, hid⟩ := exists_mem_of_length_pos
        (lt_of_lt_of_le (by decide) (le_of_not_gt hfull))
      obtain ⟨e, he, rfl⟩ := mem_map.mp hid
      refine lt_of_lt_of_le (length_filter_lt_length_iff_exists.mpr ?_)
        (Nat.le_of_lt_succ hrounds)
      exact ⟨e, (mem_filter.mp (mem_of_mem_limitBy he)).1, by simpa using hid⟩

/-- What a pass that has read `purged` leaves of a stream: the events beyond the bound, and
all if the bound is not beyond `purged`. -/
def World.keeps (w : World) (cutoff : Time) (scope : String) (purged : Nat) (e : Event) : Bool :=
  e.scope ≠ scope ||
    (w.purgeBound scope cutoff).all fun through => through ≤ purged || through < e.seq

theorem run_pruneScope :
    ∃ w', quiet env (pruneScope cutoff rounds scope purged) w = (true, w') ∧
      w'.events = w.events.filter (w.keeps cutoff scope purged) := by
  unfold keeps
  simp only [quiet, pruneScope, Prog.run, bind, Prog.bind, Prog.perform, Stmt.exec, Delivery.deliver]
  cases w.purgeBound scope cutoff with
  | none => exact ⟨w, rfl, by simp⟩
  | some through =>
    by_cases hle : through ≤ purged
    · exact ⟨w, by simp only [hle, if_true]; rfl, by simp [hle]⟩
    · simp only [hle, if_false]
      refine ⟨_, run_deleteBatches (w := w.raisePurged scope through) hids hrounds, ?_⟩
      refine filter_congr fun e _ => ?_
      simp [hle, imp_iff_not_or]

theorem events_pruneScopes {l : List (String × Sequence)} (hscopes : (l.map (·.1)).Nodup) :
    (quiet env (pruneScopes cutoff rounds l) w).2.events
      = w.events.filter fun e => l.all fun x => w.keeps cutoff x.1 x.2.purgedThrough e := by
  induction l generalizing w with
  | nil => exact (filter_eq_self.mpr fun _ _ => rfl).symm
  | cons x rest ih =>
    obtain ⟨hx, hrest⟩ := nodup_cons.mp hscopes
    obtain ⟨w', hrun, hevents⟩ : ∃ w', quiet env
        (pruneScope cutoff rounds x.1 x.2.purgedThrough) w = (true, w') ∧ _ :=
      run_pruneScope hids hrounds
    have hsub : w'.events <+ w.events := hevents ▸ filter_sublist
    unfold quiet at hrun
    rw [pruneScopes, quiet, ← Prog.after, Prog.after_bind, Prog.after, Prog.after, hrun, if_pos rfl]
    refine (ih (hids.sublist (hsub.map _)) (lt_of_le_of_lt hsub.length_le hrounds) hrest).trans ?_
    rw [hevents, filter_filter]
    refine filter_congr fun e _ => ?_
    rw [all_cons, Bool.and_comm]
    refine congrArg _ (Bool.eq_iff_iff.mpr ?_)
    rw [all_eq_true, all_eq_true]
    refine forall₂_congr fun y hy => ?_
    -- The bound of another stream is the same as before.
    have hne : y.1 ≠ x.1 := fun heq => hx (mem_map.mpr ⟨y, hy, heq⟩)
    have hstream : w'.events.filter (·.scope = y.1) = w.events.filter (·.scope = y.1) := by
      rw [hevents, filter_filter]
      refine filter_congr fun e _ => ?_
      by_cases hscope : e.scope = y.1 <;> simp [World.keeps, hscope, hne]
    simp only [World.keeps, World.purgeBound, hstream]

theorem mem_pruneEvents (hrows : ∀ e ∈ w.events, e.scope ∈ w.sequences) :
    e ∈ (quiet env (pruneEvents cutoff rounds) w).2.events ↔
      e ∈ w.events ∧ w.keeps cutoff e.scope (w.sequence e.scope).purgedThrough e := by
  have hscopes : ((w.sequences.entries.map fun x => (x.1, x.2)).map Prod.fst).Nodup := by
    rw [map_map]
    exact w.sequences.nodupKeys
  have hevents : (quiet env (pruneEvents cutoff rounds) w).2.events = _ :=
    events_pruneScopes hids hrounds hscopes
  rw [hevents, mem_filter, all_map, all_eq_true]
  refine and_congr_right fun he => ⟨fun h => ?_, fun h x hx => ?_⟩
  · obtain ⟨sq, hsq⟩ := Option.isSome_iff_exists.mp (lookup_isSome.mpr (hrows e he))
    rw [World.sequence, hsq]
    exact h ⟨e.scope, sq⟩ (mem_lookup_iff.mp hsq)
  · by_cases hscope : e.scope = x.1
    · rw [World.sequence, hscope, mem_lookup_iff.mpr hx] at h
      exact h
    · simp [keeps, hscope]

omit hids hrounds in
/-- The bound is the number before that of the first event since the cutoff. -/
theorem purgeBound_recent (he : e ∈ w.events) (hrecent : cutoff ≤ e.eventTime) :
    ∃ through, w.purgeBound e.scope cutoff = some through ∧ through ≤ e.seq - 1 ∧
      ∃ f ∈ w.events, f.scope = e.scope ∧ cutoff ≤ f.eventTime ∧ f.seq - 1 = through := by
  have hmem : e.seq - 1 ∈ ((w.events.filter (·.scope = e.scope)).filter
      (cutoff ≤ ·.eventTime)).map (·.seq - 1) :=
    mem_map.mpr ⟨e, by simp [he, hrecent], rfl⟩
  obtain ⟨through, hmin⟩ := Option.isSome_iff_exists.mp (isSome_min?_of_mem hmem)
  obtain ⟨hfirst, hle⟩ := min?_eq_some_iff.mp hmin
  obtain ⟨f, hf, hseq⟩ := mem_map.mp hfirst
  simp only [mem_filter, decide_eq_true_eq] at hf
  exact ⟨through, by simp only [World.purgeBound, hmin, Option.some_or], hle _ hmem, f, hf.1.1,
    hf.1.2, hf.2, hseq⟩

end Pass

/-- A pass without errors takes a prefix of each stream and no event since the cutoff; and it
leaves none before the first event since the cutoff exactly if there was none, or the bound is
beyond `purged_through`. -/
theorem pruneEvents_leaves_recent_iff (env : Env) {w : World} {cutoff : Time} {rounds : Nat}
    (hids : (w.events.map (·.id)).Nodup) (hrows : ∀ e ∈ w.events, e.scope ∈ w.sequences)
    (hrounds : w.events.length < rounds) :
    let w' := (quiet env (pruneEvents cutoff rounds) w).2
    (∀ f ∈ w.events, cutoff ≤ f.eventTime →
      (∀ g ∈ w.events, g.scope = f.scope → cutoff ≤ g.eventTime → f.seq ≤ g.seq) →
      ((∀ e ∈ w'.events, e.scope = f.scope → f.seq ≤ e.seq) ↔
        (w.sequence f.scope).purgedThrough < f.seq - 1 ∨
          ∀ e ∈ w.events, e.scope = f.scope → f.seq ≤ e.seq)) ∧
      (∀ e ∈ w.events, cutoff ≤ e.eventTime → e ∈ w'.events) ∧
      ∀ e ∈ w.events, e ∉ w'.events →
        ∀ e' ∈ w.events, e'.scope = e.scope → e'.seq ≤ e.seq → e' ∉ w'.events := by
  intro w'
  have hmem : ∀ e, e ∈ w'.events ↔ _ := fun e => mem_pruneEvents hids hrounds hrows
  simp only [hmem, keeps, ne_eq, not_true_eq_false, decide_false, Bool.false_or,
    Option.all_eq_true, Bool.or_eq_true, decide_eq_true_eq]
  refine ⟨fun f hf hrecent hfirst => ?_, fun e he hrecent => ⟨he, ?_⟩, ?_⟩
  · obtain ⟨through, hbound, hle, g, hg, hscope, hg', hseq⟩ := purgeBound_recent hf hrecent
    have hbelow := hfirst g hg hscope hg'
    constructor
    · intro h
      by_contra hleft
      obtain ⟨hpurged, e, he, hscope', hlt⟩ : (w.sequence f.scope).purgedThrough ≥ f.seq - 1 ∧
          ∃ e ∈ w.events, e.scope = f.scope ∧ e.seq < f.seq := by
        simpa only [not_or, not_lt, not_forall, not_le, exists_prop] using hleft
      have hkept := h e ⟨he, fun t ht => ?_⟩ hscope'
      · omega
      · rw [hscope'] at ht ⊢
        cases hbound.symm.trans ht
        omega
    · rintro h e ⟨he, hkept⟩ hscope'
      rcases h with hpast | hnone
      · have hout := hkept through (hscope' ▸ hbound)
        rw [hscope'] at hout
        omega
      · exact hnone e he hscope'
  · obtain ⟨through, hbound, hle, -⟩ := purgeBound_recent he hrecent
    intro t ht
    cases hbound.symm.trans ht
    omega
  · intro e he hout e' he' hscope hle h
    refine hout ⟨he, fun through hbound => ?_⟩
    have := h.2 through (hscope ▸ hbound)
    rw [hscope] at this
    omega

/-- The table after the three inserts. -/
def threeStored : World :=
  (Pool.run (Stmt.exec noOwners) (Task.prog noOwners) threeEvents ⟨{}, []⟩).2.shared

theorem pruneEvents_threeStored : threeStored.events.map (·.eventTime) = [10, 20, 60] ∧
    ∀ e ∈ (quiet noOwners (pruneEvents 50 4) threeStored).2.events, e.scope = "c" → 3 ≤ e.seq :=
  ⟨by decide, ((pruneEvents_leaves_recent_iff noOwners (by decide) (by decide) (by decide)).1
    (threeStored.events.get ⟨2, by decide⟩) (by decide) (by decide) (by decide)).mpr
      (.inl (by decide))⟩

/-- A pass that is stopped before its DELETE leaves all events, and so does the next one. -/
theorem pruneEvents_leaves_old :
    let stopped := ((pruneEvents 50 4).run (Stmt.exec noOwners)
      (fun n => if n = 3 then .refused else .executed) threeStored).2
    (quiet noOwners (pruneEvents 50 4) stopped).2.events.map (·.eventTime) = [10, 20, 60] := by
  decide +kernel

end Acs.EventStream
