/-
The pending reads of the subscription reconciler.

A pass registers its read in another section than the one that puts its connection in
`inFlight`, and one that has failed takes its entry back in yet another one.  As long as nobody
comes between these sections (`SubStmt.survives`), each device has at most one pending read and
it is on the connection in `inFlight`.

Nothing in the source looks at `inFlight` again before the read is registered, so a pass
that was superseded in between leaves a second one.
-/
import Acs.Uspc.Subscriptions

namespace Acs.Uspc

open Reconciler Assoc

/-- Reads and passes fit. -/
structure Reconciler.Consistent (s : Reconciler) : Prop where
  /-- A device has at most one pending read. -/
  single : ∀ id e id' e', s.pending.lookup id = some e → s.pending.lookup id' = some e' →
    e.kind = .read → e'.kind = .read → e.deviceID = e'.deviceID → id = id'
  /-- A pending read is on the connection recorded for its device. -/
  owner : ∀ id e, s.pending.lookup id = some e → e.kind = .read →
    s.inFlight.lookup e.deviceID = some e.conn

/-- No read of the device is pending. -/
def Reconciler.unread (s : Reconciler) (deviceID : String) : Bool :=
  s.pending.entries.all fun o => !o.2.reads deviceID

/-- What others may do while a statement is the next one of a task.  Until its read is
registered nobody else touches the entry of the device in `inFlight` or registers a read of the
device, and nobody does the latter until a pass that has failed has taken its entry back; the
read that is to be dropped stays. -/
def SubStmt.survives : SubStmt → Reconciler → Reconciler → Prop
  | .byDevice d, a, b =>
    b.inFlight.lookup d = a.inFlight.lookup d ∧ (a.unread d = true → b.unread d = true)
  | .register entry, a, b => entry.kind = .read →
    b.inFlight.lookup entry.deviceID = a.inFlight.lookup entry.deviceID ∧
      (a.unread entry.deviceID = true → b.unread entry.deviceID = true)
  | .drop msgID, a, b => (a.pending.lookup msgID).all (·.kind ≠ .read) = true ∨
    b.pending.lookup msgID = a.pending.lookup msgID
  | .clear d _, a, b => a.unread d = true → b.unread d = true
  | _, _, _ => True

instance (s : SubStmt) (a b : Reconciler) : Decidable (s.survives a b) := by
  unfold SubStmt.survives
  split <;> infer_instance

theorem survives_refl (s : SubStmt) (a : Reconciler) : s.survives a a := by
  cases s <;> simp [SubStmt.survives]

theorem survives_trans (s : SubStmt) (a b c : Reconciler) (h : s.survives a b)
    (h' : s.survives b c) : s.survives a c := by
  cases s <;> grind [SubStmt.survives]

/-- A Get that cannot be sent fails while its read is pending. -/
def SubEvent.failsPending : SubEvent → Bool
  | ⟨.send conn deviceID msgID (.get ..), false, pre, _⟩ =>
    (pre.pending.lookup msgID).any fun e => e.reads deviceID && e.conn = conn
  | _ => true

variable {s s' : Reconciler}

theorem reads_iff {e : PendingSubscribe} {deviceID : String} :
    e.reads deviceID ↔ e.kind = .read ∧ e.deviceID = deviceID := by
  simp [PendingSubscribe.reads]

theorem unread_iff {deviceID : String} : s.unread deviceID ↔
    ∀ id e, s.pending.lookup id = some e → e.kind = .read → e.deviceID ≠ deviceID := by
  simp only [Reconciler.unread, List.all_eq_true, Bool.not_eq_true', Bool.eq_false_iff, ne_eq,
    reads_iff, not_and]
  exact ⟨fun h id e hrow => h ⟨id, e⟩ (AList.mem_lookup_iff.mp hrow),
    fun h o ho => h o.1 o.2 (AList.mem_lookup_iff.mpr ho)⟩

/-- Entries go, and `inFlight` stays for the devices of the reads that are left. -/
theorem Reconciler.Consistent.of_subset (h : s.Consistent)
    (hsub : ∀ id e, s'.pending.lookup id = some e → s.pending.lookup id = some e)
    (hflight : ∀ id e, s'.pending.lookup id = some e → e.kind = .read →
      s'.inFlight.lookup e.deviceID = s.inFlight.lookup e.deviceID) : s'.Consistent where
  single id e id' e' hrow hrow' := h.single id e id' e' (hsub id e hrow) (hsub id' e' hrow')
  owner id e hrow hkind := (hflight id e hrow hkind).trans (h.owner id e (hsub id e hrow) hkind)

theorem consistent_start (h : s.Consistent) (deviceID : String) (conn : Conn) :
    (s.start deviceID conn).2.Consistent := by
  have hother : ∀ {e : PendingSubscribe}, e.deviceID ≠ deviceID →
      (s.inFlight.insert deviceID conn).lookup e.deviceID = s.inFlight.lookup e.deviceID :=
    fun hne => AList.lookup_insert_ne hne
  unfold start
  split
  next hnone =>
    refine h.of_subset (fun _ _ hrow => hrow) fun id e hrow hkind => hother ?_
    rintro rfl
    have howner := h.owner id e hrow hkind
    rw [hnone] at howner
    nomatch howner
  next existing hexisting =>
    split
    · exact h
    · have hselect : ∀ id e, (select (fun _ e => !(PendingSubscribe.reads e deviceID &&
          e.conn = existing)) s.pending).lookup id = some e →
          s.pending.lookup id = some e ∧ !(e.reads deviceID && e.conn = existing) := by
        intro id e hrow
        rw [lookup_select] at hrow
        simpa [Option.filter_eq_some_iff] using hrow
      refine h.of_subset (fun id e hrow => (hselect id e hrow).1) fun id e hrow hkind => hother ?_
      -- a read of the device is on the connection that is superseded
      intro hdevice
      obtain ⟨hrow, hkept⟩ := hselect id e hrow
      have howner := h.owner id e hrow hkind
      rw [hdevice, hexisting] at howner
      have hconn : e.conn = existing := (Option.some.inj howner).symm
      simp [reads_iff.mpr ⟨hkind, hdevice⟩, hconn] at hkept

/-- A pass that starts is the pass of its device, and no read is pending. -/
theorem started_start (h : s.Consistent) {deviceID : String} {conn : Conn}
    (hstarts : (s.start deviceID conn).1 = true) :
    (s.start deviceID conn).2.inFlight.lookup deviceID = some conn ∧
      (s.start deviceID conn).2.unread deviceID := by
  have hconsistent := consistent_start h deviceID conn
  rw [unread_iff]
  cases hlookup : s.inFlight.lookup deviceID with
  | none =>
    simp only [start, hlookup]
    refine ⟨AList.lookup_insert _, fun id e hrow hkind hdevice => ?_⟩
    have howner := h.owner id e hrow hkind
    rw [hdevice, hlookup] at howner
    cases howner
  | some existing =>
    by_cases heq : existing = conn
    · simp [start, hlookup, heq] at hstarts
    · simp only [start, hlookup, if_neg heq] at hconsistent ⊢
      refine ⟨AList.lookup_insert _, fun id e hrow hkind hdevice => ?_⟩
      -- The reads of the connection that is superseded are gone.
      have howner := hconsistent.owner id e hrow hkind
      rw [hdevice, AList.lookup_insert] at howner
      simp only [lookup_select, Option.filter_eq_some_iff] at hrow
      have howner' := h.owner id e hrow.1 hkind
      rw [hdevice, hlookup] at howner'
      exact heq ((Option.some.inj howner').trans (Option.some.inj howner).symm)

theorem pending_clear (deviceID : String) (conn : Conn) :
    (s.clear deviceID conn).pending = s.pending := by
  unfold clear
  split <;> rfl

section

variable (h : s.Consistent)

include h

theorem consistent_clear {deviceID : String} (conn : Conn) (hnone : s.unread deviceID) :
    (s.clear deviceID conn).Consistent := by
  refine h.of_subset (fun id e hrow => by rwa [pending_clear] at hrow) fun id e hrow hkind => ?_
  rw [pending_clear] at hrow
  unfold clear
  split
  · exact AList.lookup_erase_ne (unread_iff.mp hnone id e hrow hkind)
  · rfl

theorem consistent_drop (msgID : String) :
    Consistent { s with pending := s.pending.erase msgID } :=
  h.of_subset (fun _ _ hrow => (lookup_of_erase hrow).2) fun _ _ _ _ => rfl

/-- Without its one read a device has none. -/
theorem unread_drop {msgID : String} {e : PendingSubscribe} (he : s.pending.lookup msgID = some e)
    (hread : e.kind = .read) :
    Reconciler.unread { s with pending := s.pending.erase msgID } e.deviceID := by
  refine unread_iff.mpr fun id e' hrow hkind hdevice => ?_
  obtain ⟨hne, hrow⟩ := lookup_of_erase hrow
  exact hne (h.single id e' msgID e hrow he hkind hread hdevice)

theorem consistent_take (msgID : String) : (s.take msgID).2.Consistent := by
  unfold take
  split
  · exact h
  next entry hentry =>
    dsimp only
    split
    next hread => exact consistent_clear (consistent_drop h msgID) _ (unread_drop h hentry hread)
    · exact consistent_drop h msgID

theorem consistent_forget (c : Conn) : (s.forget c).Consistent := by
  have hselect : ∀ id e, (s.forget c).pending.lookup id = some e →
      s.pending.lookup id = some e ∧ e.conn ≠ c := by
    intro id e hrow
    rw [Reconciler.forget, lookup_select] at hrow
    simpa [Option.filter_eq_some_iff] using hrow
  refine h.of_subset (fun id e hrow => (hselect id e hrow).1) fun id e hrow hkind => ?_
  obtain ⟨hrow, hconn⟩ := hselect id e hrow
  rw [Reconciler.forget, lookup_select, h.owner id e hrow hkind, Option.filter_some]
  simp [hconn]

theorem consistent_register {entry : PendingSubscribe} (msgID : String)
    (hown : entry.kind = .read → s.inFlight.lookup entry.deviceID = some entry.conn ∧
      s.unread entry.deviceID) :
    Consistent { s with pending := s.pending.insert msgID entry } where
  single id e id' e' hrow hrow' hkind hkind' hdevice := by
    rcases lookup_of_insert hrow with ⟨rfl, rfl⟩ | ⟨-, hold⟩ <;>
      rcases lookup_of_insert hrow' with ⟨rfl, rfl⟩ | ⟨-, hold'⟩
    · rfl
    · exact absurd hdevice.symm (unread_iff.mp (hown hkind).2 id' e' hold' hkind')
    · exact absurd hdevice (unread_iff.mp (hown hkind').2 id e hold hkind)
    · exact h.single id e id' e' hold hold' hkind hkind' hdevice
  owner id e hrow hkind := by
    rcases lookup_of_insert hrow with ⟨rfl, rfl⟩ | ⟨-, hrow⟩
    · exact (hown hkind).1
    · exact h.owner id e hrow hkind

end

/-! ### The tasks -/

/-- The programs that keep the two maps consistent, if nobody comes in between. -/
abbrev SafeProg (p : SubProg Unit) (s : Reconciler) : Prop :=
  p.Keeps SubStmt.exec SubStmt.survives (fun _ _ => True) Consistent
    (fun ev => SubEvent.failsPending ev = true) (fun _ => True) (fun _ _ => True) s

/-- The statements that keep the maps consistent whatever others do. -/
def SubStmt.harmless : SubStmt → Prop
  | .register entry => entry.kind ≠ .read
  | .clear .. => False
  | _ => True

theorem consistent_harmless {stmt : SubStmt} (hstmt : stmt.harmless) (c : SubChoice)
    (h : s.Consistent) : (stmt.exec c s).2.Consistent := by
  cases stmt with
  | start deviceID conn => exact consistent_start h deviceID conn
  | register entry => exact consistent_register h _ fun hread => absurd hread hstmt
  | drop msgID => exact consistent_drop h msgID
  | clear => exact hstmt.elim
  | take msgID => exact consistent_take h msgID
  | forget c => exact consistent_forget h c
  | _ => exact h

theorem safe_of_harmless {p : SubProg Unit}
    (hp : p.Issues (fun _ _ => True) SubStmt.harmless) (s : Reconciler) : SafeProg p s :=
  (Prog.Guarded.of_all (fun _ c _ hstmt hG =>
    ⟨trivial, trivial, consistent_harmless hstmt c hG.2, trivial⟩) hp s).mono fun _ _ _ => trivial

theorem safe_clear {deviceID : String} (conn : Conn) (hnone : s.unread deviceID) :
    SafeProg (Prog.perform (SubStmt.clear deviceID conn)) s := fun _ _ hrely hG =>
  ⟨⟨trivial, consistent_clear hG.2 conn (hrely.1 hnone), trivial⟩, trivial⟩

theorem safe_reconcile (deviceID : String) (conn : Conn) (s : Reconciler) :
    SafeProg (reconcile deviceID conn) s := by
  intro s₁ c₁ _ hG₁
  refine ⟨⟨trivial, consistent_start hG₁.2 deviceID conn, trivial⟩, ?_⟩
  have hstarted : ((SubStmt.start deviceID conn).exec c₁ s₁).1 = true → _ := started_start hG₁.2
  generalize ((SubStmt.start deviceID conn).exec c₁ s₁).1 = starts at hstarted ⊢
  cases starts with
  | false => trivial
  | true =>
    obtain ⟨hflight, hnone⟩ := hstarted rfl
    intro s₂ c₂ hrely₂ hG₂
    refine ⟨⟨trivial, hG₂.2, trivial⟩, ?_⟩
    have hnone₂ := hrely₂.1.2 hnone
    change SafeProg (Prog.bind (.done c₂.rows) _) s₂
    cases c₂.rows with
    | none => exact safe_clear conn hnone₂
    | some rows =>
      intro s₃ c₃ hrely₃ hG₃
      have hflight₃ : s₃.inFlight.lookup deviceID = some conn :=
        (hrely₃.1 rfl).1.trans (hrely₂.1.1.trans hflight)
      refine ⟨⟨trivial, consistent_register hG₃.2 _ fun _ => ⟨hflight₃, (hrely₃.1 rfl).2 hnone₂⟩,
        trivial⟩, ?_⟩
      intro s₄ c₄ _ hG₄
      refine ⟨⟨trivial, hG₄.2, trivial⟩, ?_⟩
      change SafeProg (Prog.bind (.done c₄.sent) _) s₄
      cases hsent : c₄.sent with
      | true => trivial
      | false =>
        -- The read is still there, and is the only one of the device.
        obtain ⟨e, he, hreads⟩ : ∃ e, s₄.pending.lookup c₃.msgID = some e ∧ e.reads deviceID := by
          have hpending := hG₄.1
          simp only [Pool.fire, SubStmt.exec, hsent, SubEvent.failsPending, Option.any_eq_true,
            Bool.and_eq_true] at hpending
          exact hpending.imp fun e he => ⟨he.1, he.2.1⟩
        obtain ⟨hkind, rfl⟩ := reads_iff.mp hreads
        intro s₅ c₅ hrely₅ hG₅
        have hstays : s₅.pending.lookup c₃.msgID = some e := by
          have hrely : (s₄.pending.lookup c₃.msgID).all (·.kind ≠ .read) = true ∨
            s₅.pending.lookup c₃.msgID = s₄.pending.lookup c₃.msgID := hrely₅.1
          rw [he] at hrely
          simpa [hkind] using hrely
        exact ⟨⟨trivial, consistent_drop hG₅.2 _, trivial⟩,
          safe_clear conn (unread_drop hG₅.2 hstays hkind)⟩

theorem harmless_sendMessage (conn : Conn) (deviceID key : String) {kind : PendingKind}
    (hkind : kind ≠ .read) (msg : Message) :
    (sendMessage conn deviceID key kind msg).Issues (fun _ _ => True) SubStmt.harmless := by
  refine Prog.all_ask (s := SubStmt.register _) hkind fun msgID _ =>
    Prog.all_ask (s := SubStmt.send ..) trivial fun sent _ => ?_
  cases sent with
  | true => trivial
  | false => exact Prog.all_ask (s := SubStmt.drop _) trivial fun _ _ => trivial

theorem safe_task (isUUID : String → Bool) (t : SubTask) (s : Reconciler) :
    SafeProg (t.prog isUUID) s := by
  cases t with
  | reconcile deviceID conn => exact safe_reconcile deviceID conn s
  | response msgID answer =>
    refine safe_of_harmless (Prog.all_ask (s := SubStmt.take msgID) trivial fun entry _ => ?_) s
    cases entry with
    | none => trivial
    | some entry =>
      dsimp only
      split
      · refine Prog.all_each fun m _ => harmless_sendMessage _ _ _ ?_ _
        split <;> decide
      · trivial
  | disconnect c => exact safe_of_harmless (Prog.all_perform (s := SubStmt.forget c) trivial) s

/-- In a run where nobody comes between the sections of a pass, and a Get that cannot be sent
fails while its read is pending, no state has two pending reads of a device, or one that is not
on the connection in `inFlight`. -/
theorem pending_reads_consistent (isUUID : String → Bool) (as : List SubAction)
    (hrun : Pool.Undisturbed SubStmt.exec (SubTask.prog isUUID) SubStmt.survives as ⟨{}, []⟩)
    (hsent : ∀ ev ∈ subTrace isUUID as, SubEvent.failsPending ev = true) :
    ∀ ev ∈ subTrace isUUID as, ev.pre.Consistent ∧ ev.post.Consistent := by
  intro ev hev
  have hempty : Consistent {} := ⟨nofun, nofun⟩
  have hkept := (Pool.run_kept (W := fun _ => True) survives_refl survives_trans
    (fun _ => trivial) (fun _ _ _ _ _ => trivial) hempty (fun _ hp => absurd hp List.not_mem_nil)
    (fun t _ => safe_task isUUID t) hrun hsent).1 ev hev
  exact hkept.2

/-! ### Runs -/

def connA : Conn := ⟨1, "e", .webSocket⟩

def connB : Conn := ⟨2, "e", .webSocket⟩

/-- A step in which the rows are found and the next message has the id. -/
def answered (i : Nat) (msgID : String) : SubAction :=
  .step i { rows := some [], msgID := msgID }

/-- The second connection starts its pass when the first one's read is registered. -/
def superseded : List SubAction :=
  [.spawn (.reconcile "d" connA), .spawn (.reconcile "d" connB)] ++
    List.replicate 4 (answered 0 "a") ++ List.replicate 4 (answered 1 "b")

/-- It starts its pass just before. -/
def supersededBefore : List SubAction :=
  [.spawn (.reconcile "d" connA), .spawn (.reconcile "d" connB), answered 0 "a"] ++
    List.replicate 4 (answered 1 "b") ++ List.replicate 3 (answered 0 "a")

/-- What a run leaves pending, and in flight for the device. -/
def leaves (as : List SubAction) : List (String × Conn) × Option Conn :=
  let s := (Pool.run SubStmt.exec (SubTask.prog fun _ => true) as ⟨{}, []⟩).2.shared
  ((s.pending.entries.filter fun e => e.2.reads "d").map fun e => (e.1, e.2.conn),
    s.inFlight.lookup "d")

theorem pending_reads_consistent_superseded :
    leaves superseded = ([("b", connB)], some connB) ∧
    ∀ ev ∈ subTrace (fun _ => true) superseded, ev.pre.Consistent ∧ ev.post.Consistent :=
  ⟨by decide +kernel, pending_reads_consistent _ superseded (by decide +kernel) (by decide +kernel)⟩

/-- Two reads of one device are pending, and one is not on the connection in flight. -/
theorem two_pending_reads :
    leaves supersededBefore = ([("a", connA), ("b", connB)], some connB) := by
  decide +kernel

end Acs.Uspc
