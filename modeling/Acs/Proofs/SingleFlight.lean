/-
One request at a time, over USP.

`tryDispatch` asks whether a request of the device is outstanding and leases when
none is.  The query and the lease are two statements, and nothing keeps a second
dispatcher from leasing in between.  The device has two outstanding requests exactly
when that happens and the other's request is still unanswered.

The count of leases that the query saw tells whether anything was leased since; it
only grows, so a query that a lease rests on lies before it.
-/
import Acs.Proofs.Invariants
import Mathlib.Algebra.BigOperators.Group.List.Basic

namespace Acs

open JobTable Option Job

/-! ### Counting leases -/

variable {t : JobTable} {w : World} {ev : Event} {d : String}

theorem JobTable.sum_update {sel : Job → Bool} {set : Job → JobState} {f : Job → Nat}
    (h : ∀ j, f (apply sel set j) = f j) :
    ((t.update sel set).rows.map f).sum = (t.rows.map f).sum := by
  show ((t.rows.map (apply sel set)).map f).sum = _
  rw [List.map_map]
  exact congrArg List.sum (List.map_congr_left fun j _ => h j)

theorem JobTable.sum_lease {row : Job} (hrow : row ∈ t.rows) (set : Job → JobState) (f : Job → Nat) :
    ((t.update (·.id = row.id) set).rows.map f).sum + f row =
      (t.rows.map f).sum + f (apply (·.id = row.id) set row) := by
  have hperm := List.perm_cons_erase hrow
  have hnodup : t.rows.Nodup := .of_map _ t.ids
  have hrest : ∀ j ∈ t.rows.erase row, apply (·.id = row.id) set j = j := by
    intro j hj
    obtain ⟨hne, hmem⟩ := hnodup.mem_erase_iff.mp hj
    have hid : ¬ j.id = row.id := fun hid =>
      hne (List.inj_on_of_nodup_map t.ids hmem hrow hid)
    simp [apply, hid]
  show ((t.rows.map (apply (·.id = row.id) set)).map f).sum + _ = _
  rw [List.map_map, (hperm.map _).sum_eq, (hperm.map f).sum_eq, List.map_cons, List.map_cons,
    List.sum_cons, List.sum_cons]
  have hcongr : (t.rows.erase row).map (f ∘ apply (·.id = row.id) set) =
      (t.rows.erase row).map f :=
    List.map_congr_left fun j hj => congrArg f (hrest j hj)
  rw [hcongr]
  simp only [Function.comp]
  omega

theorem insert_leases {jobs : JobTable} {spec : JobSpec} {payload : Payload}
    (h : w.jobs.insert (newJob spec payload w.now) = some jobs) (d : String) :
    World.leases { w with jobs := jobs } d = w.leases d := by
  have hnew : (if (newJob spec payload w.now).deviceID = d then
      (newJob spec payload w.now).attempts else 0) = 0 := by
    split <;> rfl
  unfold JobTable.insert at h
  split at h
  · cases h
    simpa [World.leases] using hnew
  · cases h

/-- An update counts as no lease. -/
theorem Update.sets_attempts (u : Update) (now : Time) (row : Job) :
    (u.sets now row).attempts = row.attempts := by
  cases u with
  | applyDroppedSessionAction j a => cases a <;> rfl
  | _ => rfl

theorem takeLease_leases {taken : Option Job} {status : Status} {owner : Owner} {duration : Time}
    (hmem : ∀ row, taken = some row → row ∈ w.jobs.rows) (d : String) :
    (w.takeLease taken status owner duration).2.leases d =
      w.leases d + if (join (w.takeLease taken status owner duration).1).any
        (·.deviceID = d) then 1 else 0 := by
  cases htaken : taken with
  | none => rfl
  | some row =>
    have hsum := sum_lease (hmem row htaken) (·.leased status owner duration w.now)
      fun j => if j.deviceID = d then j.attempts else 0
    have hafter : (apply (·.id = row.id) (·.leased status owner duration w.now)
        row).attempts = row.attempts + 1 := by
      simp [apply, withState, leased]
    show ((w.jobs.update _ _).rows.map _).sum = (w.jobs.rows.map _).sum +
      if (some (row.leaseCopy status)).any _ then 1 else 0
    simp only [hafter, show (apply (·.id = row.id)
      (·.leased status owner duration w.now) row).deviceID = row.deviceID from
      congrArg JobSpec.deviceID (apply_toJobSpec _ _ row)] at hsum
    by_cases hd : row.deviceID = d <;> simp [hd, leaseCopy] at hsum ⊢ <;> omega

/-- **The count grows with each lease of a job of the device, and with nothing else.** -/
theorem leases_step (hlegal : ev.Legal exec) (d : String) :
    ev.post.leases d = ev.pre.leases d +
      if (leasedJob ev).any (·.deviceID = d) then 1 else 0 := by
  obtain ⟨s, c, w, rfl⟩ := hlegal.eq_fire
  show (exec s c w).2.leases d = (w.tick c).leases d + _
  by_cases hfails : c.fails
  · cases s with
    | lease | leaseNextByType | update | insert | queueDiscoveryIfNeeded | openSession
    | setCurrentJob | closeSession =>
      simp [exec, Stmt.effect, hfails, leasedJob, Pool.fire]
    | _ => rfl
  · cases s with
    | lease d' types uspOnly owner seen =>
      show _ = _ + if (join (exec (.lease d' types uspOnly owner seen) c w).1).any _
        then 1 else 0
      rw [exec_lease hfails]
      exact takeLease_leases (fun row htaken => (oldest_some htaken).1) d
    | leaseNextByType type owner =>
      show _ = _ + if (join (exec (.leaseNextByType type owner) c w).1).any _ then 1 else 0
      rw [exec_leaseNextByType hfails]
      exact takeLease_leases (fun row htaken => (oldest_some htaken).1) d
    | update cause u =>
      rw [exec_update hfails]
      refine sum_update ?_
      intro j
      unfold apply
      split
      · simp [withState, Update.sets_attempts]
      · rfl
    | insert spec payload =>
      simp only [exec, Stmt.effect, hfails]
      split
      · rfl
      next jobs hinsert =>
        exact insert_leases hinsert d
    | queueDiscoveryIfNeeded spec payload =>
      simp only [exec, Stmt.effect]
      split
      · rfl
      · split
        · rfl
        next jobs hinsert =>
          exact insert_leases hinsert d
    | openSession | setCurrentJob | closeSession =>
      simp only [exec, Stmt.effect]
      split <;> rfl
    | _ => rfl

theorem leases_mono {w' : World} {evs : List Event} (h : Pool.Chain w evs w')
    (hlegal : ∀ ev ∈ evs, ev.Legal exec) (d : String) : w.leases d ≤ w'.leases d :=
  (h.keeps (I := fun v => w.leases d ≤ v.leases d)
    (fun ev hev hpre => le_trans hpre (by rw [leases_step (hlegal ev hev) d]; omega))
    (le_rfl)).1

/-! ### Outstanding requests -/

theorem outstanding_iff : w.outstanding d ↔
    ∃ id row, w.jobs.find id = some row ∧ row.deviceID = d ∧ row.status = .rpcSent := by
  simp only [World.outstanding, List.any_eq_true, Bool.and_eq_true, decide_eq_true_eq]
  constructor
  · rintro ⟨row, hrow, hd, hstatus⟩
    exact ⟨row.id, row, find_of_mem hrow, hd, hstatus⟩
  · rintro ⟨id, row, hrow, hd, hstatus⟩
    exact ⟨row, (find_eq_some hrow).1, hd, hstatus⟩

theorem RowStep.rpcSent {r : Option Job} {row' : Job} (h : RowStep ev r (some row'))
    (hstatus : row'.status = .rpcSent) :
    (∃ row, r = some row ∧ row.deviceID = row'.deviceID ∧ row.status = .rpcSent) ∨
      ∃ d types uspOnly owner seen j, ev.stmt = .lease d types uspOnly owner seen ∧
        leasedJob ev = some j ∧ j.id = row'.id ∧ j.deviceID = d ∧ row'.deviceID = d := by
  generalize hr' : some row' = r' at h
  cases h with
  | same => exact .inl ⟨row', hr'.symm, rfl, hstatus⟩
  | leased hstmt hsel hcopy =>
    rw [some.inj hr']
    simp only [leasable, Bool.and_eq_true, decide_eq_true_eq] at hsel
    exact .inr ⟨_, _, _, _, _, _, hstmt, hcopy, rfl, hsel.1.1.1, hsel.1.1.1⟩
  | leasedByType =>
    rw [some.inj hr'] at hstatus
    cases hstatus
  | updated hstmt hexec hsel =>
    rw [some.inj hr'] at hstatus ⊢
    rw [updated_status] at hstatus
    exact .inl ⟨_, rfl, rfl, (Update.rpcSent_after ev.post.now hstatus).1⟩
  | inserted =>
    rw [some.inj hr'] at hstatus
    cases hstatus

/-- Nothing was outstanding at this count of leases, or more were made since. -/
def ClearSince (d : String) (n : Nat) (w : World) : Prop :=
  n ≤ w.leases d ∧ (w.leases d = n → w.outstanding d = false)

theorem clearSince_step (hlegal : ev.Legal exec) {n : Nat} (hpre : ClearSince d n ev.pre) :
    ClearSince d n ev.post := by
  have hcount := leases_step hlegal d
  refine ⟨by have := hpre.1; omega, ?_⟩
  intro hn
  by_contra hout
  obtain ⟨id, row', hrow', hd, hstatus⟩ := outstanding_iff.mp (by simpa using hout)
  have hcases := rowStep hlegal id
  rw [hrow'] at hcases
  rcases hcases.rpcSent hstatus with ⟨row, hrow, hd', hsent⟩ | ⟨_, _, _, _, _, j, _, hj, _, hjd, hd'⟩
  · have hclear := hpre.2 (by have := hpre.1; omega)
    rw [outstanding_iff.mpr ⟨id, row, hrow, hd'.trans hd, hsent⟩] at hclear
    cases hclear
  · -- a lease would have been counted
    have hjd : j.deviceID = d := hjd.trans (hd'.symm.trans hd)
    rw [hj] at hcount
    simp only [any_some, hjd, decide_true, if_true] at hcount
    have := hpre.1
    omega

theorem clearSince_of_foundClear (hlegal : ev.Legal exec) {n : Nat}
    (h : foundClear ev = some (d, n)) : ev.pre.leases d = n ∧ ClearSince d n ev.post := by
  obtain ⟨s, c, w, rfl⟩ := hlegal.eq_fire
  cases s with
  | hasOutstandingRPC d' =>
    have hres : (exec (.hasOutstandingRPC d') c w).1 =
        if c.fails then none else some ((w.tick c).outstanding d', (w.tick c).leases d') := rfl
    replace h : foundClear ⟨.hasOutstandingRPC d', (exec (.hasOutstandingRPC d') c w).1, w,
      w.tick c⟩ = some (d, n) := h
    rw [hres] at h
    by_cases hfails : c.fails
    · simp [hfails, foundClear] at h
    · cases hout : (w.tick c).outstanding d' with
      | true => simp [hfails, hout, foundClear] at h
      | false =>
        simp only [hfails, hout, foundClear, Bool.false_eq_true, if_false, some.injEq,
          Prod.mk.injEq] at h
        obtain ⟨rfl, rfl⟩ := h
        exact ⟨rfl, le_rfl, fun _ => hout⟩
  | _ => cases h

/-! ### Leases -/

/-- The requests outstanding at a device are one request. -/
def World.SingleFlight (w : World) (d : String) : Prop :=
  ∀ r₁ ∈ w.jobs.rows, ∀ r₂ ∈ w.jobs.rows, r₁.deviceID = d → r₁.status = .rpcSent →
    r₂.deviceID = d → r₂.status = .rpcSent → r₁ = r₂

/-- Where jobs of the device were leased between a dispatcher's query and its lease,
none of them is outstanding any more. -/
def leasesWhenClear (d : String) : Event → Bool
  | ⟨.lease d' _ true _ (some n), some (some _), pre, _⟩ =>
    d' ≠ d || pre.leases d = n || !pre.outstanding d
  | _ => true

/-- The device never sends an Inform. -/
def UspOnly (d : String) (as : List Action) : Prop :=
  ∀ t ∈ Pool.started as, t.informs ≠ some d

section

variable {as : List Action} {d : String}

theorem UspOnly.covers (h : UspOnly d as) : Scope.Covers { cwmp := (· ≠ d) } as :=
  fun t ht => ⟨fun _ hd' => ⟨fun heq => h t ht (heq ▸ hd'), trivial⟩, fun _ _ => trivial⟩

variable {ev : Event} {j : Job}

/-- A query with the count of leases that a lease finds lies before it. -/
theorem clear_of_count (hev : ev ∈ runTrace as) {n : Nat} (hj : leasedJob ev = some j)
    (hjd : j.deviceID = d) (hclear : (runFacts as { cwmp := (· ≠ d) }).clear d n)
    (hn : ev.pre.leases d = n) :
    ev.pre.outstanding d = false := by
  obtain ⟨query, hquery, hfound⟩ := hclear
  obtain ⟨hcount, hsince⟩ := clearSince_of_foundClear (runTrace_legal as query hquery) hfound
  rcases (runTrace_chain as).order hquery hev with rfl | ⟨mid, hmid, hsub⟩ | ⟨mid, hmid, hsub⟩
  · obtain ⟨s, r, pre, post⟩ := query
    cases s with
    | hasOutstandingRPC => cases hj
    | _ => cases hfound
  · have hkept := hmid.keeps (I := ClearSince d n)
      (fun e he => clearSince_step (runTrace_legal as e (hsub e he))) hsince
    exact hkept.1.2 hn
  · have hmono := leases_mono hmid (fun e he => runTrace_legal as e (hsub e he)) d
    have hstep := leases_step (runTrace_legal as ev hev) d
    rw [hj] at hstep
    simp only [any_some, hjd, decide_true, if_true] at hstep
    omega

section

variable (husp : UspOnly d as) (hcond : ∀ ev ∈ runTrace as, leasesWhenClear d ev)
  (hev : ev ∈ runTrace as)

include husp hcond hev

theorem clear_at_lease {types : List JobType} {uspOnly : Bool} {owner : Owner} {seen : Option Nat}
    (hstmt : ev.stmt = .lease d types uspOnly owner seen) (hj : leasedJob ev = some j)
    (hjd : j.deviceID = d) : ev.pre.outstanding d = false := by
  have hw := (run_sound husp.covers nofun ev hev).2.stmt
  rw [hstmt] at hw
  cases uspOnly with
  | false => exact absurd rfl hw.1
  | true =>
    obtain ⟨_, _, _, n, rfl, hclear⟩ := hw
    by_cases hn : ev.pre.leases d = n
    · exact clear_of_count hev hj hjd hclear hn
    · have hc := hcond ev hev
      obtain ⟨s, r, pre, post⟩ := ev
      cases hstmt
      rw [join_eq_some_iff.mp (show join r = some j from hj)] at hc
      simpa [leasesWhenClear, hn] using hc

theorem singleFlight_step (hpre : ev.pre.SingleFlight d) : ev.post.SingleFlight d := by
  intro r₁ hr₁ r₂ hr₂ hd₁ hs₁ hd₂ hs₂
  have hlegal := runTrace_legal as ev hev
  -- a row is outstanding because it was, or it is the one just leased and no other was
  have horigin : ∀ r ∈ ev.post.jobs.rows, r.deviceID = d → r.status = .rpcSent →
      (∃ row ∈ ev.pre.jobs.rows, row.id = r.id ∧ row.deviceID = d ∧ row.status = .rpcSent) ∨
        (leasedJob ev).any (·.id = r.id) ∧ ev.pre.outstanding d = false := by
    intro r hr hd hs
    have hcases := rowStep hlegal r.id
    rw [find_of_mem hr] at hcases
    rcases hcases.rpcSent hs with ⟨row, hrow, hd', hsent⟩ |
      ⟨d', types, uspOnly, owner, seen, j, hstmt, hj, hid, hjd, hd'⟩
    · obtain ⟨hmem, hid⟩ := find_eq_some hrow
      exact .inl ⟨row, hmem, hid, hd'.trans hd, hsent⟩
    · obtain rfl : d' = d := hd'.symm.trans hd
      exact .inr ⟨by simp [hj, hid], clear_at_lease husp hcond hev hstmt hj hjd⟩
  have hnone : ev.pre.outstanding d = false → ¬ ∃ row ∈ ev.pre.jobs.rows,
      row.deviceID = d ∧ row.status = .rpcSent := by
    rintro hclear ⟨row, hmem, hd, hs⟩
    rw [outstanding_iff.mpr ⟨row.id, row, find_of_mem hmem, hd, hs⟩] at hclear
    cases hclear
  have hid : r₁.id = r₂.id := by
    rcases horigin r₁ hr₁ hd₁ hs₁ with ⟨row₁, hmem₁, hid₁, hrd₁, hrs₁⟩ | ⟨hj₁, hclear₁⟩ <;>
      rcases horigin r₂ hr₂ hd₂ hs₂ with ⟨row₂, hmem₂, hid₂, hrd₂, hrs₂⟩ | ⟨hj₂, hclear₂⟩
    · rw [← hid₁, ← hid₂, hpre row₁ hmem₁ row₂ hmem₂ hrd₁ hrs₁ hrd₂ hrs₂]
    · exact absurd ⟨row₁, hmem₁, hrd₁, hrs₁⟩ (hnone hclear₂)
    · exact absurd ⟨row₂, hmem₂, hrd₂, hrs₂⟩ (hnone hclear₁)
    · cases hj : leasedJob ev with
      | none => simp [hj] at hj₁
      | some j =>
        rw [hj, any_some, decide_eq_true_eq] at hj₁ hj₂
        exact hj₁.symm.trans hj₂
  exact List.inj_on_of_nodup_map ev.post.jobs.ids hr₁ hr₂ hid

end

/-- A lease of a second job while one is outstanding. -/
theorem two_in_flight (hlegal : ev.Legal exec) {types : List JobType} {uspOnly : Bool}
    {owner : Owner} {seen : Option Nat} (hstmt : ev.stmt = .lease d types uspOnly owner seen)
    (hj : leasedJob ev = some j) (hout : ev.pre.outstanding d) :
    ¬ ev.post.SingleFlight d := by
  intro hsingle
  obtain ⟨row, row', hlease⟩ := leaseStep hlegal hj
  obtain ⟨id, other, hother, hd, hsent⟩ := outstanding_iff.mp hout
  have hleased : row'.deviceID = d ∧ row'.status = .rpcSent := by
    have hcases := rowStep hlegal j.id
    rw [hlease.pre, hlease.post] at hcases
    generalize hr' : some row' = r' at hcases
    cases hcases with
    | same =>
      have hqueued := hlease.postStatus
      rw [some.inj hr', hlease.queued] at hqueued
      rcases hlease.status with hs | hs <;> rw [hs] at hqueued <;> cases hqueued
    | leased hstmt' hsel =>
      rw [hstmt] at hstmt'
      cases hstmt'
      rw [some.inj hr']
      simp only [leasable, Bool.and_eq_true, decide_eq_true_eq] at hsel
      exact ⟨hsel.1.1.1, rfl⟩
    | leasedByType hstmt' | updated hstmt' => rw [hstmt] at hstmt'; cases hstmt'
  have hkept : ev.post.jobs.find id = some other := by
    have hcases := rowStep hlegal id
    rw [hother] at hcases
    generalize hr' : ev.post.jobs.find id = r' at hcases
    cases hcases with
    | same => rfl
    | leased _ hsel =>
      simp only [leasable, Bool.and_eq_true, decide_eq_true_eq] at hsel
      rw [hsent] at hsel
      cases hsel.1.1.2
    | leasedByType hstmt' | updated hstmt' => rw [hstmt] at hstmt'; cases hstmt'
  have hpost := find_eq_some hlease.post
  have heq := hsingle row' hpost.1 other (find_eq_some hkept).1 hleased.1 hleased.2 hd hsent
  have hid : j.id = id := by rw [← hpost.2, heq, (find_eq_some hkept).2]
  have hpre := hlease.pre
  rw [hid, hother] at hpre
  rw [some.inj hpre, hlease.queued] at hsent
  cases hsent

end

/-- **A device reached only over USP has one request outstanding at a time exactly
when no lease comes while a job leased since its dispatcher's query is outstanding.** -/
theorem usp_single_flight_iff (as : List Action) (d : String) (husp : UspOnly d as) :
    ((runEnd as).shared.SingleFlight d ∧
      ∀ ev ∈ runTrace as, ev.pre.SingleFlight d ∧ ev.post.SingleFlight d) ↔
    ∀ ev ∈ runTrace as, leasesWhenClear d ev = true := by
  constructor
  · rintro ⟨_, hsingle⟩ ev hev
    have hlegal := runTrace_legal as ev hev
    have hpost := (hsingle ev hev).2
    obtain ⟨s, r, pre, post⟩ := ev
    unfold leasesWhenClear
    split
    next d' types owner n j pre post heq =>
      cases heq
      by_cases hd : d' = d
      · subst hd
        have hclear : pre.outstanding d' = false := by
          by_contra hout
          exact two_in_flight hlegal rfl rfl (by simpa using hout) hpost
        simp [hclear]
      · simp [hd]
    · rfl
  · intro hcond
    refine (runTrace_chain as).keeps (I := fun w => w.SingleFlight d)
      (fun ev hev => singleFlight_step husp hcond hev) ?_
    intro r₁ hr₁
    cases hr₁

/-- Two reboots of one device, and two attempts to dispatch whose statements take the
given turns. -/
def twoDispatches (turns : List Nat) : List Action :=
  [.atomic (.create { id := "j1", commandKey := "k1", deviceID := "d", type := .reboot } .reboot)
      fun _ => {},
    .atomic (.create { id := "j2", commandKey := "k2", deviceID := "d", type := .reboot } .reboot)
      fun _ => {},
    .spawn (.tryDispatch [{ conn := some ⟨1, "agent"⟩, msgID := "m1" }] "d"),
    .spawn (.tryDispatch [{ conn := some ⟨1, "agent"⟩, msgID := "m2" }] "d")] ++
    turns.map fun i => .step i {}

/-- One dispatcher after the other: the second finds the first's request outstanding. -/
theorem usp_single_flight_iff_twoDispatches :
    (∀ ev ∈ runTrace (twoDispatches [0, 0, 1, 1, 0, 0]), leasesWhenClear "d" ev = true) ∧
      (runEnd (twoDispatches [0, 0, 1, 1, 0, 0])).shared.SingleFlight "d" := by
  have hcond : ∀ ev ∈ runTrace (twoDispatches [0, 0, 1, 1, 0, 0]),
      leasesWhenClear "d" ev = true := by
    decide +kernel
  have husp : UspOnly "d" (twoDispatches [0, 0, 1, 1, 0, 0]) := by
    unfold UspOnly
    decide
  exact ⟨hcond, ((usp_single_flight_iff _ "d" husp).mpr hcond).1⟩

/-- Both dispatchers ask before either leases, and the device gets both jobs. -/
theorem twoDispatches_two_in_flight :
    (Pool.started (twoDispatches [0, 1, 0, 1, 0, 0, 1, 1])).all (·.informs ≠ some "d") = true ∧
      (runEnd (twoDispatches [0, 1, 0, 1, 0, 0, 1, 1])).shared.jobs.rows.countP
        (fun j => j.deviceID = "d" && j.status = .rpcSent) = 2 ∧
      ((runTrace (twoDispatches [0, 1, 0, 1, 0, 0, 1, 1])).filterMap handedOver).map (·.id) =
        ["j1", "j2"] := by
  decide +kernel

end Acs
