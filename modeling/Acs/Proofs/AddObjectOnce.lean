/-
One object for each state of a provisioning run.

An ADD_OBJECT job is created before the row remembers it, and the `Save` that makes it
remember is guarded by the state alone, so that two replicas, or one that is restarted in
between, may create two.  But in the states that add an object a row never forgets its job and
never goes back, and a step creates a job only for a row that was listed without one.

A run is `steady` if listing a row, creating its job and saving it are not interleaved: no job
is created for a device between the listing of its row and the creation that follows it, and
the row is listed again only when the job has been saved.
-/
import Acs.Proofs.ProvisionSteps

namespace Acs.Xmpp

open Xmpp.World List Assoc

/-! ### The programs -/

/-- What a step saves follows what it has read, and it creates a job for a row without one. -/
def Stmt.Proceeds : Stmt → Prop
  | .save p s => p.Follows s
  | .createJob p _ => p.jobID = none
  | _ => True

theorem Stmt.Forward.proceeds {s : Stmt} {st : State} (h : s.Forward st) : s.Proceeds := by
  cases s with
  | save p s => exact h.1 ▸ h.2
  | createJob p _ => exact h
  | _ => trivial

theorem proceeds_prog (e : Env) (t : Task) :
    (t.prog e).Issues (fun _ _ => True) Stmt.Proceeds := by
  have hwaits : ∀ {q : ProvProg Unit}, OnlyWaits .verify q →
      q.Issues (fun _ _ => True) Stmt.Proceeds :=
    fun h => (h.forward (by decide)).mono_stmt fun _ hs => hs.proceeds
  cases t with
  | tick =>
    refine ⟨trivial, fun rows _ => ?_⟩
    cases rows with
    | none => trivial
    | some rows =>
      exact Prog.all_each fun p _ => (forward_step e p).mono_stmt fun _ hs => hs.proceeds
  | provision r => exact hwaits (waits_provisionXMPP e r)
  | credentials t => exact hwaits (waits_ofCredentials _)
  | deleteCredential id => exact hwaits (waits_then fun _ => trivial)

/-! ### The invariant -/

/-- The ADD_OBJECT jobs created for a state of a run. -/
def World.addObjectJobs (w : World) (g : Stage) : List (Stage × Payload) :=
  w.jobs.filter fun j => j.1 = g && match j.2 with
    | .addObject _ => true
    | _ => false

/-- If the row is one of the run, it has left the state or is in it with a job. -/
def Provisioning.Past (row : Provisioning) (g : Stage) : Prop :=
  row.run = g.run → g.state.rank < row.state.rank ∨ row.state = g.state ∧ row.jobID.isSome = true

/-- Every job that is saved stays in its row as long as the row is in the state, and for a row
that was listed without a job none has been created. -/
structure World.Settled (w : World) : Prop where
  started : ∀ d row, w.rows.lookup d = some row → row.run < w.runs
  known : ∀ g ∈ w.recorded, g.run < w.runs
  past : ∀ g ∈ w.recorded, g.state.adds →
    ∀ row, w.rows.lookup g.deviceID = some row → row.Past g
  once : ∀ g : Stage, g.state.adds → (w.addObjectJobs g).length ≤ 1
  keys : ∀ d row, w.rows.lookup d = some row → row.deviceID = d
  fresh : ∀ p ∈ w.read, p.jobID = none → p.state.adds → w.addObjectJobs p.stage = []

/-- No job has been created for the device since the row was listed, and a row is listed only
when the ADD_OBJECT job created for its state has been saved. -/
def Event.steady (ev : Event) : Bool :=
  match ev.stmt with
  | .createJob p (.addObject _) => p ∈ ev.pre.read
  | .listActive limit => (ev.pre.listActive limit).all fun row =>
    (ev.pre.addObjectJobs row.stage).isEmpty || row.stage ∈ ev.pre.recorded
  | _ => true

namespace World.Settled

variable {w : World} (h : w.Settled)

include h

theorem frame {w' : World} (hrows : w'.rows = w.rows) (hruns : w'.runs = w.runs)
    (hrecorded : w'.recorded = w.recorded) (hjobs : w'.jobs = w.jobs) (hread : w'.read = w.read) :
    w'.Settled := by
  obtain ⟨rows, credentials, runs, jobs, recorded, read⟩ := w'
  subst hrows hruns hrecorded hjobs hread
  exact ⟨h.started, h.known, h.past, h.once, h.keys, h.fresh⟩

/-- A row that is listed without a job has had none created in its state: one that was saved
would still be there. -/
theorem listActive {limit : Nat} (hsaved : ∀ row ∈ w.listActive limit,
      w.addObjectJobs row.stage = [] ∨ row.stage ∈ w.recorded) :
    ({ w with read := w.listActive limit ++ w.read } : World).Settled where
  started := h.started
  known := h.known
  past := h.past
  once := h.once
  keys := h.keys
  fresh := by
    intro p hp hjob hadds
    rcases mem_append.mp hp with hp | hp
    · refine (hsaved p hp).resolve_right fun hrecorded => ?_
      have hrow : w.rows.lookup p.deviceID = some p := by
        obtain ⟨entry, hentry, rfl⟩ := mem_map.mp (mem_of_mem_filter (mem_of_mem_limitBy hp))
        have hlookup := AList.mem_lookup_iff.mpr hentry
        rw [h.keys _ _ hlookup]
        exact hlookup
      rcases h.past p.stage hrecorded hadds p hrow rfl with hlater | ⟨-, hsome⟩
      · exact absurd hlater (Nat.lt_irrefl _)
      · rw [hjob] at hsome
        cases hsome
    · exact h.fresh p hp hjob hadds

theorem createJob {p : Provisioning} {payload : Payload} (hjob : p.jobID = none)
    (hread : ∀ o, payload = .addObject o → p ∈ w.read) : (w.createJob p payload).Settled where
  started := h.started
  known := h.known
  past := h.past
  once := by
    intro g hadds
    rw [addObjectJobs, World.createJob, filter_append, length_append]
    have hold := h.once g hadds
    rw [addObjectJobs] at hold
    by_cases hnew : p.stage = g
    · subst hnew
      cases payload with
      | addObject o =>
        have hnone := h.fresh p (hread o rfl) hjob hadds
        rw [addObjectJobs] at hnone
        rw [hnone]
        simp
      | _ => simpa using hold
    · simpa [hnew] using hold
  keys := h.keys
  fresh := by
    intro q hq hnone hadds
    obtain ⟨hq, hother⟩ := mem_filter.mp hq
    have hstage : p.stage ≠ q.stage := fun heq =>
      of_decide_eq_true hother (congrArg Stage.deviceID heq).symm
    have hold := h.fresh q hq hnone hadds
    rw [addObjectJobs] at hold
    rw [addObjectJobs, World.createJob, filter_append, hold]
    simp [hstage]

end World.Settled

/-- In a state that adds an object, a row that goes forward has a job or has left. -/
theorem Provisioning.Past.saved {row p : Provisioning} {g : Stage} {now : Time} (h : row.Past g)
    (hadds : g.state.adds) (hp : p.Follows row.state) : (row.saved p now).Past g := by
  intro hrun
  rcases h hrun with hleft | ⟨hstate, -⟩
  · rcases hp with ⟨hlater, -⟩ | ⟨hsame, -⟩
    · exact .inl (Nat.lt_trans hleft hlater)
    · exact .inl (hsame ▸ hleft)
  · rw [hstate] at hp
    exact hp.imp And.left fun hp => ⟨hp.1, hp.2 hadds⟩

namespace World.Settled

variable {w : World} (h : w.Settled)

include h

theorem save {p : Provisioning} {s : State} {now : Time} (hp : p.Follows s) :
    (w.save p s now).2.Settled := by
  unfold World.save
  cases hrow : w.rows.lookup p.deviceID with
  | none => exact h
  | some row =>
    dsimp only
    by_cases hs : row.state = s
    · subst hs
      rw [if_pos rfl]
      refine ⟨forall_lookup_insert (h.started _ row hrow) h.started, ?_, ?_, h.once,
        forall_lookup_insert (h.keys _ row hrow) h.keys, h.fresh⟩
      · intro g hg
        dsimp only at hg
        split at hg
        next hnew =>
          rcases mem_append.mp hg with hg | hg
          · exact h.known g hg
          · rw [mem_singleton.mp hg]
            exact (hnew.2.2 ▸ h.started _ row hrow : p.run < w.runs)
        · exact h.known g hg
      · intro g hg hadds
        dsimp only at hg
        have hold : g ∈ w.recorded → ∀ row', (w.rows.insert p.deviceID (row.saved p now)).lookup
            g.deviceID = some row' → row'.Past g := by
          intro hg row' hrow'
          rcases lookup_of_insert hrow' with ⟨heq, rfl⟩ | ⟨-, hrow'⟩
          · exact (h.past g hg hadds row (heq ▸ hrow)).saved hadds hp
          · exact h.past g hg hadds row' hrow'
        split at hg
        next hnew =>
          rcases mem_append.mp hg with hg | hg
          · exact hold hg
          · rw [mem_singleton.mp hg]
            intro row' hrow'
            rw [Provisioning.stage, AList.lookup_insert] at hrow'
            cases hrow'
            exact fun _ => .inr ⟨rfl, hnew.2.1⟩
        · exact hold hg
    · rw [if_neg hs]
      exact h

theorem begin (p : Provisioning) (now : Time) : (w.begin p now).Settled where
  started := forall_lookup_insert (Nat.lt_succ_self _) fun d row hd =>
    Nat.lt_succ_of_lt (h.started d row hd)
  known := fun g hg => Nat.lt_succ_of_lt (h.known g hg)
  past := by
    intro g hg hadds row hrow
    rcases lookup_of_insert hrow with ⟨-, rfl⟩ | ⟨-, hrow⟩
    · exact fun hrun => absurd hrun.symm (Nat.ne_of_lt (h.known g hg))
    · exact h.past g hg hadds row hrow
  once := h.once
  keys := forall_lookup_insert rfl h.keys
  fresh := h.fresh

theorem start (p : Provisioning) (now : Time) : (w.start p now).2.Settled := by
  unfold World.start
  split
  · exact h.begin p now
  · split
    · exact h.begin p now
    · exact h

theorem deleteCredential (id : String) : (w.deleteCredential id).Settled := by
  have hrows : ∀ d row, (w.deleteCredential id).rows.lookup d = some row →
      ∃ row₀, w.rows.lookup d = some row₀ ∧ row₀.withoutCredential id = row := by
    intro d row hd
    rw [World.deleteCredential, lookup_mapValues] at hd
    exact Option.map_eq_some_iff.mp hd
  refine ⟨fun d row hd => ?_, h.known, fun g hg hadds row hd => ?_, h.once, fun d row hd => ?_,
    h.fresh⟩ <;> obtain ⟨row₀, hrow₀, rfl⟩ := hrows _ row hd
  · exact h.started d row₀ hrow₀
  · exact h.past g hg hadds row₀ hrow₀
  · exact h.keys d row₀ hrow₀

theorem exec {s : Stmt} {c : Choice} (hs : s.Proceeds)
    (hsteady : Event.steady (Pool.fire Stmt.exec s c w)) : (s.exec c w).2.Settled := by
  cases s with
  | createJob p payload =>
    refine c.delivery.deliver_keeps h (h.createJob hs fun o ho => ?_)
    subst ho
    exact of_decide_eq_true hsteady
  | listActive limit =>
    refine c.delivery.deliver_keeps h (h.listActive fun row hrow => ?_)
    have hsaved : ((w.addObjectJobs row.stage).isEmpty || row.stage ∈ w.recorded) = true :=
      all_eq_true.mp hsteady row hrow
    simpa only [Bool.or_eq_true, List.isEmpty_iff, decide_eq_true_eq] using hsaved
  | save p s => exact c.delivery.deliver_keeps h (h.save hs)
  | start p => exact c.delivery.deliver_keeps h (h.start p c.now)
  | deleteCredential id => exact h.deleteCredential id
  | getRow => exact c.delivery.deliver_keeps h h
  | jobByID | getNames | getValues | clock => exact h
  | credential s => exact h.frame rfl rfl rfl rfl rfl

end World.Settled

theorem World.Settled.initial (credentials : CredentialTable) :
    (initial credentials).Settled where
  started := fun d row h => by simp [World.initial] at h
  known := nofun
  past := nofun
  once := fun g _ => Nat.zero_le 1
  keys := fun d row h => by simp [World.initial] at h
  fresh := nofun

/-- **In a steady run an object is asked for once.**  However many replicas tick and wherever
they are restarted, at most one ADD_OBJECT job is created for each state of each run that
adds an object. -/
theorem add_object_once (e : Env) (credentials : CredentialTable) (as : List Action)
    (h : ∀ ev ∈ events e as (initial credentials), ev.steady = true) :
    ∀ ev ∈ events e as (initial credentials), ∀ g : Stage,
      g.state = .addConnection ∨ g.state = .addServer → (ev.post.addObjectJobs g).length ≤ 1 := by
  intro ev hev g hg
  have hsettled := (Pool.run_rule (G := (Event.steady · = true))
    (fun _ _ _ hsteady hs hpre => ⟨trivial, Settled.exec hpre hs hsteady⟩)
    (fun p hp => absurd hp not_mem_nil) (Settled.initial credentials) (fun t _ => proceeds_prog e t) h ev hev).2.post
  exact hsettled.once g (by rcases hg with hg | hg <;> rw [hg] <;> rfl)

/-! ### A device that needs a server of its own -/

/-- A run for the device `d` is asked for. -/
def provisioned : Action :=
  .atomic (.provision
    { deviceID := "d", username := "cpe", password := "pw", domain := "acs", serverAddress := "xmpp" })
    fun _ => { names := some (AList.singleton connectionTable true), credential := { freshID := "c" } }

/-- One replica ticks, with the names the device has and jobs that end with instance 1. -/
def ticked : Action :=
  .atomic .tick fun _ =>
    { job := some { status := .success, instanceNumber := some 1 }
      names := some (([("Device.XMPP.Connection.1.Username", true),
        ("Device.XMPP.Connection.1.Server.", true)].map fun e => (⟨e.1, e.2⟩ : (_ : String) × Bool)).toAList) }

def connected : List Action :=
  provisioned :: List.replicate 5 ticked

/-- How many ADD_OBJECT jobs are created for a state of the first run. -/
def asked (as : List Action) (s : State) : Nat :=
  ((Pool.run Stmt.exec (Task.prog plainEnv) as ⟨initial .empty, []⟩).2.shared.addObjectJobs
    ⟨"d", 0, s⟩).length

theorem add_object_once_connected :
    asked connected .addConnection = 1 ∧
    ∀ ev ∈ events plainEnv connected (initial .empty), ∀ g : Stage,
      g.state = .addConnection ∨ g.state = .addServer → (ev.post.addObjectJobs g).length ≤ 1 :=
  ⟨by decide +kernel, add_object_once plainEnv .empty connected (by decide +kernel)⟩

/-- Two replicas that have both read the row create a job each.  So do one that is restarted
between the creation and the `Save`, and the one that ticks next. -/
theorem two_objects :
    asked [provisioned, .spawn .tick, .spawn .tick, .step 0 {}, .step 1 {}, .step 0 {}, .step 1 {}]
      .addConnection = 2 ∧
    asked [provisioned, .spawn .tick, .step 0 {}, .step 0 {}, ticked] .addConnection = 2 := by
  decide +kernel

end Acs.Xmpp
