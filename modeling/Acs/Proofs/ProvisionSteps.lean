/-
What a step of XMPP provisioning may do to its row.

A step creates a job only for a row that has none, and saves the row under the state it has
read it in.  Either the row stays in that state, and then in a state that adds an object it has
got its job, or it goes on to a state that comes later, and to DONE only from VERIFY.
-/
import Acs.Xmpp.Provisioner

namespace Acs.Xmpp

open State

/-! ### States -/

/-- The state adds an object to the device. -/
def State.adds (s : State) : Bool :=
  s = .addConnection || s = .addServer

/-- How far a run has come. -/
def State.rank : State → Nat
  | .addConnection => 0
  | .discoverConnection => 1
  | .addServer => 2
  | .discoverServer => 3
  | .configure => 4
  | .bind => 5
  | .verify => 6
  | .done => 7
  | .failed => 8

theorem State.rank_lt_failed {s : State} (h : s ≠ .failed) : s.rank < failed.rank := by
  cases s <;> first | decide | exact absurd rfl h

/-- A row that is saved without leaving its state; if that state adds an object it has its
job then. -/
def Provisioning.Stays (p : Provisioning) (s : State) : Prop :=
  p.state = s ∧ (s.adds = true → p.jobID.isSome = true)

/-- A row that is saved in the same state or in one further on. -/
def Provisioning.Follows (p : Provisioning) (s : State) : Prop :=
  s.rank < p.state.rank ∧ (p.state = .done → s = .verify) ∨ p.Stays s

/-- A statement of a step in state `st` that does not bring the row further, unless the run
fails. -/
def Stmt.Waits (st : State) : Stmt → Prop
  | .save p s => s = st ∧ (p.state = .failed ∨ p.Stays st)
  | .start p => p.state ≠ .done
  | .createJob p _ => p.jobID = none
  | _ => True

/-- A statement of a step in state `st`. -/
def Stmt.Forward (st : State) : Stmt → Prop
  | .save p s => s = st ∧ p.Follows st
  | .start p => p.state ≠ .done
  | .createJob p _ => p.jobID = none
  | _ => True

theorem Stmt.Waits.forward {s : Stmt} {st : State} (h : s.Waits st) (hst : st ≠ .failed) :
    s.Forward st := by
  cases s with
  | save p s =>
    refine ⟨h.1, h.2.imp_left fun hfailed => ?_⟩
    rw [hfailed]
    exact ⟨st.rank_lt_failed hst, nofun⟩
  | start p => exact h
  | createJob p _ => exact h
  | _ => trivial

/-! ### The programs -/

section Programs

/-- The statements of the program leave the row in its state. -/
abbrev OnlyWaits (st : State) {α : Type} (p : ProvProg α) : Prop :=
  p.All (fun _ _ => True) (Stmt.Waits st) fun _ => True

/-- The statements of the program bring the row forward. -/
abbrev GoesForward (st : State) {α : Type} (p : ProvProg α) : Prop :=
  p.All (fun _ _ => True) (Stmt.Forward st) fun _ => True

variable {α : Type} {p : Provisioning} {st : State}

theorem OnlyWaits.forward {q : ProvProg α} (h : OnlyWaits st q) (hst : st ≠ .failed) :
    GoesForward st q :=
  h.mono_stmt fun _ hs => hs.forward hst

theorem waits_then {s : Stmt} {f : s.Res → ProvProg α} (hf : ∀ r, OnlyWaits st (f r))
    (h : s.Waits st := by trivial) : OnlyWaits st (Prog.perform s >>= f) :=
  ⟨h, fun r _ => hf r⟩

theorem forward_then {s : Stmt} {f : s.Res → ProvProg α} (hf : ∀ r, GoesForward st (f r))
    (h : s.Forward st := by trivial) : GoesForward st (Prog.perform s >>= f) :=
  ⟨h, fun r _ => hf r⟩

theorem waits_ofCredentials (q : CredentialProg α) : OnlyWaits st (ofCredentials q) :=
  (Prog.all_true (R := fun _ _ => True) q).lift (fun _ _ _ => trivial) fun _ _ => trivial

theorem forward_advance {next : State} (h : p.state.rank < next.rank)
    (hdone : next = .done → p.state = .verify) : GoesForward p.state (advance p next) :=
  ⟨⟨rfl, .inl ⟨h, hdone⟩⟩, fun _ _ => trivial⟩

theorem waits_fail (text : String) : OnlyWaits p.state (fail p text) :=
  ⟨⟨rfl, .inl rfl⟩, fun _ _ => trivial⟩

theorem waits_retry {max : Nat} {reason : String} (hadds : p.state.adds = false) :
    OnlyWaits p.state (retry p max reason) := by
  unfold retry
  split
  · exact waits_fail _
  · refine ⟨⟨rfl, .inr ⟨rfl, fun hs => ?_⟩⟩, fun _ _ => trivial⟩
    rw [hadds] at hs
    cases hs

theorem waits_await {create : ProvProg Created}
    (hcreate : p.jobID = none → OnlyWaits p.state create) : OnlyWaits p.state (await p create) := by
  unfold await
  split
  next hjob =>
    refine (hcreate hjob).bind fun r _ => ?_
    cases r with
    | job id => exact ⟨⟨rfl, .inr ⟨rfl, fun _ => rfl⟩⟩, fun _ _ => trivial⟩
    | error | refused => trivial
  next id _ =>
    refine waits_then fun r => ?_
    cases r with
    | none => trivial
    | some job =>
      dsimp only
      split <;> trivial

theorem waits_create (payload : Payload) (hjob : p.jobID = none) :
    OnlyWaits st (create p payload) :=
  ⟨hjob, fun _ _ => trivial⟩

theorem forward_stepAddObject {object : String} {onCreated : String → Provisioning × State}
    (h : p.state ≠ .failed) (hnext : ∀ path, (onCreated path).1.state = p.state ∧
      p.state.rank < (onCreated path).2.rank ∧ (onCreated path).2 ≠ .done) :
    GoesForward p.state (stepAddObject p object onCreated) := by
  refine ((waits_await (waits_create _)).forward h).bind fun r _ => ?_
  cases r with
  | notDone | refused => trivial
  | finished job =>
    dsimp only
    split
    · exact (waits_fail _).forward h
    split
    · exact (waits_fail _).forward h
    · obtain ⟨hstate, hrank, hdone⟩ := hnext (instancePath object (job.instanceNumber.getD 0).toNat)
      rw [← hstate] at hrank ⊢
      exact forward_advance hrank fun heq => absurd heq hdone

theorem forward_stepDiscover {root : String} {next : Names → Discovered}
    (hadds : p.state.adds = false) (h : p.state ≠ .failed)
    (hnext : ∀ names p' s, next names = .next p' s → p'.state = p.state ∧
      p.state.rank < s.rank ∧ s ≠ .done) :
    GoesForward p.state (stepDiscover p root next) := by
  refine ((waits_await (waits_create _)).forward h).bind fun r _ => ?_
  cases r with
  | notDone | refused => trivial
  | finished job =>
    dsimp only
    split
    · exact (waits_retry hadds).forward h
    refine forward_then fun names => ?_
    cases names with
    | none => trivial
    | some names =>
      dsimp only
      cases hfound : next names with
      | notYet => exact (waits_retry hadds).forward h
      | fails text => exact (waits_fail _).forward h
      | next p' s =>
        obtain ⟨hstate, hrank, hdone⟩ := hnext names p' s hfound
        rw [← hstate] at hrank ⊢
        exact forward_advance hrank fun heq => absurd heq hdone

theorem forward_stepSet {next : State}
    {build : Names → ProvProg (Except String (List ParameterWrite))} (h : p.state ≠ .failed)
    (hnext : p.state.rank < next.rank) (hdone : next ≠ .done)
    (hbuild : ∀ names, OnlyWaits p.state (build names)) :
    GoesForward p.state (stepSet p next build) := by
  have hcreate : p.jobID = none → OnlyWaits p.state (createSet p build) := by
    intro hjob
    refine waits_then fun names => ?_
    cases names with
    | none => trivial
    | some names =>
      refine (hbuild names).bind fun writes _ => ?_
      cases writes with
      | error text => trivial
      | ok writes => exact waits_create _ hjob
  refine ((waits_await hcreate).forward h).bind fun r _ => ?_
  cases r with
  | notDone => trivial
  | refused text => exact (waits_fail _).forward h
  | finished job =>
    dsimp only
    split
    · exact (waits_fail _).forward h
    · exact forward_advance hnext fun heq => absurd heq hdone

theorem waits_buildConfigure (names : Names) : OnlyWaits st (buildConfigure p names) := by
  unfold buildConfigure
  split
  · trivial
  refine (waits_ofCredentials _).bind fun r _ => ?_
  cases r <;> trivial

theorem waits_createRead (hjob : p.jobID = none) : OnlyWaits st (createRead p) := by
  refine waits_then fun names => ?_
  cases names with
  | none => trivial
  | some names => exact waits_create _ hjob

theorem discoverConnection_next {names : Names} {p' : Provisioning} {s : State}
    (h : p.state = .discoverConnection) (hnext : discoverConnection p names = .next p' s) :
    p'.state = p.state ∧ p.state.rank < s.rank ∧ s ≠ .done := by
  simp only [discoverConnection] at hnext
  split at hnext
  · cases hnext
  split at hnext
  · cases hnext
    simp [h, rank]
  split at hnext
  · cases hnext
    simp [h, rank]
  · cases hnext

theorem forward_verified {e : Env} {job : JobOutcome} (h : p.state = .verify) :
    GoesForward p.state (verified e p job) := by
  refine forward_then fun values => ?_
  cases values with
  | none => trivial
  | some values =>
    have hstate : (p.reported values).state = .verify := h
    have hlive : (p.reported values).state ≠ .failed := by rw [hstate]; decide
    refine ((waits_ofCredentials _).forward hlive).bind fun r _ => ?_
    cases r with
    | retry => exact (waits_retry (by rw [hstate]; rfl)).forward hlive
    | failed => trivial
    | done => exact forward_advance (by rw [hstate]; decide) fun _ => hstate

theorem forward_stepVerify {e : Env} (h : p.state = .verify) :
    GoesForward p.state (stepVerify e p) := by
  have hread : GoesForward p.state (stepVerify.read e p) := by
    refine ((waits_await waits_createRead).forward (by rw [h]; decide)).bind fun r _ => ?_
    cases r with
    | notDone | refused => trivial
    | finished job => exact forward_verified h
  unfold stepVerify
  split
  · refine forward_then fun now => ?_
    split
    · trivial
    · exact hread
  · exact hread

theorem forward_step (e : Env) (p : Provisioning) : GoesForward p.state (step e p) := by
  have hlive : ∀ {s : State}, p.state = s → s ≠ .failed → p.state ≠ .failed := fun h hs => h ▸ hs
  unfold step
  split
  next h => exact forward_stepAddObject (hlive h (by decide)) fun _ => by simp [h, rank]
  next h =>
    exact forward_stepDiscover (by rw [h]; rfl) (hlive h (by decide))
      fun _ _ _ => discoverConnection_next h
  next h => exact forward_stepAddObject (hlive h (by decide)) fun _ => by simp [h, rank]
  next h =>
    refine forward_stepDiscover (by rw [h]; rfl) (hlive h (by decide)) fun _ _ _ hnext => ?_
    unfold discoverServer at hnext
    split at hnext
    · cases hnext
    · cases hnext
      simp [h, rank]
  next h =>
    exact forward_stepSet (hlive h (by decide)) (by rw [h]; decide) (by decide)
      fun _ => waits_buildConfigure _
  next h =>
    exact forward_stepSet (hlive h (by decide)) (by rw [h]; decide) (by decide) fun _ => trivial
  next h => exact forward_stepVerify h
  all_goals trivial

theorem waits_provisionXMPP (e : Env) (r : ProvisionRequest) :
    OnlyWaits st (provisionXMPP e r) := by
  refine waits_then fun inScope => ?_
  cases inScope with
  | false => trivial
  | true =>
    dsimp only
    split
    · trivial
    refine waits_then fun existing => ?_
    cases existing with
    | none => trivial
    | some existing =>
      dsimp only
      split
      · trivial
      refine waits_then fun names => ?_
      cases names with
      | none => trivial
      | some names =>
        dsimp only
        split
        · trivial
        refine waits_then fun values => ?_
        split
        · trivial
        refine (Prog.all_true (R := fun _ _ => True) _).lift (fun _ _ _ => trivial) fun s _ => ?_
        cases s with
        | startProvisioning deviceID credentialID =>
          show (r.row existing names credentialID).state ≠ .done
          simp only [ProvisionRequest.row]
          split <;> decide
        | _ => trivial

end Programs

/-- Texts are compared as they are, and quoted without escapes: an environment to run in. -/
def plainEnv : Env := ⟨fun a b => a = b, fun s => s⟩

end Acs.Xmpp
