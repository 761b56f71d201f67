/-
What a provisioning that is DONE has proved.

`stepVerify` looks the credential up twice.  If the first lookup does not find it, the
device's JID is compared with nothing; if the second does not find it, or finds it in GRACE
or REVOKED, nothing is activated; the row is DONE all the same.  So that a row enters DONE
only with the JID of an ACTIVE credential takes three things: both lookups find the
credential, PENDING or ACTIVE; nobody changes it from there until the row is saved; and the
row is still that of the credential and domain the step has read.
-/
import Acs.Proofs.ProvisionSteps

namespace Acs.Xmpp

open CredentialTable Prog Xmpp.Stmt Guarded

/-! ### What is asked of a run -/

/-- The credential a statement rests on. -/
def Stmt.watches : Stmt → Option String
  | .credential (.byID id .verification) | .credential (.byID id .reply)
  | .credential (.activate id) => some id
  | .save p _ => if p.state = .done then some p.credentialID else none
  | _ => none

/-- The changes a statement survives: those of other credentials. -/
def Stmt.survives (s : Stmt) (w w' : World) : Prop :=
  ∀ id ∈ s.watches, w'.credentials.byID id = w.credentials.byID id

instance (s : Stmt) (w w' : World) : Decidable (s.survives w w') :=
  inferInstanceAs (Decidable (∀ id ∈ s.watches, _))

/-- A verification finds its credential PENDING or ACTIVE, and a row that becomes DONE is
that of the credential and the domain the step has read. -/
def Event.clear : Event → Bool
  | ⟨.credential (.byID _ .verification), r, _, _⟩ =>
    match (r : Option (Option Credential)) with
    | some (some c) => c.status = .pending || c.status = .active
    | _ => false
  | ⟨.save p _, _, w, _⟩ =>
    p.state ≠ .done || (w.rows.lookup p.deviceID).all fun row =>
      p.credentialID ≠ "" && row.credentialID = p.credentialID && row.domain = p.domain
  | _ => true

/-- The row becomes DONE. -/
structure Event.EntersDone (ev : Event) (d : String) (row : Provisioning) : Prop where
  after : ev.post.rows.lookup d = some row
  done : row.state = .done
  before : ∀ row₀, ev.pre.rows.lookup d = some row₀ → row₀.state ≠ .done

/-- The recorded JID is that of the row's credential, which is ACTIVE. -/
def World.Proven (e : Env) (w : World) (row : Provisioning) : Prop :=
  ∃ c, w.credentials.byID row.credentialID = some c ∧ c.status = .active ∧
    e.equalFold (bareJID row.jabberID) (c.username ++ "@" ++ row.domain) = true

def Event.Proves (e : Env) (ev : Event) : Prop :=
  ∀ d row, ev.EntersDone d row → ev.post.Proven e row

open Event

/-! ### One statement -/

section Statements

variable {e : Env} {w : World} {c : Choice}

theorem proves_of_rows {ev : Event} (h : ev.post.rows = ev.pre.rows) : ev.Proves e :=
  fun _ row hdone => absurd hdone.done (hdone.before row (h ▸ hdone.after))

/-- A statement whose outcome may be lost enters DONE only if it does when it is executed. -/
theorem proves_deliver {α : Type} {s : Stmt} {r : s.Res} {answer : α} {after : World}
    (h : ∀ d row, after.rows.lookup d = some row → row.state = .done →
      (∀ row₀, w.rows.lookup d = some row₀ → row₀.state ≠ .done) → after.Proven e row) :
    Proves e ⟨s, r, w, (c.delivery.deliver answer w after).2⟩ := by
  rcases c.delivery.deliver_state answer w after with heq | heq <;> rw [heq]
  · exact proves_of_rows rfl
  · exact fun d row hdone => h d row hdone.after hdone.done hdone.before

theorem proves_save {p : Provisioning} {s : State}
    (h : p.state = .done → ∀ row, w.rows.lookup p.deviceID = some row →
      (w.save p s c.now).2.Proven e (row.saved p c.now)) :
    Proves e (Pool.fire Stmt.exec (.save p s) c w) := by
  refine proves_deliver fun d row' hrow' hdone hbefore => ?_
  revert h hrow'
  unfold World.save
  cases hrow : w.rows.lookup p.deviceID with
  | none => exact fun _ hrow' => absurd hdone (hbefore row' hrow')
  | some row =>
    intro h hrow'
    dsimp only at hrow' h ⊢
    by_cases hs : row.state = s
    · rw [if_pos hs] at hrow' ⊢
      rcases Assoc.lookup_of_insert hrow' with ⟨-, rfl⟩ | ⟨-, hrow'⟩
      · have hproven := h hdone row rfl
        rwa [if_pos hs] at hproven
      · exact absurd hdone (hbefore row' hrow')
    · rw [if_neg hs] at hrow'
      exact absurd hdone (hbefore row' hrow')

theorem proves_waits {s : Stmt} {st : State} (hs : s.Waits st) (hst : st ≠ .done) :
    Proves e (Pool.fire Stmt.exec s c w) := by
  cases s with
  | save p s =>
    refine proves_save fun hdone => ?_
    rcases hs.2 with hfailed | hstays
    · rw [hfailed] at hdone
      cases hdone
    · exact absurd (hstays.1.symm.trans hdone) hst
  | start p =>
    refine proves_deliver fun d row hrow hdone hbefore => ?_
    have hkept : ∀ {m : StringMap Provisioning}, m = w.rows → m.lookup d = some row →
        ¬ row.state = .done := fun hm hfound => hbefore row (hm ▸ hfound)
    have hbegin : ¬ (w.begin p c.now).rows.lookup d = some row := by
      intro hfound
      rcases Assoc.lookup_of_insert hfound with ⟨-, rfl⟩ | ⟨-, hfound⟩
      · exact hs hdone
      · exact hkept rfl hfound hdone
    unfold World.start at hrow
    split at hrow
    · exact absurd hrow hbegin
    · split at hrow
      · exact absurd hrow hbegin
      · exact absurd hdone (hkept rfl hrow)
  | deleteCredential id =>
    intro d row hdone
    have hafter : (w.deleteCredential id).rows.lookup d = some row := hdone.after
    rw [World.deleteCredential, Assoc.lookup_mapValues] at hafter
    obtain ⟨row₀, hrow₀, rfl⟩ := Option.map_eq_some_iff.mp hafter
    exact absurd hdone.done (hdone.before row₀ hrow₀)
  | createJob | listActive | getRow =>
    exact proves_deliver fun d row hrow hdone hbefore => absurd hdone (hbefore row hrow)
  | jobByID | getNames | getValues | clock | credential => exact proves_of_rows rfl

theorem proves_forward {s : Stmt} {st : State} (hs : s.Forward st) (hverify : st ≠ .verify)
    (hst : st ≠ .done) : Proves e (Pool.fire Stmt.exec s c w) := by
  cases s with
  | save p s =>
    refine proves_save fun hdone => ?_
    rcases hs.2 with ⟨-, hfrom⟩ | hstays
    · exact absurd (hfrom hdone) hverify
    · exact absurd (hstays.1.symm.trans hdone) hst
  | _ => exact proves_waits hs hst

end Statements

/-! ### Activation -/

theorem byID_activate {t t' : CredentialTable} {id : String} {now : Time} {found : Bool}
    {cred : Credential} (h : t.byID id = some cred) (hact : t.activate id now = some (found, t')) :
    ∃ c, t'.byID id = some c ∧ c.status = .active ∧ c.username = cred.username := by
  simp only [activate, h] at hact
  obtain ⟨t'', ht'', heq⟩ := Option.map_eq_some_iff.mp hact
  cases heq
  have hid : cred.id = id := by simpa using List.find?_some h
  unfold ofRows at ht''
  split at ht''
  · cases ht''
    show ∃ c, (t.activateRows cred now).find? (·.id = id) = some c ∧ _
    rw [activateRows, Keyed.find_map (fun c => by split <;> rfl),
      Keyed.find_map (fun c => by split <;> rfl), show t.rows.find? (·.id = id) = some cred from h]
    refine ⟨_, rfl, ?_⟩
    dsimp only
    rw [if_pos (by split <;> rfl)]
    refine ⟨rfl, ?_⟩
    dsimp only
    split <;> rfl
  · cases ht''

/-! ### The programs -/

/-- The program is right in undisturbed runs, and ends where `Q` holds. -/
abbrev Verifies (e : Env) {α : Type} (Q : α → World → Prop) (p : ProvProg α) (w : World) : Prop :=
  p.Guarded Stmt.exec survives (clear · = true) (Proves e) Q w

section Programs

variable {α : Type} {e : Env} {w : World} {id : String}

theorem verifies_waits {s : State} (hs : s ≠ .done) {q : ProvProg α} (h : OnlyWaits s q) :
    Verifies e (fun _ _ => True) q w :=
  of_all (fun _ _ _ hstmt _ => ⟨trivial, proves_waits hstmt hs⟩) h w

theorem ofCredentials_bind {β : Type} (p : CredentialProg β) (f : β → CredentialProg α) :
    ofCredentials (p >>= f) = ofCredentials p >>= fun b => ofCredentials (f b) :=
  lift_bind _ _ p f

theorem found_of_clear {r : Option (Option Credential)} {w' : World}
    (h : clear ⟨.credential (.byID id .verification), r, w, w'⟩) :
    ∃ cred, r = some (some cred) ∧ (cred.status = .pending ∨ cred.status = .active) := by
  rcases r with _ | _ | cred
  · cases h
  · cases h
  · refine ⟨cred, rfl, ?_⟩
    simpa [clear] using h

theorem verifies_byID {purpose : LookupPurpose} (hp : purpose = .verification ∨ purpose = .reply) :
    Verifies e (fun r w' => w'.credentials.byID id = w.credentials.byID id ∧
      (purpose = .verification → ∃ cred, r = .found cred ∧ w.credentials.byID id = some cred ∧
        (cred.status = .pending ∨ cred.status = .active)))
      (ofCredentials (Credentials.byID id purpose)) w := by
  intro w' c hsurvives hclear
  have hsame : w'.credentials.byID id = w.credentials.byID id := by
    refine hsurvives id ?_
    rcases hp with rfl | rfl <;> rfl
  refine ⟨proves_of_rows rfl, ?_⟩
  show byID (c.credential.delivery.deliver (w'.credentials.byID id) w'.credentials
    w'.credentials).2 id = _ ∧ _
  rw [or_self_iff.mp (Delivery.deliver_state _ _ _ w'.credentials)]
  refine ⟨hsame, ?_⟩
  rintro rfl
  obtain ⟨cred, hcred, hstatus⟩ := found_of_clear hclear
  obtain ⟨hfound, -⟩ := c.credential.delivery.deliver_answer (w'.credentials.byID id) _ w'.credentials hcred
  exact ⟨cred, congrArg CredentialResult.ofRow hcred, hsame ▸ hfound.symm, hstatus⟩

theorem verifies_activate {cred : Credential} (h : w.credentials.byID id = some cred) :
    Verifies e (fun r w' => ∀ a, r = .found a → ∃ c, w'.credentials.byID id = some c ∧
      c.status = .active ∧ c.username = cred.username) (ofCredentials (Credentials.activate id)) w := by
  rw [Credentials.activate, ofCredentials_bind]
  refine bind (R := fun r w' => r = some true → ∃ c, w'.credentials.byID id = some c ∧
    c.status = .active ∧ c.username = cred.username) ?_ fun r w' hr => ?_
  · intro w' c hsurvives _
    refine ⟨proves_of_rows rfl, fun hanswer => ?_⟩
    change (c.credential.delivery.attempt w'.credentials
      (w'.credentials.activate id c.credential.now)).1 = some true at hanswer
    obtain ⟨t', ht', hstate⟩ := Delivery.attempt_answer _ hanswer
    show ∃ c', byID (c.credential.delivery.attempt w'.credentials
      (w'.credentials.activate id c.credential.now)).2 id = some c' ∧ _
    rw [hstate]
    exact byID_activate ((hsurvives id rfl).trans h) ht'
  · rcases r with _ | _ | _
    · nofun
    · nofun
    · refine (verifies_byID (.inr rfl)).mono fun r w'' hw'' a ha => ?_
      rw [hw''.1]
      exact hr rfl

/-- A verification that is done has compared the JID with the account of a credential that is
ACTIVE. -/
theorem verifies_stepVerify (report : XmppReport) (hid : report.credentialID ≠ "") :
    Verifies e (fun r w' => r = .done → ∃ c, w'.credentials.byID report.credentialID = some c ∧
      c.status = .active ∧
      e.equalFold (bareJID report.jabberID) (c.username ++ "@" ++ report.domain))
      (ofCredentials (Acs.stepVerify e.equalFold report)) w := by
  have hwant : Verifies e (fun want w' => ∃ cred, w'.credentials.byID report.credentialID = some cred ∧
      want = cred.username ++ "@" ++ report.domain) (ofCredentials (wantBare report)) w := by
    rw [wantBare, if_neg hid, ofCredentials_bind]
    refine (verifies_byID (.inl rfl)).bind fun r w' hr => ?_
    obtain ⟨cred, rfl, hcred, -⟩ := hr.2 rfl
    exact ⟨cred, hr.1.trans hcred, rfl⟩
  rw [Acs.stepVerify, ofCredentials_bind]
  refine hwant.bind fun want w₁ ⟨cred, hcred, hwant⟩ => ?_
  have hne : want ≠ "" := by
    intro hempty
    rw [hempty] at hwant
    have hlength := congrArg String.length hwant
    simp only [String.length_append, String.length_empty, show "@".length = 1 from rfl] at hlength
    omega
  split
  · nofun
  split
  · nofun
  split
  · nofun
  split
  · nofun
  next hfold =>
    have hfold : e.equalFold (bareJID report.jabberID) (cred.username ++ "@" ++ report.domain) := by
      simpa [hne, hwant] using hfold
    rw [ofCredentials_bind]
    refine (verifies_byID (.inl rfl)).bind fun r w₂ hr => ?_
    obtain ⟨found, rfl, hfound, hstatus⟩ := hr.2 rfl
    obtain rfl : cred = found := Option.some.inj (hcred.symm.trans hfound)
    dsimp only
    split
    · rw [ofCredentials_bind]
      refine (verifies_activate (hr.1.trans hcred)).bind fun r w₃ hr₃ => ?_
      cases r with
      | error | notFound => nofun
      | found a =>
        intro _
        obtain ⟨c, hc, hactive, husername⟩ := hr₃ a rfl
        exact ⟨c, hc, hactive, husername ▸ hfold⟩
    next hpending =>
      exact fun _ => ⟨cred, hr.1.trans hcred, hstatus.resolve_left hpending, hfold⟩

theorem save_credentials (p : Provisioning) (s : State) (now : Time) :
    (w.save p s now).2.credentials = w.credentials := by
  unfold World.save
  split
  · rfl
  · split <;> rfl

/-- The `Save` that enters DONE, with the credential as the verification has left it. -/
theorem verifies_done {q : Provisioning} (hq : q.credentialID ≠ "" →
      ∃ c, w.credentials.byID q.credentialID = some c ∧ c.status = .active ∧
        e.equalFold (bareJID q.jabberID) (c.username ++ "@" ++ q.domain)) :
    Verifies e (fun _ _ => True) (advance q .done) w := by
  intro w' c hsurvives hclear
  refine ⟨proves_save fun _ row hrow => ?_, trivial⟩
  have hsame : q.credentialID ≠ "" ∧ row.credentialID = q.credentialID ∧ row.domain = q.domain := by
    simpa [clear, Pool.fire, hrow, and_assoc] using hclear
  obtain ⟨hid, hcredential, hdomain⟩ := hsame
  obtain ⟨cred, hcred, hactive, hfold⟩ := hq hid
  refine ⟨cred, ?_, hactive, ?_⟩
  · rw [save_credentials]
    exact (congrArg _ hcredential).trans ((hsurvives q.credentialID rfl).trans hcred)
  · show e.equalFold (bareJID q.jabberID) (cred.username ++ "@" ++ row.domain)
    rw [hdomain]
    exact hfold

theorem verifies_verified {p : Provisioning} {job : JobOutcome} (h : p.state = .verify) :
    Verifies e (fun _ _ => True) (verified e p job) w := by
  have hvalues : Verifies e (fun _ _ => True) (perform (getValues p.deviceID)) w :=
    verifies_waits (s := .verify) (by decide) ⟨trivial, fun _ _ => trivial⟩
  refine hvalues.bind fun values w₁ _ => ?_
  cases values with
  | none => trivial
  | some values =>
    dsimp only
    generalize hq : p.reported values = q
    have hstate : q.state = .verify := by rw [← hq]; exact h
    have hverify : Verifies e (fun r w' => r = .done → q.credentialID ≠ "" →
        ∃ c, w'.credentials.byID q.credentialID = some c ∧ c.status = .active ∧
          e.equalFold (bareJID q.jabberID) (c.username ++ "@" ++ q.domain))
        (ofCredentials (Acs.stepVerify e.equalFold (q.report job))) w₁ := by
      by_cases hid : q.credentialID = ""
      · exact (verifies_waits (s := .verify) (by decide) (waits_ofCredentials _)).mono
          fun _ _ _ _ hne => absurd hid hne
      · exact (verifies_stepVerify (q.report job) hid).mono fun _ _ hr hdone _ => hr hdone
    refine hverify.bind fun r w₂ hr => ?_
    cases r with
    | retry =>
      exact verifies_waits (s := q.state) (by rw [hstate]; decide)
        (waits_retry (by rw [hstate]; rfl))
    | failed => trivial
    | done => exact verifies_done (hr rfl)

theorem verifies_stepVerifyRow {p : Provisioning} (h : p.state = .verify) :
    Verifies e (fun _ _ => True) (stepVerify e p) w := by
  have hread : ∀ w, Verifies e (fun _ _ => True) (stepVerify.read e p) w := by
    intro w
    have hawait := waits_await (p := p) (waits_createRead (p := p))
    refine (verifies_waits (by rw [h]; decide) hawait).bind fun r w₁ _ => ?_
    cases r with
    | notDone | refused => trivial
    | finished job => exact verifies_verified h
  unfold stepVerify
  split
  · have hclock : Verifies e (fun _ _ => True) (perform clock) w :=
      verifies_waits (s := .verify) (by decide) ⟨trivial, fun _ _ => trivial⟩
    refine hclock.bind fun now w₁ _ => ?_
    split
    · trivial
    · exact hread w₁
  · exact hread w

theorem verifies_step (p : Provisioning) : Verifies e (fun _ _ => True) (step e p) w := by
  by_cases hverify : p.state = .verify
  · rw [step, hverify]
    exact verifies_stepVerifyRow hverify
  · by_cases hdone : p.state = .done
    · rw [step, hdone]
      trivial
    · exact of_all
        (fun _ _ _ hs _ => ⟨trivial, proves_forward hs hverify hdone⟩) (forward_step e p) w

theorem verifies_prog (t : Task) : Verifies e (fun _ _ => True) (t.prog e) w := by
  cases t with
  | tick =>
    have hlist : Verifies e (fun _ _ => True) (perform (listActive xmppProvBatch)) w :=
      verifies_waits (s := .verify) (by decide) ⟨trivial, fun _ _ => trivial⟩
    refine hlist.bind fun rows w₁ _ => ?_
    cases rows with
    | none => trivial
    | some rows => exact each (I := fun _ _ => True) (fun p _ _ _ => verifies_step p) trivial
  | provision r => exact verifies_waits (s := .verify) (by decide) (waits_provisionXMPP e r)
  | credentials t => exact verifies_waits (s := .verify) (by decide) (waits_ofCredentials _)
  | deleteCredential id =>
    exact verifies_waits (s := .verify) (by decide) (waits_then fun _ => trivial)

end Programs

/-- **What DONE proves.**  If no verification misses its credential and nobody changes it
before the row is saved, a row enters DONE only with the JID of its credential's account at
its domain, and that credential is ACTIVE. -/
theorem done_proves_account (e : Env) (w : World) (as : List Action)
    (hrun : Pool.Undisturbed Stmt.exec (Task.prog e) survives as ⟨w, []⟩)
    (hclear : ∀ ev ∈ events e as w, ev.clear = true) :
    ∀ ev ∈ events e as w, ∀ d row, ev.EntersDone d row →
      ∃ c, ev.post.credentials.byID row.credentialID = some c ∧ c.status = .active ∧
        e.equalFold (bareJID row.jabberID) (c.username ++ "@" ++ row.domain) = true :=
  Pool.run_guarded (W := Proves e) (fun _ _ _ _ => rfl)
    (fun _ _ _ _ h h' id hid => (h' id hid).trans (h id hid)) (fun _ hp => absurd hp List.not_mem_nil)
    (fun t _ _ => verifies_prog t) hrun hclear

/-! ### A verification -/

/-- A row in VERIFY whose read has been queued, with a credential in the given status. -/
def verifying (status : CredentialStatus) : World where
  rows := AList.singleton "d"
    { deviceID := "d", state := .verify, credentialID := "c", jobID := some 0, domain := "acs" }
  credentials := (ofRows
    [{ id := "c", deviceID := "d", type := .xmpp, version := 1, username := "cpe", password := "pw",
       status, createdAt := 0 }]).getD .empty
  runs := 1
  jobs := []
  recorded := []
  read := []

/-- A replica ticks and finds the JID in the cache. -/
def reads (jid : String) (credential : CredentialChoice) : List Action :=
  [.atomic .tick fun _ =>
    { job := some { status := .success }
      values := some (AList.singleton "Device.ManagementServer.ConnReqJabberID" jid), credential }]

/-- The state of the row, the recorded JID and the status of the credential after a run. -/
def outcome (w : World) (as : List Action) : Option (State × String × Option CredentialStatus) :=
  let w' := (Pool.run Stmt.exec (Task.prog plainEnv) as ⟨w, []⟩).2.shared
  (w'.rows.lookup "d").map fun row =>
    (row.state, row.jabberID, (w'.credentials.byID "c").map (·.status))

theorem done_proves_account_pending :
    outcome (verifying .pending) (reads "cpe@acs/r" {}) =
      some (.done, "cpe@acs/r", some .active) ∧
    ∀ ev ∈ events plainEnv (reads "cpe@acs/r" {}) (verifying .pending), ∀ d row,
      ev.EntersDone d row → ∃ c, ev.post.credentials.byID row.credentialID = some c ∧
        c.status = .active ∧
        plainEnv.equalFold (bareJID row.jabberID) (c.username ++ "@" ++ row.domain) = true :=
  ⟨by decide +kernel, done_proves_account plainEnv (verifying .pending) (reads "cpe@acs/r" {})
    (by decide +kernel) (by decide +kernel)⟩

/-- If the lookups fail, or the credential has been deleted, any JID will do, and the credential
is not activated.  If it has been revoked, the row is DONE with a credential that is not to be
used. -/
theorem done_without_account :
    outcome (verifying .pending) (reads "mallory@elsewhere/r" { delivery := .refused }) =
      some (.done, "mallory@elsewhere/r", some .pending) ∧
    outcome (verifying .pending) (.atomic (.deleteCredential "c") (fun _ => {}) ::
      reads "mallory@elsewhere/r" {}) = some (.done, "mallory@elsewhere/r", none) ∧
    outcome (verifying .revoked) (reads "cpe@acs/r" {}) =
      some (.done, "cpe@acs/r", some .revoked) := by
  decide +kernel

end Acs.Xmpp
