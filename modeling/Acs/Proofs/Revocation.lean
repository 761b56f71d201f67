/-
What it takes for a revoked credential to stay revoked.

`Revoke` looks at the status of the credential in the statement itself, `Activate` does
not: that the credential may be activated is what its caller has looked up before.  The
gateway and the XMPP verification ask for a PENDING credential, the operator's request
only for the device and the type.  So a REVOKED credential stays so if no operator asks
for one to be activated, and nobody revokes a credential while the activation of it is
on its way.
-/
import Acs.Auth.Credentials

namespace Acs

open CredentialTable CredentialStmt List Credentials

namespace CredentialTable

def Revoked (t : CredentialTable) (id : String) : Prop :=
  ∃ c ∈ t.rows, c.id = id ∧ c.status = .revoked

instance (t : CredentialTable) (id : String) : Decidable (t.Revoked id) :=
  inferInstanceAs (Decidable (∃ c ∈ t.rows, _))

variable {t t' : CredentialTable} {id : String} {now : Time}

theorem rows_ofRows {rows : List Credential} (h : ofRows rows = some t') : t'.rows = rows := by
  unfold ofRows at h
  split at h
  · cases h
    rfl
  · cases h

theorem not_revoked_of_mem {c : Credential} (hc : c ∈ t.rows) (hstatus : c.status ≠ .revoked) :
    ¬ t.Revoked c.id := by
  rintro ⟨c', hc', hid, hrevoked⟩
  have heq : c' = c := inj_on_of_nodup_map t.keys.ids hc' hc hid
  rw [heq] at hrevoked
  exact hstatus hrevoked

/-! ### Transactions -/

theorem Revoked.insert {newID deviceID username password commandKey : String}
    {type : CredentialType} {cred : Credential} (h : t.Revoked id)
    (hins : t.insert newID deviceID type username password commandKey now = some (cred, t')) :
    t'.Revoked id := by
  obtain ⟨t'', ht'', heq⟩ := Option.map_eq_some_iff.mp hins
  cases heq
  obtain ⟨c, hc, hcred⟩ := h
  exact ⟨c, by rw [rows_ofRows ht'']; exact mem_append_left _ hc, hcred⟩

theorem Revoked.ensurePending {deviceID username password : String} {c : CredentialChoice}
    {cred : Credential} (h : t.Revoked id)
    (hens : t.ensurePending deviceID username password c = some (cred, t')) : t'.Revoked id := by
  unfold CredentialTable.ensurePending at hens
  split at hens
  · cases hens
    exact h
  · exact h.insert hens

theorem Revoked.revoke {other : String} {n : Nat} (h : t.Revoked id)
    (hrev : t.revoke other now = some (n, t')) : t'.Revoked id := by
  obtain ⟨t'', ht'', heq⟩ := Option.map_eq_some_iff.mp hrev
  cases heq
  obtain ⟨c, hc, hid, hstatus⟩ := h
  refine ⟨c, ?_, hid, hstatus⟩
  rw [rows_ofRows ht'']
  refine mem_map.mpr ⟨c, hc, if_neg ?_⟩
  simp [hstatus]

theorem Revoked.activate {other : String} {found : Bool} (h : t.Revoked id) (hne : id ≠ other)
    (hact : t.activate other now = some (found, t')) : t'.Revoked id := by
  unfold CredentialTable.activate at hact
  split at hact
  · cases hact
    exact h
  next cred hcred =>
    obtain ⟨t'', ht'', heq⟩ := Option.map_eq_some_iff.mp hact
    cases heq
    obtain ⟨c, hc, hid, hstatus⟩ := h
    have hcredID : cred.id = other := by simpa using find?_some hcred
    refine ⟨c, ?_, hid, hstatus⟩
    rw [rows_ofRows ht'']
    refine mem_map.mpr ⟨c, mem_map.mpr ⟨c, hc, if_neg ?_⟩, if_neg ?_⟩
    · simp [hstatus]
    · rw [hid, hcredID]
      exact hne

/-! ### Lookups -/

theorem byID_some {c : Credential} (h : t.byID id = some c) : c ∈ t.rows ∧ c.id = id :=
  ⟨mem_of_find?_eq_some h, by simpa using find?_some h⟩

theorem newest_mem {rows : List Credential} {c : Credential} (h : newest rows = some c) :
    c ∈ rows := by
  induction rows generalizing c with
  | nil => cases h
  | cons x rest ih =>
    unfold newest at h
    split at h
    · cases h
      exact mem_cons_self
    next best hbest =>
      split at h
      · cases h
        exact mem_cons_of_mem _ (ih hbest)
      · cases h
        exact mem_cons_self

end CredentialTable

/-! ### Statements -/

/-- The changes a statement survives: only an activation rests on something, that the
credential is not REVOKED. -/
def CredentialStmt.survives : CredentialStmt → CredentialTable → CredentialTable → Prop
  | .activate id, t, t' => ¬ t.Revoked id → ¬ t'.Revoked id
  | _, _, _ => True

instance (s : CredentialStmt) (t t' : CredentialTable) : Decidable (s.survives t t') :=
  match s with
  | .activate id => inferInstanceAs (Decidable (¬ t.Revoked id → ¬ t'.Revoked id))
  | .scopedDevice _ | .byID .. | .lookupCWMPDigest _ | .pendingForDevice .. | .queueRotation ..
  | .create .. | .ensurePendingCWMPDigest .. | .revoke _ | .ensureAccount ..
  | .startProvisioning .. => .isTrue trivial

/-- The event is not an operator's request to activate a credential that is REVOKED. -/
def asksWell : CredentialEvent → Bool
  | ⟨.byID _ .activation, some (some cred), _, _⟩ => cred.status ≠ .revoked
  | _ => true

/-- What is REVOKED stays so. -/
def KeepsRevoked (ev : CredentialEvent) : Prop :=
  ∀ id, ev.pre.Revoked id → ev.post.Revoked id

section Statements

variable {c : CredentialChoice} {t : CredentialTable} {id : String}

theorem keepsRevoked_fire {s : CredentialStmt} (hs : ∀ id, s ≠ .activate id) :
    KeepsRevoked (Pool.fire CredentialStmt.exec s c t) := by
  intro id' h
  have h : t.Revoked id' := h
  have hread : ∀ {α : Type} (a : α), (c.delivery.deliver a t t).2.Revoked id' := by
    intro α a
    rw [or_self_iff.mp (c.delivery.deliver_state a t t)]
    exact h
  cases s with
  | activate id => exact absurd rfl (hs id)
  | create => exact c.delivery.attempt_keeps (I := (Revoked · id')) h fun _ _ heq => h.insert heq
  | ensurePendingCWMPDigest => exact c.delivery.attempt_keeps (I := (Revoked · id')) h fun _ _ heq => h.ensurePending heq
  | revoke => exact c.delivery.attempt_keeps (I := (Revoked · id')) h fun _ _ heq => h.revoke heq
  | byID | lookupCWMPDigest | pendingForDevice => exact hread _
  | scopedDevice | queueRotation | ensureAccount | startProvisioning => exact h

theorem keepsRevoked_activate (h : ¬ t.Revoked id) :
    KeepsRevoked (Pool.fire CredentialStmt.exec (.activate id) c t) := by
  intro other hother
  have hother : t.Revoked other := hother
  have hne : other ≠ id := by
    rintro rfl
    exact h hother
  exact c.delivery.attempt_keeps (I := (Revoked · other)) hother fun _ _ heq => hother.activate hne heq

end Statements

/-! ### The callers -/

section Callers

/-- The program is right in undisturbed runs, and ends where `Q` holds. -/
abbrev Activates {α : Type} (Q : α → CredentialTable → Prop) (p : CredentialProg α)
    (t : CredentialTable) : Prop :=
  p.Guarded CredentialStmt.exec survives (asksWell · = true) KeepsRevoked Q t

variable {t : CredentialTable} {id : String}

abbrev NeverActivates {α : Type} (p : CredentialProg α) : Prop :=
  p.All (fun _ _ => True) (fun s => ∀ id, s ≠ .activate id) (fun _ => True)

theorem NeverActivates.activates {α : Type} {p : CredentialProg α} (h : NeverActivates p) :
    Activates (fun _ _ => True) p t :=
  Prog.Guarded.of_all (fun _ _ _ hs _ => ⟨trivial, keepsRevoked_fire hs⟩) h t

theorem neverActivates_perform {s : CredentialStmt} (h : ∀ id, s ≠ .activate id) :
    NeverActivates (Prog.perform s : CredentialProg s.Res) :=
  ⟨h, fun _ _ => trivial⟩

theorem neverActivates_byID (purpose : LookupPurpose) :
    NeverActivates (byID id purpose) :=
  ⟨by simp, fun _ _ => trivial⟩

theorem neverActivates_revoke : NeverActivates (revoke id) := by
  unfold Credentials.revoke
  refine (neverActivates_perform (by simp)).bind fun r _ => ?_
  cases r with
  | none => trivial
  | some n =>
    dsimp only
    split
    · trivial
    · exact neverActivates_byID .reply

variable (deviceID username : String)

theorem neverActivates_rotateDeviceCredential (type : CredentialType) (username password : String) :
    NeverActivates (rotateDeviceCredential deviceID type username password) := by
  have hqueue : NeverActivates (rotateDeviceCredential.queue deviceID type username password) := by
    unfold rotateDeviceCredential.queue
    refine (neverActivates_perform (by simp)).bind fun key _ => ?_
    cases key with
    | none => trivial
    | some commandKey =>
      refine (neverActivates_perform (by simp)).bind fun cred _ => ?_
      cases cred <;> trivial
  unfold rotateDeviceCredential
  refine (neverActivates_perform (by simp)).bind fun inScope _ => ?_
  split
  · trivial
  split
  · refine (neverActivates_perform (by simp)).bind fun pending _ => ?_
    rcases pending with _ | _ | pending
    · trivial
    · exact hqueue
    · trivial
  · exact hqueue

theorem neverActivates_revokeDeviceCredential (credID : String) :
    NeverActivates (revokeDeviceCredential deviceID credID) := by
  unfold revokeDeviceCredential
  refine (neverActivates_perform (by simp)).bind fun inScope _ => ?_
  split
  · trivial
  refine (neverActivates_byID .revocation).bind fun r _ => ?_
  cases r with
  | notFound | error => trivial
  | found existing =>
    dsimp only
    split
    · trivial
    refine neverActivates_revoke.bind fun reply _ => ?_
    cases reply <;> trivial

theorem neverActivates_provisionDeviceXMPP (password : String) (existing : Option String) :
    NeverActivates (provisionDeviceXMPP deviceID username password existing) := by
  unfold provisionDeviceXMPP
  refine (neverActivates_perform (by simp)).bind fun created _ => ?_
  cases created with
  | none => trivial
  | some cred =>
    refine (neverActivates_perform (by simp)).bind fun account _ => ?_
    split
    · exact neverActivates_revoke.bind fun _ _ => trivial
    refine (neverActivates_perform (by simp)).bind fun start _ => ?_
    cases start with
    | alreadyActive | error => exact neverActivates_revoke.bind fun _ _ => trivial
    | started =>
      cases existing with
      | none => trivial
      | some oldID =>
        dsimp only
        split
        · trivial
        refine (neverActivates_byID .revocation).bind fun r _ => ?_
        cases r with
        | notFound | error => trivial
        | found old =>
          dsimp only
          split
          · exact neverActivates_revoke.bind fun _ _ => trivial
          · trivial

theorem neverActivates_wantBare (p : XmppReport) : NeverActivates (wantBare p) := by
  unfold wantBare
  split
  · trivial
  refine (neverActivates_byID .verification).bind fun r _ => ?_
  cases r <;> trivial

theorem ofRow_found {r : Option (Option Credential)} {cred : Credential}
    (h : CredentialResult.ofRow r = .found cred) : r = some (some cred) := by
  rcases r with _ | _ | found
  · cases h
  · cases h
  · cases h
    rfl

theorem activates_activate (h : ¬ t.Revoked id) :
    Activates (fun _ _ => True) (activate id) t := by
  intro t' c hsurvives _
  refine ⟨keepsRevoked_activate (hsurvives h), NeverActivates.activates ?_⟩
  cases (CredentialStmt.exec (.activate id) c t').1 with
  | none => trivial
  | some found =>
    cases found with
    | false => trivial
    | true => exact neverActivates_byID .reply

/-- What `byID` finds is in the table, and an operator's request does not find it REVOKED. -/
theorem activates_byID (purpose : LookupPurpose) :
    Activates (fun r t => ∀ c, r = .found c → c ∈ t.rows ∧ c.id = id ∧
      (purpose = .activation → c.status ≠ .revoked)) (byID id purpose) t := by
  intro t' c _ hask
  refine ⟨keepsRevoked_fire (by simp), ?_⟩
  show ∀ cred, CredentialResult.ofRow (c.delivery.deliver (t'.byID id) t' t').1 = .found cred →
    cred ∈ (c.delivery.deliver (t'.byID id) t' t').2.rows ∧ _
  intro cred hfound
  have hanswer := ofRow_found hfound
  obtain ⟨hrow, hstate⟩ := c.delivery.deliver_answer _ t' t' hanswer
  obtain ⟨hmem, hid⟩ := byID_some hrow.symm
  refine ⟨by rw [hstate]; exact hmem, hid, ?_⟩
  rintro rfl
  have hask : asksWell ⟨.byID id .activation, (c.delivery.deliver (t'.byID id) t' t').1, t',
    (c.delivery.deliver (t'.byID id) t' t').2⟩ := hask
  rw [hanswer] at hask
  exact of_decide_eq_true hask

theorem activates_lookupCWMPDigest :
    Activates (fun r t => ∀ cred, r = some (some cred) → cred ∈ t.rows)
      (Prog.perform (lookupCWMPDigest username)) t := by
  intro t' c _ _
  refine ⟨keepsRevoked_fire (by simp), ?_⟩
  intro cred (hanswer : (c.delivery.deliver (t'.lookupCWMPDigest username) t' t').1 = _)
  obtain ⟨hrow, hstate⟩ := c.delivery.deliver_answer _ t' t' hanswer
  show cred ∈ (c.delivery.deliver (t'.lookupCWMPDigest username) t' t').2.rows
  rw [hstate]
  exact (mem_filter.mp (newest_mem hrow.symm)).1

theorem not_revoked_of_pending {cred : Credential} (hmem : cred ∈ t.rows)
    (hstatus : cred.status = .pending) : ¬ t.Revoked cred.id :=
  not_revoked_of_mem hmem (by rw [hstatus]; decide)

theorem activates_onAuthenticated : Activates (fun _ _ => True) (onAuthenticated username) t := by
  unfold onAuthenticated
  refine (activates_lookupCWMPDigest username).bind fun r t' hr => ?_
  rcases r with _ | _ | cred
  · trivial
  · trivial
  · dsimp only
    split
    next hstatus =>
      have hnot := not_revoked_of_pending (hr cred rfl) hstatus
      exact (activates_activate hnot).bind fun _ _ _ => trivial
    · trivial

theorem activates_activateDeviceCredential (credID : String) :
    Activates (fun _ _ => True) (activateDeviceCredential deviceID credID) t := by
  unfold activateDeviceCredential
  have hscope : Activates (fun _ _ => True)
      (Prog.perform (scopedDevice deviceID)) t :=
    fun _ _ _ _ => ⟨keepsRevoked_fire (by simp), trivial⟩
  refine hscope.bind fun inScope t' _ => ?_
  split
  · trivial
  · refine (activates_byID .activation).bind fun r t'' hr => ?_
    cases r with
    | notFound | error => trivial
    | found existing =>
      obtain ⟨hmem, rfl, hstatus⟩ := hr existing rfl
      have hnot := not_revoked_of_mem hmem (hstatus rfl)
      dsimp only
      split
      · trivial
      split
      · trivial
      refine (activates_activate hnot).bind fun reply _ _ => ?_
      cases reply <;> trivial

theorem activates_stepVerify (equalFold : String → String → Bool) (p : XmppReport) :
    Activates (fun _ _ => True) (stepVerify equalFold p) t := by
  unfold stepVerify
  refine (neverActivates_wantBare p).activates.bind fun wantBare t' _ => ?_
  split
  · trivial
  split
  · trivial
  split
  · trivial
  split
  · trivial
  refine (activates_byID .verification).bind fun r t'' hr => ?_
  cases r with
  | notFound | error => trivial
  | found cred =>
    obtain ⟨hmem, hid, -⟩ := hr cred rfl
    dsimp only
    split
    next hstatus =>
      have hnot := hid ▸ not_revoked_of_pending hmem hstatus
      refine (activates_activate hnot).bind fun reply _ _ => ?_
      cases reply <;> trivial
    · trivial

/-- Every caller is right, as long as it is left alone. -/
theorem activates_prog (equalFold : String → String → Bool) (task : CredentialTask) :
    Activates (fun _ _ => True) (task.prog equalFold) t := by
  cases task with
  | onAuthenticated username => exact activates_onAuthenticated username
  | bootstrap deviceID username password =>
    exact NeverActivates.activates ⟨by simp, fun _ _ => trivial⟩
  | rotate deviceID type username password =>
    exact (neverActivates_rotateDeviceCredential deviceID type username password).activates.bind
      fun _ _ _ => trivial
  | activate deviceID credID =>
    exact (activates_activateDeviceCredential deviceID credID).bind fun _ _ _ => trivial
  | revoke deviceID credID =>
    exact (neverActivates_revokeDeviceCredential deviceID credID).activates.bind
      fun _ _ _ => trivial
  | provisionXMPP deviceID username password existing =>
    exact (neverActivates_provisionDeviceXMPP deviceID username password existing).activates
  | verifyXMPP report => exact (activates_stepVerify equalFold report).bind fun _ _ _ => trivial

end Callers

/-! ### Runs -/

theorem survives_refl (s : CredentialStmt) (t : CredentialTable) : s.survives t t := by
  cases s with
  | activate id => exact fun h => h
  | _ => trivial

theorem survives_trans (s : CredentialStmt) (t₁ t₂ t₃ : CredentialTable)
    (h : s.survives t₁ t₂) (h' : s.survives t₂ t₃) : s.survives t₁ t₃ := by
  cases s with
  | activate id => exact fun hnot => h' (h hnot)
  | _ => trivial

/-- A credential that is REVOKED stays so, whatever requests run interleaved, as long as no
operator asks to activate a REVOKED one and none is revoked while a request is about to
activate it. -/
theorem revoked_stays_revoked (equalFold : String → String → Bool) (t : CredentialTable)
    (as bs : List CredentialAction)
    (hask : ∀ ev ∈ (credentialRun equalFold (as ++ bs) t).1, asksWell ev = true)
    (hleft : Pool.Undisturbed CredentialStmt.exec (CredentialTask.prog equalFold)
      survives (as ++ bs) ⟨t, []⟩) (id : String)
    (h : (credentialRun equalFold as t).2.shared.Revoked id) :
    (credentialRun equalFold (as ++ bs) t).2.shared.Revoked id := by
  have hall : ∀ ev ∈ (credentialRun equalFold (as ++ bs) t).1, KeepsRevoked ev :=
    Pool.run_guarded survives_refl survives_trans (by simp)
      (fun task _ t' => activates_prog equalFold task) hleft hask
  rw [credentialRun, Pool.run_append] at hall ⊢
  refine ((Pool.run_chain _ _ bs _).keeps (I := fun t : CredentialTable => t.Revoked id) ?_ h).1
  intro ev hev
  exact hall ev (mem_append_right _ hev) id

/-- Two credentials of a device for connection requests, one in use and one PENDING, and
its Digest credential. -/
def sampleCredentials : CredentialTable where
  rows :=
    [{ id := "old", deviceID := "d", type := .connectionRequest, version := 1, username := "cr-1",
       password := "p1", status := .active, createdAt := 1, activatedAt := some 2 },
      { id := "new", deviceID := "d", type := .connectionRequest, version := 2, username := "cr-2",
        password := "p2", createdAt := 3 },
      { id := "digest", deviceID := "d", type := .cwmpDigest, version := 1, username := "cwmp-1",
        password := "p3", createdAt := 4 }]
  keys := by decide

/-- The new credential is activated, and the old one revoked. -/
def rotated : List CredentialAction :=
  [.atomic (.activate "d" "new") fun _ => {}, .atomic (.revoke "d" "old") fun _ => {}]

/-- The device presents its Digest credential while an operator rotates it again. -/
def usedLater : List CredentialAction :=
  [.spawn (.onAuthenticated "cwmp-1"), .step 0 {},
    .atomic (.rotate "d" .connectionRequest "cr-3" "p4") fun _ => { freshID := "next" },
    .step 0 {}, .step 0 {}]

theorem revoked_stays_revoked_rotated :
    (credentialRun (· == ·) rotated sampleCredentials).2.shared.Revoked "old" ∧
      (credentialRun (· == ·) (rotated ++ usedLater) sampleCredentials).2.shared.Revoked "old" := by
  have hrevoked : (credentialRun (· == ·) rotated sampleCredentials).2.shared.Revoked "old" := by
    decide +kernel
  exact ⟨hrevoked, revoked_stays_revoked (· == ·) sampleCredentials rotated usedLater
    (by decide +kernel) (by decide +kernel) "old" hrevoked⟩

/-- An operator asks for the REVOKED credential. -/
def activatedAgain : List CredentialAction :=
  [.atomic (.activate "d" "old") fun _ => {}]

/-- The gateway has looked the Digest credential up, PENDING; an operator revokes it; the
gateway activates it. -/
def revokedBetween : List CredentialAction :=
  [.spawn (.onAuthenticated "cwmp-1"), .step 0 {}, .atomic (.revoke "d" "digest") fun _ => {}]

theorem revoked_active_again :
    (credentialRun (· == ·) rotated sampleCredentials).2.shared.Revoked "old" ∧
      ((credentialRun (· == ·) (rotated ++ activatedAgain) sampleCredentials).2.shared.byID
        "old").map (·.status) = some .active ∧
      (credentialRun (· == ·) revokedBetween sampleCredentials).2.shared.Revoked "digest" ∧
      ((credentialRun (· == ·) (revokedBetween ++ [.step 0 {}]) sampleCredentials).2.shared.byID
        "digest").map (·.status) = some .active := by
  decide +kernel

end Acs
