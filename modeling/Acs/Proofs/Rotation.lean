/-
What the rotation of credentials leaves a device with.

No statement but an activation ends an ACTIVE credential, and the same transaction puts
another in its place.  So `ActiveForDevice` finds exactly one from the first activation on,
however rotations, revocations and first uses interleave.
-/
import Acs.Proofs.Revocation

namespace Acs

open CredentialTable CredentialStmt List

namespace CredentialTable

variable {t t' : CredentialTable} {d : String} {type : CredentialType}

def activeForDevice (t : CredentialTable) (deviceID : String) (type : CredentialType) :
    Option Credential :=
  t.rows.find? fun c => c.deviceID = deviceID ∧ c.type = type ∧ c.status = .active

theorem activeForDevice_isSome : (t.activeForDevice d type).isSome ↔
    ∃ c ∈ t.rows, c.deviceID = d ∧ c.type = type ∧ c.status = .active := by
  simp [activeForDevice, find?_isSome]

/-- What a statement may do to the table. -/
inductive Change (t t' : CredentialTable) : Prop where
  | same (h : t' = t)
  | inserted (cred : Credential) (h : t'.rows = t.rows ++ [cred])
  | activated (cred : Credential) (hmem : cred ∈ t.rows) (now : Time)
    (h : t'.rows = t.activateRows cred now)
  | revoked (id : String) (now : Time) (h : t'.rows = t.revokeRows id now)

theorem change_insert {id username password commandKey : String} {now : Time} {cred : Credential}
    (h : t.insert id d type username password commandKey now = some (cred, t')) :
    Change t t' := by
  obtain ⟨_, hrows, heq⟩ := Option.map_eq_some_iff.mp h
  cases heq
  exact .inserted _ (rows_ofRows hrows)

theorem exec_change (s : CredentialStmt) (c : CredentialChoice) : Change t (s.exec c t).2 := by
  have hread {α : Type} (a : α) : Change t (c.delivery.deliver a t t).2 :=
    .same (or_self_iff.mp (c.delivery.deliver_state a t t))
  cases s with
  | byID | lookupCWMPDigest | pendingForDevice => exact hread _
  | scopedDevice | queueRotation | ensureAccount | startProvisioning => exact .same rfl
  | create => exact c.delivery.attempt_keeps (.same rfl) fun _ _ => change_insert
  | ensurePendingCWMPDigest =>
    refine c.delivery.attempt_keeps (.same rfl) fun _ _ h => ?_
    unfold ensurePending at h
    split at h
    · cases h
      exact .same rfl
    · exact change_insert h
  | activate id =>
    refine c.delivery.attempt_keeps (.same rfl) fun _ _ h => ?_
    unfold activate at h
    split at h
    · cases h
      exact .same rfl
    next cred hcred =>
      obtain ⟨_, hrows, heq⟩ := Option.map_eq_some_iff.mp h
      cases heq
      exact .activated cred (byID_some hcred).1 _ (rows_ofRows hrows)
  | revoke id =>
    refine c.delivery.attempt_keeps (.same rfl) fun _ _ h => ?_
    obtain ⟨_, hrows, heq⟩ := Option.map_eq_some_iff.mp h
    cases heq
    exact .revoked _ _ (rows_ofRows hrows)

theorem Change.active (h : Change t t') (hactive : (t.activeForDevice d type).isSome) :
    (t'.activeForDevice d type).isSome := by
  rw [activeForDevice_isSome] at hactive ⊢
  obtain ⟨c, hc, hd, htype, hstatus⟩ := hactive
  cases h with
  | same h => exact h ▸ ⟨c, hc, hd, htype, hstatus⟩
  | inserted cred h => exact ⟨c, h ▸ mem_append_left _ hc, hd, htype, hstatus⟩
  | revoked id now h =>
    refine ⟨c, h ▸ mem_map.mpr ⟨c, hc, if_neg ?_⟩, hd, htype, hstatus⟩
    simp [hstatus]
  | activated cred hmem now h =>
    simp only [h, activateRows, map_map, mem_map]
    by_cases hsame : c.deviceID = cred.deviceID ∧ c.type = cred.type
    · -- The new credential takes the place of the old one.
      refine ⟨_, ⟨cred, hmem, rfl⟩, ?_⟩
      grind
    · refine ⟨_, ⟨c, hc, rfl⟩, ?_⟩
      grind

end CredentialTable

/-- **No rotation locks a device out.** -/
theorem active_credential_kept (equalFold : String → String → Bool) (t : CredentialTable)
    (as : List CredentialAction) {d : String} {type : CredentialType}
    (hactive : (t.activeForDevice d type).isSome = true) :
    ∃! c, c ∈ (credentialRun equalFold as t).2.shared.rows ∧
      c.deviceID = d ∧ c.type = type ∧ c.status = .active := by
  have hend : ((credentialRun equalFold as t).2.shared.activeForDevice d type).isSome := by
    refine ((Pool.run_chain _ _ as _).keeps
      (I := fun t => (activeForDevice t d type).isSome) (fun ev hev hpre => ?_) hactive).1
    obtain ⟨s, c, t, rfl⟩ := (Pool.run_legal as _ ev hev).eq_fire
    exact (exec_change s c).active hpre
  obtain ⟨c, hc, hkey⟩ := activeForDevice_isSome.mp hend
  refine ⟨c, ⟨hc, hkey⟩, ?_⟩
  rintro c' ⟨hc', hkey'⟩
  -- The index says that no other one is ACTIVE.
  refine inj_on_of_nodup_map (CredentialTable.keys _).oneActive (mem_filter.mpr ⟨hc', ?_⟩)
    (mem_filter.mpr ⟨hc, ?_⟩) ?_ <;> simp [hkey, hkey']

theorem active_credential_kept_rotated :
    ∃! c, c ∈ (credentialRun (· == ·) rotated sampleCredentials).2.shared.rows ∧
      c.deviceID = "d" ∧ c.type = .connectionRequest ∧ c.status = .active :=
  active_credential_kept _ _ _ (by decide)

end Acs
