/-
The priority of a fault, and the order of a map.

`Classify` looks a fault code up as a key and then takes the first pattern that it meets in
the map.  Go goes through a map in any order, so patterns that match the same code must
agree; nothing makes the longest one count.
-/
import Acs.Alerting.Policy

namespace Acs

open List

/-- The key is a pattern for the code. -/
def isPatternFor (code key : String) : Bool :=
  (AlertPolicy.wildcard key).any (·.isPrefixOf code.toList)

/-- The policy with its map gone through in this order. -/
def AlertPolicy.inOrder (order : FaultPriorities → FaultPriorities)
    (p : AlertPolicy) : AlertPolicy :=
  { p with faultPriorities := order p.faultPriorities }

/-- `Resolve` followed by `Classify`, with maps gone through in this order. -/
def faultPriority (order : FaultPriorities → FaultPriorities)
    (policies : List AlertPolicy) (t : AlertTarget) (code : String) : Option AlertPriority :=
  (resolvePolicy (policies.map (·.inOrder order)) t).map (·.classify code false)

section

variable (code : String) (m : FaultPriorities)

/-- The priorities that some order of the map can give: of the code's own key, else of a
pattern, else the default. -/
def Gives (v : AlertPriority) : Prop :=
  (code, v) ∈ m ∨ (∀ w, (code, w) ∉ m) ∧
    ((∃ e ∈ m, isPatternFor code e.1 = true ∧ e.2 = v) ∨
      (∀ e ∈ m, isPatternFor code e.1 = false) ∧ v = .p3)

/-- The patterns for a code that is no key itself have one priority. -/
def Unambiguous : Prop :=
  (∀ v, (code, v) ∉ m) → ∀ e ∈ m, ∀ e' ∈ m,
    isPatternFor code e.1 = true → isPatternFor code e'.1 = true → e.2 = e'.2

variable {code m}

theorem lookup_eq_some_iff (hkeys : (m.map (·.1)).Nodup) {v : AlertPriority} :
    m.lookup code = some v ↔ (code, v) ∈ m := by
  induction m with
  | nil => simp
  | cons e m ih =>
    obtain ⟨key, w⟩ := e
    obtain ⟨hnew, hkeys⟩ := nodup_cons.mp hkeys
    by_cases hcode : code = key
    · have hout : (code, v) ∉ m := fun hmem => hnew (mem_map.mpr ⟨_, hmem, hcode⟩)
      subst hcode
      simp [hout, eq_comm]
    · rw [lookup_cons, beq_false_of_ne hcode]
      simp [hcode, ih hkeys]

theorem Gives.unique (hkeys : (m.map (·.1)).Nodup) (hone : Unambiguous code m)
    {v w : AlertPriority} (hv : Gives code m v) (hw : Gives code m w) : v = w := by
  rcases hv with hv | ⟨hnone, hv⟩ <;> rcases hw with hw | ⟨hnone', hw⟩
  · exact Option.some.inj (((lookup_eq_some_iff hkeys).mpr hv).symm.trans
      ((lookup_eq_some_iff hkeys).mpr hw))
  · exact absurd hv (hnone' v)
  · exact absurd hw (hnone w)
  · rcases hv with ⟨e, he, hpat, rfl⟩ | ⟨hno, rfl⟩ <;>
      rcases hw with ⟨e', he', hpat', rfl⟩ | ⟨hno', rfl⟩
    · exact hone hnone e he e' he' hpat hpat'
    · simp [hno' e he] at hpat
    · simp [hno e' he'] at hpat'
    · rfl

theorem gives_classify (code : String) (p : AlertPolicy) (hkeys : (p.faultPriorities.map (·.1)).Nodup) :
    Gives code p.faultPriorities (p.classify code false) := by
  simp only [AlertPolicy.classify, Bool.false_eq_true, if_false]
  cases hkey : p.faultPriorities.lookup code with
  | some v => exact .inl ((lookup_eq_some_iff hkeys).mp hkey)
  | none =>
    refine .inr ⟨fun w hw => ?_, ?_⟩
    · simp [(lookup_eq_some_iff hkeys).mpr hw] at hkey
    · cases hfind : p.faultPriorities.find? fun e =>
          (AlertPolicy.wildcard e.1).any (·.isPrefixOf code.toList) with
      | some e =>
        have hpat := find?_some hfind
        exact .inl ⟨e, mem_of_find?_eq_some hfind, hpat, rfl⟩
      | none =>
        exact .inr ⟨fun e he => Bool.eq_false_iff.mpr (find?_eq_none.mp hfind e he),
          rfl⟩

theorem classify_perm {order : FaultPriorities → FaultPriorities}
    (horder : ∀ m, (order m).Perm m) {p : AlertPolicy} (hkeys : (p.faultPriorities.map (·.1)).Nodup)
    (code : String) : Gives code p.faultPriorities ((p.inOrder order).classify code false) := by
  have hperm := horder p.faultPriorities
  have hgives := gives_classify code (p.inOrder order) ((hperm.map _).nodup_iff.mpr hkeys)
  simpa only [Gives, AlertPolicy.inOrder, hperm.mem_iff] using hgives

/-- `Resolve` does not look at the priorities. -/
theorem resolvePolicy_inOrder
    (order : FaultPriorities → FaultPriorities)
    (policies : List AlertPolicy) (t : AlertTarget) :
    resolvePolicy (policies.map (·.inOrder order)) t =
      (resolvePolicy policies t).map (·.inOrder order) := by
  unfold resolvePolicy
  rw [foldl_map]
  show foldl _ (Option.map (AlertPolicy.inOrder order) none) _ = _
  refine foldl_hom (Option.map (AlertPolicy.inOrder order)) fun best p => ?_
  have happlies : (p.inOrder order).applies t = p.applies t := rfl
  cases best <;> grind [AlertPolicy.inOrder]

/-- The map with an entry in front. -/
def inFront (e : String × AlertPriority) (m : FaultPriorities) :
    FaultPriorities :=
  if e ∈ m then e :: m.erase e else m

theorem inFront_perm (e : String × AlertPriority) (m : FaultPriorities) :
    (inFront e m).Perm m := by
  unfold inFront
  split
  next he => exact (perm_cons_erase he).symm
  · exact .refl m

/-- A pattern is taken if the map begins with it and the code is no key. -/
theorem classify_inFront {p : AlertPolicy} (hkeys : (p.faultPriorities.map (·.1)).Nodup)
    (hnone : ∀ v, (code, v) ∉ p.faultPriorities) {e : String × AlertPriority}
    (he : e ∈ p.faultPriorities) (hpat : isPatternFor code e.1 = true) :
    (p.inOrder (inFront e)).classify code false = e.2 := by
  have hperm := inFront_perm e p.faultPriorities
  have hlookup : (inFront e p.faultPriorities).lookup code = none := by
    rw [Option.eq_none_iff_forall_ne_some]
    intro v hv
    rw [lookup_eq_some_iff ((hperm.map _).nodup_iff.mpr hkeys), hperm.mem_iff] at hv
    exact hnone v hv
  have hfind : (inFront e p.faultPriorities).find? (fun e => isPatternFor code e.1) = some e := by
    simp [inFront, he, hpat]
  simp only [isPatternFor] at hfind
  simp [AlertPolicy.classify, AlertPolicy.inOrder, hlookup, hfind]

end

/-- **The priority of a fault.**  One priority comes out of every order of the map of the
policy that `Resolve` chooses, that of the code's own key, else that of the longest pattern,
exactly if the patterns that match a code which is no key agree. -/
theorem fault_priority_iff {policies : List AlertPolicy} {t : AlertTarget} (code : String)
    {p : AlertPolicy} (hchosen : resolvePolicy policies t = some p)
    (hkeys : (p.faultPriorities.map (·.1)).Nodup) :
    (∃ v, (∀ order : FaultPriorities → FaultPriorities,
        (∀ m, (order m).Perm m) → faultPriority order policies t code = some v) ∧
      (∀ w, (code, w) ∈ p.faultPriorities → v = w) ∧
      ((∀ w, (code, w) ∉ p.faultPriorities) → ∀ e ∈ p.faultPriorities,
        isPatternFor code e.1 = true →
        (∀ e' ∈ p.faultPriorities, isPatternFor code e'.1 = true → e'.1.length ≤ e.1.length) →
        v = e.2)) ↔
      Unambiguous code p.faultPriorities := by
  have hpriority (order) : faultPriority order policies t code =
      some ((p.inOrder order).classify code false) := by
    rw [faultPriority, resolvePolicy_inOrder, hchosen]
    rfl
  refine ⟨?_, fun hone => ⟨p.classify code false, ?_, ?_, ?_⟩⟩
  · rintro ⟨v, hv, -⟩ hnone e he e' he' hpat hpat'
    have hfirst (e) := (hpriority _).symm.trans (hv (inFront e) (inFront_perm e))
    rw [← classify_inFront hkeys hnone he hpat, ← classify_inFront hkeys hnone he' hpat']
    exact Option.some.inj ((hfirst e).trans (hfirst e').symm)
  · intro order horder
    rw [hpriority, (classify_perm horder hkeys code).unique hkeys hone (gives_classify code p hkeys)]
  · exact fun w hw => (gives_classify code p hkeys).unique hkeys hone (.inl hw)
  · exact fun hnone e he hpat _ =>
      (gives_classify code p hkeys).unique hkeys hone (.inr ⟨hnone, .inl ⟨e, he, hpat, rfl⟩⟩)

/-- A policy of the fleet with these priorities. -/
def fleetPolicy (faultPriorities : FaultPriorities) : AlertPolicy :=
  { scope := .fleet, faultPriorities }

/-- A device of an account, in no group. -/
def anyDevice : AlertTarget := ⟨"acc-1", [], "d1", ""⟩

theorem fault_priority_iff_key :
    ∃ v, ∀ order : FaultPriorities → FaultPriorities,
      (∀ m, (order m).Perm m) →
      faultPriority order [fleetPolicy [("9*", .p1), ("9005", .p2)]] anyDevice "9005" = some v := by
  obtain ⟨v, hv, -⟩ := (@fault_priority_iff [fleetPolicy [("9*", .p1), ("9005", .p2)]] anyDevice
    "9005" _ rfl (by decide)).mpr fun hnone => absurd (by simp [fleetPolicy]) (hnone .p2)
  exact ⟨v, hv⟩

/-- Two patterns match, and the first one that is met counts. -/
theorem shorter_pattern_wins :
    faultPriority id [fleetPolicy [("9*", .p1), ("900*", .p4)]] anyDevice "9005" = some .p1 ∧
    faultPriority List.reverse [fleetPolicy [("9*", .p1), ("900*", .p4)]] anyDevice "9005" =
      some .p4 := by
  decide +kernel

end Acs
