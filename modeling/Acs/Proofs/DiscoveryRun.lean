/-
Bounds on a whole discovery walk.

A run is a path of the worklist followed by at most one last request, the one
whose step reports done or an error.  The bounds are read off the worklist's
accounting; the root is special, since it is visited by the very first step and
never deferred.
-/
import Acs.Proofs.DiscoveryWalk

namespace Acs

open List Worklist ParameterDiscoveryPayload
open Text

/-! ### A run is a path of the worklist -/

/-- The requests of a run: a path of the worklist that is still going on, or one
that a last request ended. -/
theorem walk_path (steps : List DiscoveryStep) :
    ∀ {p : ParameterDiscoveryPayload}, WalkInv p →
      ∃ requests q, Path (toWalk p) requests (toWalk q) ∧ WalkInv q ∧
        (((walk p steps).1 = requests ∧ (walk p steps).2 = .ok (false, q) ∧
            requests.length = steps.length ∧ (p.cursor ≠ "" ∨ steps ≠ [] → q.cursor ≠ "")) ∨
          ((walk p steps).1 = requests ++ [q.requestPath] ∧
            ∀ p', (walk p steps).2 ≠ .ok (false, p'))) := by
  induction steps with
  | nil =>
    intro p hi
    exact ⟨[], p, .nil _, hi, .inl ⟨rfl, rfl, rfl, by simp⟩⟩
  | cons step steps ih =>
    intro p hi
    cases hstep : discoveryStep p step with
    | error msg =>
      refine ⟨[], p, .nil _, hi, .inr ?_⟩
      simp [walk, hstep]
    | ok r =>
      obtain ⟨done, p₁⟩ := r
      cases done with
      | true =>
        refine ⟨[], p, .nil _, hi, .inr ?_⟩
        simp [walk, hstep]
      | false =>
        obtain ⟨hwalk, hi₁, hcursor⟩ := discoveryStep_refines hi hstep
        obtain ⟨requests, q, hpath, hq, hrun⟩ := ih hi₁
        refine ⟨p.requestPath :: requests, q, .cons hwalk hpath, hq, ?_⟩
        simp only [walk, hstep]
        rcases hrun with ⟨h₁, h₂, h₃, h₄⟩ | ⟨h₁, h₂⟩
        · refine .inl ⟨by rw [h₁], h₂, by rw [length_cons, length_cons, h₃], ?_⟩
          intro _
          exact h₄ (.inl hcursor)
        · exact .inr ⟨by rw [h₁, cons_append], h₂⟩

theorem fresh_first_step {p p' : ParameterDiscoveryPayload} {step : DiscoveryStep} (h : p.Fresh)
    (hstep : discoveryStep p step = .ok (false, p')) :
    p'.visited.keys = [p.root] ∧ p'.retried = ∅ := by
  cases step with
  | skip =>
    have hrefused : skipDiscoveryCursor p =
        .error "discovery has no object in progress to skip" := by
      simp [skipDiscoveryCursor, h.cursor]
    simp only [discoveryStep, hrefused] at hstep
    cases hstep
  | answer names =>
    have hroot : p.requestPath = p.root := by
      simp [requestPath, h.cursor]
    have hkeys := visited_keys_insert (WalkInv.of_fresh h)
    obtain ⟨_, _, ⟨hdone, _⟩ | ⟨_, next, rest, _, hp'⟩⟩ := advanceDiscovery_ok hstep
    · cases hdone
    subst hp'
    refine ⟨?_, h.retried⟩
    rw [hkeys, hroot, h.visited]
    rfl

/-! ### Bounds -/

/-- The bounds that hold of the payload between two requests. -/
structure WalkBounded (p : ParameterDiscoveryPayload) : Prop where
  pendingNodup : p.pending.Nodup
  pendingUnvisited : ∀ x ∈ p.pending, x ∉ p.visited
  cursorNonempty : p.cursor ≠ ""
  cursorNotPending : p.cursor ∉ p.pending
  cursorUnvisited : p.cursor ∉ p.visited
  objects : StringMap.size p.visited + p.pending.length + 1 ≤ 512
  skipped : p.skipped.length ≤ 32
  names : StringMap.size p.names ≤ 50000

theorem WalkInv.bounded {p : ParameterDiscoveryPayload} (hi : WalkInv p) (hcursor : p.cursor ≠ "") :
    WalkBounded p := by
  have hpending := hi.worklist.cursor_notMem_pending
  have hvisited := hi.worklist.cursor_notMem_visited
  simp only [toWalk, requestPath_eq_cursor hcursor] at hpending hvisited
  exact ⟨hi.worklist.pending_nodup, fun _ hx => hi.worklist.pending_notMem_visited hx, hcursor,
    hpending, hvisited, hi.objects, hi.skipped, hi.names⟩

/-- A path of the worklist together with a last request asks for no object more
than twice. -/
theorem count_requests_le {p q : ParameterDiscoveryPayload} {requests : List String}
    (hpath : Path (toWalk p) requests (toWalk q)) (hp : WalkInv p) (hq : WalkInv q)
    (x : String) : (requests ++ [q.requestPath]).count x ≤ 2 := by
  have hcharge := path_charge hpath hp.worklist x
  rw [count_append]
  by_cases hx : x = q.requestPath
  · subst hx
    have hone := charge_cursor_le_one hq.worklist
    have hself : [q.requestPath].count q.requestPath = 1 := by simp
    rw [hself]
    exact Nat.add_le_add (Nat.le_trans (Nat.le_trans (Nat.le_add_left _ _) hcharge) hone)
      (Nat.le_refl 1)
  · have htwo := charge_le_two (toWalk q) x
    have hzero : [q.requestPath].count x = 0 :=
      count_eq_zero.mpr (by simpa using hx)
    omega

/-- The number of requests from the second one on, the last one left out. -/
theorem length_requests_le {p q : ParameterDiscoveryPayload} {requests : List String} {root : String}
    (hpath : Path (toWalk p) requests (toWalk q)) (hp : WalkInv p) (hq : WalkInv q)
    (hvisited : p.visited.keys = [root]) : requests.length + 1 ≤ 2 * 511 := by
  have hspent := path_spent hpath hp.worklist
  have hpaid := spent_le (toWalk q)
  have hstart : 2 ≤ spent (toWalk p) := by
    simp [spent, toWalk, hvisited]
  have hobjects := hq.objects
  simp only [StringMap.size, discoveryMaxObjects] at hobjects
  have hsame : (toWalk q).visited.length = q.visited.keys.length := rfl
  have hpending : (toWalk q).pending.length = q.pending.length := rfl
  omega

/-- **The walk is bounded, whatever the device answers.**  Between two requests
the queue and the visited objects are disjoint and within the limits; no object is
asked for a third time and the root only once; and a step reports done or an error
within `1 + 2 * 511` requests. -/
theorem discovery_walk_bounded (p : ParameterDiscoveryPayload) (hfresh : p.Fresh)
    (steps : List DiscoveryStep) :
    (∀ p', steps ≠ [] → (walk p steps).2 = .ok (false, p') → WalkBounded p') ∧
    (∀ path, (walk p steps).1.count path ≤ 2) ∧
    (walk p steps).1.count p.root ≤ 1 ∧
    (walk p steps).1.length ≤ 1 + 2 * 511 ∧
    (1 + 2 * 511 ≤ steps.length → ∀ p', (walk p steps).2 ≠ .ok (false, p')) := by
  have hi := WalkInv.of_fresh hfresh
  have hroot : p.requestPath = p.root := by
    simp [requestPath, hfresh.cursor]
  obtain ⟨requests, q, hpath, hq, hrun⟩ := walk_path steps hi
  have hcount : ∀ path, (walk p steps).1.count path ≤ 2 := by
    intro path
    have hle := count_requests_le hpath hi hq path
    rcases hrun with ⟨h₁, _⟩ | ⟨h₁, _⟩
    · rw [h₁]
      rw [count_append] at hle
      omega
    · rw [h₁]
      exact hle
  refine ⟨?_, hcount, ?_⟩
  · intro p' hne hp'
    rcases hrun with ⟨_, h₂, _, h₄⟩ | ⟨_, h₂⟩
    · rw [h₂] at hp'
      cases hp'
      exact hq.bounded (h₄ (.inr hne))
    · exact absurd hp' (h₂ p')
  -- The first request is for the root; the rest is a path on which it is visited.
  cases steps with
  | nil => simp [walk]
  | cons step steps =>
    cases hstep : discoveryStep p step with
    | error msg => simp [walk, hstep, hroot]
    | ok r =>
      obtain ⟨done, p₁⟩ := r
      cases done with
      | true => simp [walk, hstep, hroot]
      | false =>
        obtain ⟨hvisited, _⟩ := fresh_first_step hfresh hstep
        obtain ⟨_, hi₁, _⟩ := discoveryStep_refines hi hstep
        obtain ⟨requests₁, q₁, hpath₁, hq₁, hrun₁⟩ := walk_path steps hi₁
        have hmem : p.root ∈ (toWalk p₁).visited := by
          show p.root ∈ p₁.visited.keys
          rw [hvisited]
          exact mem_singleton.mpr rfl
        have hnotRequested := path_visited_not_requested hpath₁ hi₁.worklist hmem
        have hnotLast : p.root ≠ q₁.requestPath := by
          intro hc
          have hstill := path_visited_subset hpath₁ hmem
          rw [hc] at hstill
          exact hq₁.worklist.cursor_notMem_visited hstill
        have hlength := length_requests_le hpath₁ hi₁ hq₁ hvisited
        have hzero : requests₁.count p.root = 0 := count_eq_zero.mpr hnotRequested
        simp only [walk, hstep, hroot, count_cons, beq_self_eq_true, if_true,
          length_cons]
        rcases hrun₁ with ⟨h₁, h₂, h₃, _⟩ | ⟨h₁, h₂⟩
        · rw [h₁]
          refine ⟨by omega, by omega, ?_⟩
          intro hlong
          omega
        · rw [h₁]
          have hlast : [q₁.requestPath].count p.root = 0 :=
            count_eq_zero.mpr (by simpa using hnotLast)
          rw [count_append, length_append, length_singleton]
          exact ⟨by omega, by omega, fun _ => h₂⟩

/-- A fresh walk of the usual root. -/
def deviceWalk : ParameterDiscoveryPayload := { root := "Device.", incremental := true }

theorem deviceWalk_fresh : deviceWalk.Fresh :=
  ⟨rfl, by decide, rfl, rfl, rfl, rfl, rfl, rfl⟩

/-- The walk after the root has answered with one object and that object failed once. -/
def deviceWalkRetried : ParameterDiscoveryPayload :=
  { deviceWalk with
    cursor := "Device.WiFi."
    visited := AList.singleton "Device." true
    names := AList.singleton "Device.WiFi." false
    retried := AList.singleton "Device.WiFi." true }

theorem discovery_walk_bounded_deviceWalk :
    (walk deviceWalk [.answer (AList.singleton "Device.WiFi." false), .skip]).2
      = .ok (false, deviceWalkRetried) ∧ WalkBounded deviceWalkRetried := by
  have hrun : (walk deviceWalk [.answer (AList.singleton "Device.WiFi." false), .skip]).2
      = .ok (false, deviceWalkRetried) := rfl
  exact ⟨hrun, (discovery_walk_bounded deviceWalk deviceWalk_fresh _).1 _ (by simp) hrun⟩

end Acs
