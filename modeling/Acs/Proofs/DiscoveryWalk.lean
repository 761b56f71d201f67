/-
The discovery walk as a whole.

A run is any sequence of answers and skips, the device choosing every response.
`walk` follows it until a step reports that the walk is done or fails.  The
invariant `WalkInv` holds of a fresh payload and is kept by every step that goes
on; with the accounting of the worklist it bounds the number of requests, and
with the history of answers it says what a finished walk has found.
-/
import Acs.Proofs.DiscoveryStep

namespace Acs

open List Worklist StringMap AList
open Text

/-! ### Runs -/

/-- What the device does with one request of the walk: it answers with a map of
names, or the gateway skips the object. -/
inductive DiscoveryStep where
  | answer (names : StringMap Bool)
  | skip

def discoveryStep (p : ParameterDiscoveryPayload) :
    DiscoveryStep → Except String (Bool × ParameterDiscoveryPayload)
  | .answer names => advanceDiscovery p names
  | .skip => (skipDiscoveryCursor p).map fun r => (r.1, r.2.2)

/-- The request paths of a run and what its last step reported.  The run stops at
the first step that reports done or an error. -/
def walk : ParameterDiscoveryPayload → List DiscoveryStep →
    List String × Except String (Bool × ParameterDiscoveryPayload)
  | p, [] => ([], .ok (false, p))
  | p, step :: steps =>
    match discoveryStep p step with
    | .ok (false, p') => (p.requestPath :: (walk p' steps).1, (walk p' steps).2)
    | .ok (true, p') => ([p.requestPath], .ok (true, p'))
    | .error msg => ([p.requestPath], .error msg)

/-- A response that a step took in, with the payload it was taken in by. -/
structure Answer where
  payload : ParameterDiscoveryPayload
  names : StringMap Bool

def DiscoveryStep.answers (p : ParameterDiscoveryPayload) : DiscoveryStep → List Answer
  | .answer names => [⟨p, names⟩]
  | .skip => []

/-- The responses a run took in, oldest first. -/
def answers : ParameterDiscoveryPayload → List DiscoveryStep → List Answer
  | _, [] => []
  | p, step :: steps =>
    match discoveryStep p step with
    | .ok (false, p') => step.answers p ++ answers p' steps
    | .ok (true, _) => step.answers p
    | .error _ => []

/-- A payload as it is created: nothing asked for yet. -/
structure ParameterDiscoveryPayload.Fresh (p : ParameterDiscoveryPayload) : Prop where
  incremental : p.incremental
  root : p.root ≠ ""
  cursor : p.cursor = ""
  pending : p.pending = []
  visited : p.visited = ∅
  names : p.names = ∅
  skipped : p.skipped = []
  retried : p.retried = ∅

/-! ### The invariant of a step -/

/-- The part of the payload the general worklist talks about. -/
def toWalk (p : ParameterDiscoveryPayload) : State String where
  cursor := p.requestPath
  pending := p.pending
  visited := p.visited.keys
  deferred := p.retried.keys

/-- What holds of a payload before every request. -/
structure WalkInv (p : ParameterDiscoveryPayload) : Prop where
  worklist : Inv (toWalk p)
  visitedSet : ∀ x ∈ p.visited, p.visited.isSet x
  retriedSet : ∀ x ∈ p.retried, p.retried.isSet x
  rootNonempty : p.root ≠ ""
  pendingNonempty : ∀ x ∈ p.pending, x ≠ ""
  objects : size p.visited + p.pending.length + 1 ≤ discoveryMaxObjects
  skipped : p.skipped.length ≤ discoveryMaxSkipped
  names : size p.names ≤ discoveryMaxNames

variable {p p' : ParameterDiscoveryPayload} {names : StringMap Bool}

theorem WalkInv.of_fresh (h : p.Fresh) : WalkInv p where
  worklist := by
    refine ⟨?_, ?_⟩
    · simp [State.known, toWalk, h.pending, h.visited]
    · simp [toWalk, h.retried]
  visitedSet := by simp [h.visited]
  retriedSet := by simp [h.retried]
  rootNonempty := h.root
  pendingNonempty := by simp [h.pending]
  objects := by simp [h.visited, h.pending, size, discoveryMaxObjects]
  skipped := by simp [h.skipped]
  names := by simp [h.names, size]

theorem isSet_insert_of_allSet {m : StringMap Bool} {k : String}
    (h : ∀ x ∈ m, m.isSet x) :
    ∀ x ∈ (m.insert k true : StringMap Bool), isSet (m.insert k true) x := by
  intro x hx
  by_cases hk : x = k
  · subst hk
    simp [isSet, lookup_insert]
  · have hold : x ∈ m := by
      rcases (mem_insert m).mp hx with hc | hm
      · exact absurd hc hk
      · exact hm
    have := h x hold
    unfold isSet at this ⊢
    rwa [lookup_insert_ne hk]

theorem isSet_iff_mem {m : StringMap Bool} (h : ∀ x ∈ m, m.isSet x) {k : String} :
    m.isSet k ↔ k ∈ m := by
  refine ⟨fun hset => ?_, h k⟩
  by_contra hmem
  rw [isSet, lookup_eq_none.mpr hmem] at hset
  cases hset

theorem requestPath_eq_cursor (h : p.cursor ≠ "") :
    p.requestPath = p.cursor := by
  simp [ParameterDiscoveryPayload.requestPath, h]

theorem visited_keys_insert (hi : WalkInv p) :
    (p.visited.insert p.requestPath true).keys = p.requestPath :: p.visited.keys := by
  have hnot : p.requestPath ∉ p.visited.keys := hi.worklist.cursor_notMem_visited
  rw [keys_insert, erase_of_not_mem hnot]

theorem found_unknown (hi : WalkInv p) {x : String} (hx : x ∈ p.found names) :
    x ∉ (toWalk p).known := by
  obtain ⟨hkept, hqueued⟩ := mem_found.mp hx
  obtain ⟨_, hcurrent, _, hvisited⟩ := mem_newObjects.mp (collapseRuntimeInstances_subset hkept)
  intro hmem
  rcases mem_cons.mp hmem with hc | hmem
  · exact hcurrent hc
  rcases mem_append.mp hmem with hp | hv
  · exact hqueued hp
  · rw [hi.visitedSet x hv] at hvisited
    cases hvisited

theorem found_ne_empty {x : String} (hx : x ∈ p.found names) : x ≠ "" := by
  have hkept := (mem_found.mp hx).1
  have hdot := (mem_newObjects.mp (collapseRuntimeInstances_subset hkept)).2.2.1
  exact ne_empty_of_hasSuffix (by decide) hdot

/-- An answer that leaves objects to ask for is an answer of the worklist. -/
theorem advanceDiscovery_step (hi : WalkInv p) (h : advanceDiscovery p names = .ok (false, p')) :
    Step (toWalk p) (toWalk p') ∧ WalkInv p' ∧ p'.cursor ≠ "" := by
  obtain ⟨hobjects, hnames, ⟨hdone, _⟩ | ⟨_, next, rest, hqueue, hp'⟩⟩ := advanceDiscovery_ok h
  · cases hdone
  have hqueueNonempty : ∀ x ∈ next :: rest, x ≠ "" := by
    rw [← hqueue]
    intro x hx
    rcases mem_append.mp hx with hp | hf
    · exact hi.pendingNonempty x hp
    · exact found_ne_empty hf
  have hnext : next ≠ "" := hqueueNonempty next mem_cons_self
  have hwalk : toWalk p' = ⟨next, rest, p.requestPath :: p.visited.keys, p.retried.keys⟩ := by
    subst hp'
    simp only [toWalk, visited_keys_insert hi]
    rw [requestPath_eq_cursor (by exact hnext)]
  have hstep : Step (toWalk p) (toWalk p') := by
    rw [hwalk]
    exact Step.answer (found_nodup p names) (fun x hx => found_unknown hi hx) hqueue
  refine ⟨hstep, ?_, by subst hp'; exact hnext⟩
  have hinv := step_inv hstep hi.worklist
  subst hp'
  refine ⟨hinv, isSet_insert_of_allSet hi.visitedSet, hi.retriedSet, hi.rootNonempty,
    fun x hx => hqueueNonempty x (mem_cons_of_mem _ hx), ?_, hi.skipped, hnames⟩
  rw [hqueue, length_cons] at hobjects
  omega

/-- A skip that leaves objects to ask for defers or gives up. -/
theorem skipDiscoveryCursor_step {skipped : Bool} (hi : WalkInv p)
    (h : skipDiscoveryCursor p = .ok (false, skipped, p')) :
    Step (toWalk p) (toWalk p') ∧ WalkInv p' ∧ p'.cursor ≠ "" := by
  obtain ⟨hcursor, hcases⟩ := skipDiscoveryCursor_ok h
  have hrequest := requestPath_eq_cursor hcursor
  rcases hcases with ⟨hfirst, _, _, next, rest, hqueue, hp'⟩ |
    ⟨hsecond, _, hlimit, ⟨hdone, _⟩ | ⟨_, next, rest, hqueue, hp'⟩⟩
  · -- First failure: the object goes to the end of the queue.
    have hqueueNonempty : ∀ x ∈ next :: rest, x ≠ "" := by
      rw [← hqueue]
      intro x hx
      rcases mem_append.mp hx with hp | hc
      · exact hi.pendingNonempty x hp
      · rw [mem_singleton.mp hc]; exact hcursor
    have hnext : next ≠ "" := hqueueNonempty next mem_cons_self
    have hnotRetried : p.cursor ∉ p.retried := fun hmem => by
      rw [hi.retriedSet _ hmem] at hfirst
      cases hfirst
    have hwalk : toWalk p' = ⟨next, rest, p.visited.keys, p.requestPath :: p.retried.keys⟩ := by
      subst hp'
      simp only [toWalk]
      rw [requestPath_eq_cursor (by exact hnext), keys_insert, hrequest,
        erase_of_not_mem hnotRetried]
    have hstep : Step (toWalk p) (toWalk p') := by
      rw [hwalk]
      refine Step.defer ?_ ?_
      · simp only [toWalk, hrequest]
        exact hnotRetried
      · simpa [toWalk, hrequest] using hqueue
    refine ⟨hstep, ?_, by subst hp'; exact hnext⟩
    have hinv := step_inv hstep hi.worklist
    have hobjects := hi.objects
    have hlength := congrArg List.length hqueue
    rw [length_append, length_singleton, length_cons] at hlength
    subst hp'
    refine ⟨hinv, hi.visitedSet, isSet_insert_of_allSet hi.retriedSet, hi.rootNonempty,
      fun x hx => hqueueNonempty x (mem_cons_of_mem _ hx), ?_, hi.skipped, hi.names⟩
    show size p.visited + rest.length + 1 ≤ discoveryMaxObjects
    omega
  · cases hdone
  · -- Second failure: the object counts as visited.
    have hqueueNonempty : ∀ x ∈ next :: rest, x ≠ "" := hqueue ▸ hi.pendingNonempty
    have hnext : next ≠ "" := hqueueNonempty next mem_cons_self
    have hwalk : toWalk p' = ⟨next, rest, p.requestPath :: p.visited.keys, p.retried.keys⟩ := by
      subst hp'
      simp only [toWalk]
      rw [requestPath_eq_cursor (by exact hnext), ← hrequest, visited_keys_insert hi]
    have hstep : Step (toWalk p) (toWalk p') := by
      rw [hwalk]
      refine Step.giveUp ?_ hqueue
      simp only [toWalk, hrequest]
      exact (isSet_iff_mem hi.retriedSet).mp hsecond
    refine ⟨hstep, ?_, by subst hp'; exact hnext⟩
    have hinv := step_inv hstep hi.worklist
    have hobjects := hi.objects
    have hsize := congrArg List.length (visited_keys_insert hi)
    rw [length_cons, hrequest] at hsize
    rw [hqueue, length_cons] at hobjects
    subst hp'
    refine ⟨hinv, isSet_insert_of_allSet hi.visitedSet, hi.retriedSet, hi.rootNonempty,
      fun x hx => hqueueNonempty x (mem_cons_of_mem _ hx), ?_, ?_, hi.names⟩
    · simp only [size] at hobjects ⊢
      omega
    · simp only [length_append, length_singleton]
      omega

theorem skipDiscoveryCursor_of_step {done : Bool} (h : discoveryStep p .skip = .ok (done, p')) :
    ∃ skipped, skipDiscoveryCursor p = .ok (done, skipped, p') := by
  cases hskip : skipDiscoveryCursor p with
  | error msg => simp only [discoveryStep, hskip] at h; cases h
  | ok r =>
    simp only [discoveryStep, hskip, Except.map] at h
    cases h
    exact ⟨r.2.1, rfl⟩

/-- **Each step that goes on is a step of the worklist, and keeps the invariant.** -/
theorem discoveryStep_refines {step : DiscoveryStep} (hi : WalkInv p)
    (h : discoveryStep p step = .ok (false, p')) :
    Step (toWalk p) (toWalk p') ∧ WalkInv p' ∧ p'.cursor ≠ "" := by
  cases step with
  | answer names => exact advanceDiscovery_step hi h
  | skip =>
    obtain ⟨_, hskip⟩ := skipDiscoveryCursor_of_step h
    exact skipDiscoveryCursor_step hi hskip

end Acs
