/-
What a finished discovery walk has found.

The history of a run is the list of answers it took in.  By induction along the
run, a walk that reports done has recorded exactly the names of its history, has
visited every object it ever queued, and has visited nothing but the objects that
were answered for and the ones it gave up on.
-/
import Acs.Proofs.DiscoveryRun

namespace Acs

open List Worklist
open Text

/-- The flag a path has after a sequence of answers: the last one that reports the
path wins. -/
def lastReported (before : Option Bool) (history : List Answer) (path : String) : Option Bool :=
  history.foldl (fun flag a => (a.names.lookup path).or flag) before

/-- The path was an object of the answer, and `collapseRuntimeInstances` removed it. -/
def Answer.Collapsed (a : Answer) (path : String) : Prop :=
  path ∈ a.payload.newObjects a.names ∧
    path ∉ collapseRuntimeInstances (a.payload.newObjects a.names)

/-! ### From one step to the rest of the run -/

/-- What the run from `p` to its end `p'` has found, given the answers it took in. -/
structure WalkFound (p p' : ParameterDiscoveryPayload) (history : List Answer) : Prop where
  names : ∀ path, p'.names.lookup path = lastReported (p.names.lookup path) history path
  reported : ∀ a ∈ history, ∀ path ∈ a.names, hasSuffix path "." →
    path ∈ p'.visited ∨ a.Collapsed path
  skipped : ∃ given, p'.skipped = p.skipped ++ given ∧
    (∀ x, x ∈ p'.visited ↔
      x ∈ p.visited ∨ x ∈ history.map (·.payload.requestPath) ∨ x ∈ given) ∧
    (∀ x ∈ history.map (·.payload.requestPath), x ∉ p.visited ∧ x ∉ given) ∧
    (∀ x ∈ given, x ∉ p.visited)

theorem WalkFound.refl (p : ParameterDiscoveryPayload) : WalkFound p p [] where
  names _ := rfl
  reported := by simp
  skipped := ⟨[], by simp⟩

variable {history : List Answer} {p p' p₁ : ParameterDiscoveryPayload}

theorem WalkFound.visited_subset (h : WalkFound p p' history) {x : String} (hx : x ∈ p.visited) :
    x ∈ p'.visited := by
  obtain ⟨given, _, hvisited, _⟩ := h.skipped
  exact (hvisited x).mpr (.inl hx)

theorem WalkFound.answer {names : StringMap Bool} (hi : WalkInv p) (hrest : WalkFound p₁ p' history)
    (hvisited₁ : p₁.visited = p.visited.insert p.requestPath true)
    (hnames₁ : p₁.names = recordNames p.names names) (hskipped₁ : p₁.skipped = p.skipped)
    (hqueue : ∀ x ∈ p.pending ++ p.found names, x ∈ p'.visited) :
    WalkFound p p' (⟨p, names⟩ :: history) := by
  have hmem₁ : ∀ x, x ∈ p₁.visited ↔ x = p.requestPath ∨ x ∈ p.visited := by
    intro x
    rw [hvisited₁]
    exact AList.mem_insert _
  have hnew : p.requestPath ∉ p.visited := hi.worklist.cursor_notMem_visited
  refine ⟨fun path => ?_, ?_, ?_⟩
  · rw [hrest.names, hnames₁, lookup_recordNames]
    rfl
  · intro a ha path hpath hdot
    rcases mem_cons.mp ha with rfl | ha
    · -- The path is the object itself, was visited, or is one of the new objects.
      by_cases hcurrent : path = p.requestPath
      · exact .inl (hrest.visited_subset ((hmem₁ path).mpr (.inl hcurrent)))
      by_cases hold : path ∈ p.visited
      · exact .inl (hrest.visited_subset ((hmem₁ path).mpr (.inr hold)))
      have hunset : StringMap.isSet p.visited path = false := by
        rw [StringMap.isSet, AList.lookup_eq_none.mpr hold]
        rfl
      have hobject : path ∈ p.newObjects names := mem_newObjects.mpr ⟨hpath, hcurrent, hdot, hunset⟩
      by_cases hkept : path ∈ collapseRuntimeInstances (p.newObjects names)
      · refine .inl (hqueue path ?_)
        by_cases hqueued : path ∈ p.pending
        · exact mem_append_left _ hqueued
        · exact mem_append_right _ (mem_found.mpr ⟨hkept, hqueued⟩)
      · exact .inr ⟨hobject, hkept⟩
    · exact hrest.reported a ha path hpath hdot
  · obtain ⟨given, hgiven, hunion, hanswered, hfresh⟩ := hrest.skipped
    refine ⟨given, by rw [hgiven, hskipped₁], fun x => ?_, fun x hx => ?_, fun x hx hv => ?_⟩
    · rw [hunion, hmem₁, map_cons, mem_cons]
      tauto
    · rcases mem_cons.mp hx with rfl | hx
      · exact ⟨hnew, fun hg => hfresh _ hg ((hmem₁ _).mpr (.inl rfl))⟩
      · exact ⟨fun hv => (hanswered x hx).1 ((hmem₁ x).mpr (.inr hv)), (hanswered x hx).2⟩
    · exact hfresh x hx ((hmem₁ x).mpr (.inr hv))

theorem WalkFound.giveUp (hnew : p.cursor ∉ p.visited) (hrest : WalkFound p₁ p' history)
    (hvisited₁ : p₁.visited = p.visited.insert p.cursor true) (hnames₁ : p₁.names = p.names)
    (hskipped₁ : p₁.skipped = p.skipped ++ [p.cursor]) :
    WalkFound p p' history := by
  have hmem₁ : ∀ x, x ∈ p₁.visited ↔ x = p.cursor ∨ x ∈ p.visited := by
    intro x
    rw [hvisited₁]
    exact AList.mem_insert _
  refine ⟨by rw [← hnames₁]; exact hrest.names, hrest.reported, ?_⟩
  obtain ⟨given, hgiven, hunion, hanswered, hfresh⟩ := hrest.skipped
  refine ⟨p.cursor :: given, by rw [hgiven, hskipped₁, append_assoc]; rfl,
    fun x => ?_, fun x hx => ⟨fun hv => ?_, fun hg => ?_⟩, fun x hx hv => ?_⟩
  · rw [hunion, hmem₁, mem_cons]
    tauto
  · exact (hanswered x hx).1 ((hmem₁ x).mpr (.inr hv))
  · rcases mem_cons.mp hg with hc | hg
    · exact (hanswered x hx).1 ((hmem₁ x).mpr (.inl hc))
    · exact (hanswered x hx).2 hg
  · rcases mem_cons.mp hx with hc | hx
    · exact hnew (hc ▸ hv)
    · exact hfresh x hx ((hmem₁ x).mpr (.inr hv))

theorem WalkFound.step {step : DiscoveryStep} (hi : WalkInv p)
    (hstep : discoveryStep p step = .ok (false, p₁)) (hrest : WalkFound p₁ p' history)
    (hknown : ∀ x ∈ (toWalk p₁).known, x ∈ p'.visited) :
    WalkFound p p' (step.answers p ++ history) := by
  cases step with
  | answer names =>
    obtain ⟨hwalk, _, hcursor⟩ := advanceDiscovery_step hi hstep
    obtain ⟨_, _, ⟨hdone, _⟩ | ⟨_, next, rest, hqueue, hp₁⟩⟩ := advanceDiscovery_ok hstep
    · cases hdone
    refine WalkFound.answer hi hrest (by rw [hp₁]) (by rw [hp₁]) (by rw [hp₁]) ?_
    intro x hx
    refine hknown x ?_
    rw [hqueue] at hx
    have hshape : (toWalk p₁).known = p₁.cursor :: (p₁.pending ++ p₁.visited.keys) := by
      rw [State.known, toWalk, requestPath_eq_cursor hcursor]
    rw [hshape, hp₁]
    rcases mem_cons.mp hx with rfl | hx
    · exact mem_cons_self
    · exact mem_cons_of_mem _ (mem_append_left _ hx)
  | skip =>
    obtain ⟨_, hskip⟩ := skipDiscoveryCursor_of_step hstep
    obtain ⟨hcursor, ⟨_, _, _, next, rest, _, hp₁⟩ |
      ⟨_, _, _, ⟨hdone, _⟩ | ⟨_, next, rest, _, hp₁⟩⟩⟩ := skipDiscoveryCursor_ok hskip
    · subst hp₁
      exact ⟨hrest.names, hrest.reported, hrest.skipped⟩
    · cases hdone
    · have hnew := hi.worklist.cursor_notMem_visited
      simp only [toWalk, requestPath_eq_cursor hcursor] at hnew
      exact WalkFound.giveUp hnew hrest (by rw [hp₁]) (by rw [hp₁]) (by rw [hp₁])

theorem WalkFound.done {step : DiscoveryStep} (hi : WalkInv p)
    (hstep : discoveryStep p step = .ok (true, p')) :
    WalkFound p p' (step.answers p) ∧ ∀ x ∈ (toWalk p).known, x ∈ p'.visited := by
  cases step with
  | answer names =>
    obtain ⟨_, _, ⟨_, hqueue, hp'⟩ | ⟨hdone, _⟩⟩ := advanceDiscovery_ok hstep
    · refine ⟨WalkFound.answer hi (WalkFound.refl p') (by rw [hp']) (by rw [hp'])
        (by rw [hp']) (by simp [hqueue]), fun x hx => ?_⟩
      have hempty : p.pending = [] := (append_eq_nil_iff.mp hqueue).1
      have hx' : x = p.requestPath ∨ x ∈ p.visited := by
        simpa [State.known, toWalk, hempty, ← AList.mem_keys] using hx
      rw [hp']
      exact (AList.mem_insert _).mpr hx'
    · cases hdone
  | skip =>
    obtain ⟨_, hskip⟩ := skipDiscoveryCursor_of_step hstep
    obtain ⟨hcursor, ⟨_, hdone, _⟩ | ⟨_, _, _, ⟨_, hempty, hp'⟩ | ⟨hdone, _⟩⟩⟩ :=
      skipDiscoveryCursor_ok hskip
    · cases hdone
    · have hnew := hi.worklist.cursor_notMem_visited
      simp only [toWalk, requestPath_eq_cursor hcursor] at hnew
      refine ⟨WalkFound.giveUp hnew (WalkFound.refl p') (by rw [hp']) (by rw [hp'])
        (by rw [hp']), fun x hx => ?_⟩
      have hx' : x = p.cursor ∨ x ∈ p.visited := by
        simpa [State.known, toWalk, hempty, requestPath_eq_cursor hcursor,
          ← AList.mem_keys] using hx
      rw [hp']
      exact (AList.mem_insert _).mpr hx'
    · cases hdone

/-! ### Whole runs -/

/-- A run that ends with done has found what its history reports, and has visited
everything it knew of. -/
theorem walk_found {steps : List DiscoveryStep} :
    ∀ {p p' : ParameterDiscoveryPayload}, WalkInv p → (walk p steps).2 = .ok (true, p') →
      WalkFound p p' (answers p steps) ∧ ∀ x ∈ (toWalk p).known, x ∈ p'.visited := by
  induction steps with
  | nil => intro p p' _ h; cases h
  | cons step steps ih =>
    intro p p' hi h
    cases hstep : discoveryStep p step with
    | error msg => simp only [walk, hstep] at h; cases h
    | ok r =>
      obtain ⟨done, p₁⟩ := r
      cases done with
      | true =>
        simp only [walk, hstep] at h
        cases h
        simp only [answers, hstep]
        exact WalkFound.done hi hstep
      | false =>
        simp only [walk, hstep] at h
        obtain ⟨hwalk, hi₁, _⟩ := discoveryStep_refines hi hstep
        obtain ⟨hrest, hknown⟩ := ih hi₁ h
        simp only [answers, hstep]
        exact ⟨WalkFound.step hi hstep hrest hknown,
          fun x hx => hknown x (step_known_subset hwalk hx)⟩

/-- **A finished walk is complete.**  Its names are the union of the answers, the
last flag of a path winning; every object among them was visited, or each answer
that reported it had it collapsed away; and the visited objects are the ones that
were answered for and, disjoint from them, the skipped ones. -/
theorem discovery_done_complete (p p' : ParameterDiscoveryPayload) (hfresh : p.Fresh)
    (steps : List DiscoveryStep) (hdone : (walk p steps).2 = .ok (true, p')) :
    (∀ path, p'.names.lookup path = lastReported none (answers p steps) path) ∧
    (∀ path ∈ p'.names, hasSuffix path "." = true →
      path ∈ p'.visited ∨ ∀ a ∈ answers p steps, path ∈ a.names → a.Collapsed path) ∧
    (∀ path, path ∈ p'.visited ↔
      path ∈ (answers p steps).map (·.payload.requestPath) ∨ path ∈ p'.skipped) ∧
    (∀ path ∈ (answers p steps).map (·.payload.requestPath), path ∉ p'.skipped) := by
  obtain ⟨hfound, _⟩ := walk_found (WalkInv.of_fresh hfresh) hdone
  obtain ⟨given, hgiven, hunion, hanswered, _⟩ := hfound.skipped
  have hskipped : p'.skipped = given := by rw [hgiven, hfresh.skipped, nil_append]
  have hunvisited : ∀ x, x ∉ p.visited := by simp [hfresh.visited]
  refine ⟨?_, ?_, ?_, ?_⟩
  · intro path
    rw [hfound.names, hfresh.names]
    rfl
  · intro path _ hdot
    by_cases hvisited : path ∈ p'.visited
    · exact .inl hvisited
    · refine .inr ?_
      intro a ha hpath
      exact (hfound.reported a ha path hpath hdot).resolve_left hvisited
  · intro path
    rw [hunion, hskipped]
    simp [hunvisited path]
  · intro path hpath
    rw [hskipped]
    exact (hanswered path hpath).2

/-- The walk after that object has failed twice. -/
def deviceWalkSkipped : ParameterDiscoveryPayload :=
  { deviceWalkRetried with
    cursor := ""
    visited := (AList.singleton "Device." true).insert "Device.WiFi." true
    skipped := ["Device.WiFi."] }

theorem discovery_done_complete_deviceWalk :
    (walk deviceWalk [.answer (AList.singleton "Device.WiFi." false), .skip, .skip]).2
        = .ok (true, deviceWalkSkipped) ∧
      ∀ path, path ∈ deviceWalkSkipped.visited ↔
        path ∈ ["Device."] ∨ path ∈ deviceWalkSkipped.skipped := by
  have hrun : (walk deviceWalk [.answer (AList.singleton "Device.WiFi." false), .skip, .skip]).2
      = .ok (true, deviceWalkSkipped) := rfl
  exact ⟨hrun, (discovery_done_complete deviceWalk _ deviceWalk_fresh _ hrun).2.2.1⟩

end Acs
