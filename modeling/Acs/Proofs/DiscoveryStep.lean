/-
What one step of the discovery walk can do.

`advanceDiscovery_ok` and `skipDiscoveryCursor_ok` say it once, guards included,
and nothing below or above them unfolds the two functions again.  Read through
`toWalk`, which forgets everything but the cursor, the queue, the visited and the
retried objects, each step is a step of the general worklist: an answer visits
the object and queues what it reports, a skip defers or gives up.
-/
import Acs.Jobs.Discovery
import Acs.Lib.Limit
import Acs.Lib.Worklist

namespace Acs

open List StringMap AList ParameterDiscoveryPayload
open Text

/-! ### Reading an answer -/

/-- The objects of a response that the walk has not visited, as they are handed
to `collapseRuntimeInstances`. -/
def ParameterDiscoveryPayload.newObjects (p : ParameterDiscoveryPayload)
    (names : StringMap Bool) : List String :=
  sortStrings (names.keys.filter
    (isNewObject p.requestPath (p.visited.insert p.requestPath true)))

/-- The names known after a response: its entries overwrite the ones before. -/
def recordNames (known names : StringMap Bool) : StringMap Bool :=
  names.entries.foldl (fun m e => m.insert e.1 e.2) known

theorem lookup_foldl_insert {entries : List ((_ : String) × Bool)} (path : String) :
    ∀ {m : StringMap Bool}, (entries.map (·.1)).Nodup →
      (entries.foldl (fun m e => m.insert e.1 e.2) m).lookup path
        = (entries.dlookup path).or (m.lookup path) := by
  induction entries with
  | nil => intro m _; simp
  | cons e rest ih =>
    intro m hnodup
    obtain ⟨hnotMem, hrest⟩ := nodup_cons.mp hnodup
    rw [foldl_cons, ih hrest]
    obtain ⟨k, flag⟩ := e
    by_cases hk : path = k
    · subst hk
      have hnone : rest.dlookup path = none := dlookup_eq_none.mpr hnotMem
      rw [hnone, dlookup_cons_eq, lookup_insert]
      rfl
    · rw [dlookup_cons_ne _ _ hk, lookup_insert_ne hk]

theorem lookup_recordNames (known names : StringMap Bool) (path : String) :
    (recordNames known names).lookup path = (names.lookup path).or (known.lookup path) :=
  lookup_foldl_insert path names.keys_nodup

variable {names : StringMap Bool} {path : String} {p p' : ParameterDiscoveryPayload} {done : Bool}

theorem mem_recordNames {known : StringMap Bool} (h : path ∈ recordNames known names) :
    path ∈ known ∨ path ∈ names := by
  rw [← lookup_isSome, lookup_recordNames] at h
  cases hnames : names.lookup path with
  | none =>
    rw [hnames, Option.none_or, lookup_isSome] at h
    exact .inl h
  | some flag => exact .inr (lookup_isSome.mp (by rw [hnames]; rfl))

theorem foldlM_recordName_ok {root current : String} {visited : StringMap Bool} :
    ∀ {entries : List ((_ : String) × Bool)} {acc acc' : StringMap Bool × List String},
      entries.foldlM (recordName root current visited) acc = .ok acc' →
      acc'.1 = entries.foldl (fun m e => m.insert e.1 e.2) acc.1 ∧
      acc'.2 = acc.2 ++ (entries.map (·.1)).filter (isNewObject current visited) := by
  intro entries
  induction entries with
  | nil =>
    intro acc acc' h
    cases h
    simp
  | cons e rest ih =>
    intro acc acc' h
    rw [foldlM_cons] at h
    -- Only the two branches that record the name go on.
    cases hstep : recordName root current visited acc e with
    | error msg => rw [hstep] at h; cases h
    | ok mid =>
      rw [hstep] at h
      obtain ⟨hknown, hobjects⟩ := ih h
      unfold recordName at hstep
      split at hstep
      · cases hstep
      split at hstep
      · cases hstep
      split at hstep
      next hobj =>
        split at hstep
        · cases hstep
        cases hstep
        refine ⟨hknown, ?_⟩
        rw [hobjects, map_cons, filter_cons_of_pos hobj, append_assoc]
        rfl
      next hobj =>
        cases hstep
        refine ⟨hknown, ?_⟩
        rw [hobjects, map_cons, filter_cons_of_neg hobj]

theorem newObjects_nodup (p : ParameterDiscoveryPayload) (names : StringMap Bool) :
    (p.newObjects names).Nodup :=
  sortStrings_nodup.mpr (names.keys_nodup.filter _)

theorem mem_newObjects :
    path ∈ p.newObjects names ↔ path ∈ names ∧ path ≠ p.requestPath ∧
      hasSuffix path "." ∧ StringMap.isSet p.visited path = false := by
  unfold newObjects
  rw [mem_sortStrings, mem_filter, AList.mem_keys]
  by_cases hpath : path = p.requestPath
  · simp [isNewObject, hpath]
  · simp [isNewObject, hpath, isSet, lookup_insert_ne hpath]

theorem collapseRuntimeInstances_subset {objects : List String}
    (h : path ∈ collapseRuntimeInstances objects) : path ∈ objects :=
  (mem_filter.mp h).1

theorem enqueue_eq {objects : List String} : ∀ {pending : List String}, objects.Nodup →
    enqueue pending objects = pending ++ objects.filter (· ∉ pending) := by
  induction objects with
  | nil => intro pending _; simp [enqueue]
  | cons path rest ih =>
    intro pending hnodup
    obtain ⟨hnotMem, hrest⟩ := nodup_cons.mp hnodup
    unfold enqueue at ih ⊢
    rw [foldl_cons]
    by_cases hqueued : path ∈ pending
    · rw [if_pos hqueued, ih hrest, filter_cons_of_neg (by simpa using hqueued)]
    · rw [if_neg hqueued, ih hrest, filter_cons_of_pos (by simpa using hqueued)]
      -- The object just queued is not among the rest.
      have hsame : rest.filter (· ∉ pending ++ [path]) = rest.filter (· ∉ pending) := by
        refine filter_congr ?_
        intro x hx
        have hne : x ≠ path := fun hc => hnotMem (hc ▸ hx)
        simp [hne]
      rw [hsame, append_assoc]
      rfl

/-- The objects a response adds to the queue. -/
def ParameterDiscoveryPayload.found (p : ParameterDiscoveryPayload) (names : StringMap Bool) :
    List String :=
  (collapseRuntimeInstances (p.newObjects names)).filter (· ∉ p.pending)

theorem mem_found :
    path ∈ p.found names ↔
      path ∈ collapseRuntimeInstances (p.newObjects names) ∧ path ∉ p.pending := by
  simp [found]

theorem found_nodup (p : ParameterDiscoveryPayload) (names : StringMap Bool) :
    (p.found names).Nodup :=
  ((newObjects_nodup p names).filter _).filter _

/-! ### The two steps, inverted -/

/-- Everything an answer that is taken in can do. -/
theorem advanceDiscovery_ok (h : advanceDiscovery p names = .ok (done, p')) :
    size (p.visited.insert p.requestPath true) +
        (p.pending ++ p.found names).length ≤ discoveryMaxObjects ∧
    size (recordNames p.names names) ≤ discoveryMaxNames ∧
    ((done ∧ p.pending ++ p.found names = [] ∧
        p' = { p with
          visited := p.visited.insert p.requestPath true
          names := recordNames p.names names
          pending := [] }) ∨
      (done = false ∧ ∃ next rest, p.pending ++ p.found names = next :: rest ∧
        p' = { p with
          visited := p.visited.insert p.requestPath true
          names := recordNames p.names names
          cursor := next
          pending := rest })) := by
  unfold advanceDiscovery at h
  cases hscan : names.entries.foldlM
      (recordName p.root p.requestPath (p.visited.insert p.requestPath true)) (p.names, []) with
  | error msg =>
    simp only [hscan, bind, Except.bind] at h
    cases h
  | ok acc =>
    obtain ⟨hknown, hreported⟩ := foldlM_recordName_ok hscan
    have hnames : acc.1 = recordNames p.names names := hknown
    have hqueue : enqueue p.pending (collapseRuntimeInstances (sortStrings acc.2))
        = p.pending ++ p.found names := by
      rw [hreported, nil_append]
      exact enqueue_eq ((newObjects_nodup p names).filter _)
    simp only [hscan, bind, Except.bind, hqueue, hnames] at h
    split at h
    · cases h
    next hbound =>
      simp only [Bool.or_eq_true, decide_eq_true_eq, not_or, Nat.not_lt] at hbound
      refine ⟨hbound.1, hbound.2, ?_⟩
      split at h
      next hnil =>
        cases h
        exact .inl ⟨rfl, hnil, rfl⟩
      next next rest hcons =>
        cases h
        exact .inr ⟨rfl, next, rest, hcons, rfl⟩

/-- Everything a skip that is not refused can do. -/
theorem skipDiscoveryCursor_ok {skipped : Bool}
    (h : skipDiscoveryCursor p = .ok (done, skipped, p')) :
    p.cursor ≠ "" ∧
    ((isSet p.retried p.cursor = false ∧ done = false ∧ skipped = false ∧
        ∃ next rest, p.pending ++ [p.cursor] = next :: rest ∧
          p' = { p with
            retried := p.retried.insert p.cursor true, cursor := next, pending := rest }) ∨
      (isSet p.retried p.cursor ∧ skipped ∧
        p.skipped.length < discoveryMaxSkipped ∧
        ((done ∧ p.pending = [] ∧
            p' = { p with
              visited := p.visited.insert p.cursor true
              skipped := p.skipped ++ [p.cursor]
              cursor := "" }) ∨
          (done = false ∧ ∃ next rest, p.pending = next :: rest ∧
            p' = { p with
              visited := p.visited.insert p.cursor true
              skipped := p.skipped ++ [p.cursor]
              cursor := next
              pending := rest })))) := by
  unfold skipDiscoveryCursor at h
  split at h
  · cases h
  rename_i hcursor
  refine ⟨hcursor, ?_⟩
  split at h
  next hfirst =>
    refine .inl ⟨by simpa using hfirst, ?_⟩
    simp only at h
    split at h
    next hnil =>
      exact absurd hnil (by simp)
    next next rest hcons =>
      cases h
      exact ⟨rfl, rfl, next, rest, hcons, rfl⟩
  next hsecond =>
    split at h
    · cases h
    rename_i hlimit
    simp only at h
    split at h
    next hnil =>
      cases h
      exact .inr ⟨by simpa using hsecond, rfl, by omega, .inl ⟨rfl, hnil, rfl⟩⟩
    next next rest hcons =>
      cases h
      exact .inr ⟨by simpa using hsecond, rfl, by omega, .inr ⟨rfl, next, rest, hcons, rfl⟩⟩

/-! ### What a step leaves of the payload -/

theorem advanceDiscovery_keeps (h : advanceDiscovery p names = .ok (done, p')) :
    p'.firmware = p.firmware ∧ p'.merge = p.merge ∧ p'.names = recordNames p.names names := by
  obtain ⟨_, _, ⟨_, _, rfl⟩ | ⟨_, next, rest, _, rfl⟩⟩ := advanceDiscovery_ok h
  · exact ⟨rfl, rfl, rfl⟩
  · exact ⟨rfl, rfl, rfl⟩

theorem skipDiscoveryCursor_keeps {skipped : Bool}
    (h : skipDiscoveryCursor p = .ok (done, skipped, p')) :
    p'.firmware = p.firmware ∧ p'.merge = p.merge ∧ p'.names = p.names := by
  obtain ⟨_, ⟨_, _, _, next, rest, _, rfl⟩ | ⟨_, _, _, ⟨_, _, rfl⟩ | ⟨_, next, rest, _, rfl⟩⟩⟩ :=
    skipDiscoveryCursor_ok h
  · exact ⟨rfl, rfl, rfl⟩
  · exact ⟨rfl, rfl, rfl⟩
  · exact ⟨rfl, rfl, rfl⟩

/-! ### The instances the walk descends into -/

/-- The paths of a table's instances. -/
def instancePaths (objects : List String) (table : String) : List String :=
  objects.filter fun path => (instanceObject path).any (·.1 = table)

/-- The number of an instance path. -/
def pathNumber (path : String) : Nat :=
  (instanceNumber path).elim 0 (·.2)

/-- How many instances of a table are kept. -/
def instanceLimit (table : String) : Nat :=
  if isRuntimeTable table then 1 else discoveryMaxInstancesPerTable

/-- The instance paths whose number fits a machine integer. -/
def numberedPaths (objects : List String) (table : String) : List String :=
  (instancePaths objects table).filter fun path => (instanceNumber path).isSome

/-- As many of them as the table may keep, those with the lowest numbers. -/
def lowestPaths (objects : List String) (table : String) : List String :=
  limitBy pathNumber (instanceLimit table) (numberedPaths objects table)

/-- The table is not over its limit, or all its numbers fit a machine integer and no number
is on both sides of the cut. -/
def CutsCleanly (objects : List String) (table : String) : Prop :=
  (instancePaths objects table).length ≤ instanceLimit table ∨
    (∀ path ∈ instancePaths objects table, (instanceNumber path).isSome) ∧
    ∀ a ∈ lowestPaths objects table, ∀ b ∈ instancePaths objects table,
      pathNumber a = pathNumber b → b ∈ lowestPaths objects table

section Numbered

variable {objects : List String} {table a : String}

theorem instanceObject_of_number {n : Nat} (h : instanceNumber a = some (table, n)) :
    ∃ digits, instanceObject a = some (table, digits) := by
  obtain ⟨⟨t, digits⟩, ha, hmap⟩ := Option.bind_eq_some_iff.mp h
  obtain ⟨m, -, hm⟩ := Option.map_eq_some_iff.mp hmap
  cases hm
  exact ⟨digits, ha⟩

theorem number_of_isSome (ha : a ∈ instancePaths objects table)
    (hn : (instanceNumber a).isSome) : instanceNumber a = some (table, pathNumber a) := by
  obtain ⟨⟨t, n⟩, hn⟩ := Option.isSome_iff_exists.mp hn
  obtain ⟨digits, hobject⟩ := instanceObject_of_number hn
  obtain rfl : t = table := by simpa [hobject] using (mem_filter.mp ha).2
  rw [pathNumber, hn]
  rfl

/-- Cutting off the numbers cuts off the paths. -/
theorem allowedInstances_eq :
    allowedInstances objects table = (lowestPaths objects table).map pathNumber := by
  unfold allowedInstances tableInstances lowestPaths limitBy
  rw [map_take, map_insertionSort _ (· ≤ ·) _ _ fun _ _ _ _ => Iff.rfl, ← filterMap_eq_map,
    numberedPaths, instancePaths, filter_filter, filterMap_filter]
  congr 2
  refine filterMap_congr fun path _ => ?_
  split
  next t n hn =>
    obtain ⟨digits, hobject⟩ := instanceObject_of_number hn
    simp [hobject, pathNumber, hn]
  next hnone => simp [hnone]

/-- The instances of a table that the walk descends into. -/
abbrev keptPaths (objects : List String) (table : String) : List String :=
  instancePaths (collapseRuntimeInstances objects) table

theorem mem_kept : a ∈ keptPaths objects table ↔
    a ∈ instancePaths objects table ∧
      (instanceNumber a = none ∨ ∃ b ∈ lowestPaths objects table, pathNumber b = pathNumber a) := by
  have hsub : a ∈ keptPaths objects table ↔
      a ∈ instancePaths objects table ∧ a ∈ collapseRuntimeInstances objects := by
    grind [instancePaths, collapseRuntimeInstances_subset]
  rw [hsub, and_congr_right_iff]
  intro ha
  rw [collapseRuntimeInstances, mem_filter, and_iff_right (mem_filter.mp ha).1]
  cases hn : instanceNumber a with
  | none => simp
  | some n =>
    obtain rfl := Option.some.inj (hn.symm.trans (number_of_isSome ha (by simp [hn])))
    simp [allowedInstances_eq]

theorem lowestPaths_subset : lowestPaths objects table ⊆ instancePaths objects table :=
  fun _ h => (mem_filter.mp (mem_of_mem_limitBy h)).1

theorem lowestPaths_kept : lowestPaths objects table ⊆ keptPaths objects table :=
  fun b h => mem_kept.mpr ⟨lowestPaths_subset h, .inr ⟨b, h, rfl⟩⟩

theorem nodup_lowestPaths (hnodup : objects.Nodup) : (lowestPaths objects table).Nodup := by
  rw [← map_id (lowestPaths _ _)]
  exact nodup_map_limitBy (by rw [map_id]; exact (hnodup.filter _).filter _)

theorem length_lowestPaths :
    (lowestPaths objects table).length =
      min (instanceLimit table) (numberedPaths objects table).length := by
  rw [lowestPaths, limitBy, length_take, length_insertionSort]

/-- A table within its limit keeps all its paths. -/
theorem kept_of_length_le (h : (instancePaths objects table).length ≤ instanceLimit table)
    (ha : a ∈ instancePaths objects table) : a ∈ keptPaths objects table := by
  refine mem_kept.mpr ⟨ha, ?_⟩
  cases hn : instanceNumber a with
  | none => exact .inl rfl
  | some n =>
    have hnumbered : a ∈ numberedPaths objects table := mem_filter.mpr ⟨ha, by simp [hn]⟩
    refine .inr ⟨a, ?_, rfl⟩
    rw [lowestPaths, limitBy, take_of_length_le]
    · exact (perm_insertionSort _ _).mem_iff.mpr hnumbered
    · rw [length_insertionSort]
      exact (length_filter_le _ _).trans h

/-- What is kept of a table that cuts cleanly is as much as it may keep, and lower than the
rest. -/
theorem CutsCleanly.lowest (hnodup : objects.Nodup) (h : CutsCleanly objects table) :
    (keptPaths objects table).length
        = min (instancePaths objects table).length (instanceLimit table) ∧
      ∀ a ∈ keptPaths objects table,
        ∀ b ∈ instancePaths objects table,
          b ∉ collapseRuntimeInstances objects → pathNumber a < pathNumber b := by
  have hnodup' : (keptPaths objects table).Nodup := (hnodup.filter _).filter _
  rcases h with hle | ⟨hfits, hcut⟩
  · constructor
    · rw [Nat.min_eq_left hle]
      refine ((perm_ext_iff_of_nodup hnodup' (hnodup.filter _)).mpr fun a => ?_).length_eq
      exact ⟨fun ha => (mem_kept.mp ha).1, kept_of_length_le hle⟩
    · intro a _ b hb hout
      exact absurd (mem_filter.mp (kept_of_length_le hle hb)).1 hout
  · have hnumbered : numberedPaths objects table = instancePaths objects table :=
      filter_eq_self.mpr hfits
    have hkept (a : String) : a ∈ keptPaths objects table ↔ a ∈ lowestPaths objects table := by
      refine ⟨fun ha => ?_, fun ha => lowestPaths_kept ha⟩
      obtain ⟨hmem, hnone | ⟨b, hb, heq⟩⟩ := mem_kept.mp ha
      · exact absurd (hfits a hmem) (by simp [hnone])
      · exact hcut b hb a hmem heq
    constructor
    · rw [((perm_ext_iff_of_nodup hnodup' (nodup_lowestPaths hnodup)).mpr hkept).length_eq,
        length_lowestPaths, hnumbered, Nat.min_comm]
    · intro a ha b hb hout
      have hout' : b ∉ lowestPaths objects table := fun hb' =>
        hout (mem_filter.mp ((hkept b).mpr hb')).1
      have hlow := (hkept a).mp ha
      refine Nat.lt_of_le_of_ne (limitBy_le hlow (hnumbered ▸ hb) hout') fun heq => ?_
      exact hout' (hcut a hlow b hb heq)

/-- A table that keeps no more than it may cuts cleanly. -/
theorem cutsCleanly_of_length (hnodup : objects.Nodup)
    (h : (keptPaths objects table).length
      = min (instancePaths objects table).length (instanceLimit table)) :
    CutsCleanly objects table := by
  rcases Nat.lt_or_ge (instanceLimit table) (instancePaths objects table).length with hover | hle
  swap
  · exact .inl hle
  rw [Nat.min_eq_right (le_of_lt hover)] at h
  have hfits : ∀ path ∈ instancePaths objects table, (instanceNumber path).isSome := by
    -- Paths without a number are all kept, besides as many others as the table may keep.
    let others := (instancePaths objects table).filter fun path => !(instanceNumber path).isSome
    have hdisjoint : (others ++ lowestPaths objects table).Nodup := by
      refine nodup_append'.mpr ⟨(hnodup.filter _).filter _, nodup_lowestPaths hnodup, ?_⟩
      intro a ha ha'
      have hsome := (mem_filter.mp (mem_of_mem_limitBy ha')).2
      have hnone := (mem_filter.mp ha).2
      simp [hsome] at hnone
    have hsub : others ++ lowestPaths objects table ⊆ keptPaths objects table := by
      refine append_subset.mpr ⟨fun a ha => mem_kept.mpr ?_, lowestPaths_kept⟩
      obtain ⟨hmem, hnone⟩ := mem_filter.mp ha
      exact ⟨hmem, .inl (by simpa using hnone)⟩
    have hlength := (subperm_of_subset hdisjoint hsub).length_le
    have hparts : (instancePaths objects table).length =
        (numberedPaths objects table).length + others.length :=
      length_eq_length_filter_add _
    rw [length_append, length_lowestPaths] at hlength
    have hnone : others = [] := by
      rw [← length_eq_zero_iff]
      omega
    simpa [others, filter_eq_nil_iff, Option.isSome_iff_ne_none] using hnone
  refine .inr ⟨hfits, fun a ha b hb heq => ?_⟩
  by_contra hout
  -- The path left out has an allowed number, so that it is kept as well.
  have hsub : b :: lowestPaths objects table ⊆ keptPaths objects table :=
    cons_subset.mpr ⟨mem_kept.mpr ⟨hb, .inr ⟨a, ha, heq⟩⟩, lowestPaths_kept⟩
  have hlength := (subperm_of_subset (nodup_cons.mpr ⟨hout, nodup_lowestPaths hnodup⟩) hsub).length_le
  have hfull : (lowestPaths objects table).length = instanceLimit table :=
    limitBy_full (mem_filter.mpr ⟨hb, hfits b hb⟩) hout
  rw [length_cons] at hlength
  omega

end Numbered

/-- The walk descends into every object that is no instance, and into the lowest-numbered
instances of each table, exactly if all tables cut cleanly. -/
theorem collapseRuntimeInstances_lowest_iff {objects : List String} (hnodup : objects.Nodup) :
    (collapseRuntimeInstances objects <+ objects ∧
      (∀ path ∈ objects, instanceObject path = none → path ∈ collapseRuntimeInstances objects) ∧
      ∀ table, (instancePaths (collapseRuntimeInstances objects) table).length
          = min (instancePaths objects table).length (instanceLimit table) ∧
        ∀ a ∈ instancePaths (collapseRuntimeInstances objects) table,
          ∀ b ∈ instancePaths objects table,
            b ∉ collapseRuntimeInstances objects → pathNumber a < pathNumber b) ↔
      ∀ table, CutsCleanly objects table := by
  refine ⟨fun h table => cutsCleanly_of_length hnodup (h.2.2 table).1, fun h =>
    ⟨filter_sublist, fun path hpath hnone => ?_, fun table => (h table).lowest hnodup⟩⟩
  simp [collapseRuntimeInstances, hpath, instanceNumber, hnone]

theorem collapseRuntimeInstances_lowest_iff_zero :
    ¬ ∀ table, CutsCleanly ["Device.Hosts.Host.01.", "Device.Hosts.Host.1."] table := by
  rw [← collapseRuntimeInstances_lowest_iff (by decide)]
  intro h
  exact absurd (h.2.2 "Device.Hosts.Host.").1 (by decide +kernel)

/-- Two paths with one number are both kept, of a table that should keep one. -/
theorem collapseRuntimeInstances_leading_zero :
    let objects := ["Device.Hosts.Host.01.", "Device.Hosts.Host.1."]
    objects.Pairwise (· < ·) ∧
      (instancePaths (collapseRuntimeInstances objects) "Device.Hosts.Host.").length
        ≠ min (instancePaths objects "Device.Hosts.Host.").length
          (instanceLimit "Device.Hosts.Host.") := by
  decide +kernel

end Acs
