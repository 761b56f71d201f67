/-
A pass of the subscription reconciler converges.

The fingerprint of a row can be taken apart again, and two fingerprints with one NotifType
agree only in what they were made of.  With distinct ids on both sides, what is removed is what
is not desired and what is added is what is not there (`diff_eq`), so the agent is left with
the instances that were desired already and a new one for every other row.

The agent's ids need not be distinct, and `Enable` is not in the fingerprint: see `Regular`.
-/
import Acs.Lib.Keyed
import Acs.Uspc.Subscriptions

namespace Acs.Uspc

open List ResolvedPathResult Message

/-! ### Fingerprints -/

theorem join_splitReferenceList (s : String) : joinReferenceList (splitReferenceList s) = s := by
  unfold splitReferenceList
  split
  next hempty =>
    rw [hempty]
    rfl
  next => exact Text.join_split s ','

theorem bar_notMem_formatBool (b : Bool) : '|' ∉ (formatBool b).toList := by
  cases b <;> decide

theorem bar_notMem_text (n : NotifType) : '|' ∉ n.text.toList := by
  cases n <;> decide

theorem parseBool_formatBool (b : Bool) : parseBool (formatBool b) = some b := by
  cases b <;> decide

theorem cut_fingerprint {n : String} (hn : '|' ∉ n.toList) (b : Bool) (refs : List String) :
    Text.cut (subscriptionFingerprint n b refs) '|' =
      (n, formatBool b ++ "|" ++ joinReferenceList refs) := by
  have hshape : subscriptionFingerprint n b refs =
      n ++ String.singleton '|' ++ (formatBool b ++ "|" ++ joinReferenceList refs) := by
    simp [subscriptionFingerprint, String.append_assoc]
  rw [hshape, Text.cut_append hn]

theorem cut_persistent (b : Bool) (rest : String) :
    Text.cut (formatBool b ++ "|" ++ rest) '|' = (formatBool b, rest) :=
  Text.cut_append (bar_notMem_formatBool b)

theorem splitFingerprint_fingerprint {n : String} (hn : '|' ∉ n.toList) (b : Bool)
    (refs : List String) : splitFingerprint (subscriptionFingerprint n b refs) =
      (n, b, splitReferenceList (joinReferenceList refs)) := by
  simp only [splitFingerprint, cut_fingerprint hn, cut_persistent, parseBool_formatBool,
    Option.getD_some]

theorem fingerprint_injective {n n' : String} {b b' : Bool} {refs refs' : List String}
    (hn : '|' ∉ n.toList) (hn' : '|' ∉ n'.toList)
    (h : subscriptionFingerprint n b refs = subscriptionFingerprint n' b' refs') :
    n = n' ∧ b = b' ∧ joinReferenceList refs = joinReferenceList refs' := by
  have hfirst := cut_fingerprint hn b refs
  rw [h, cut_fingerprint hn'] at hfirst
  obtain ⟨hname, hrest⟩ := Prod.mk.inj hfirst
  have hsecond := cut_persistent b (joinReferenceList refs)
  rw [← hrest, cut_persistent] at hsecond
  obtain ⟨hbool, hrefs⟩ := Prod.mk.inj hsecond
  refine ⟨hname.symm, ?_, hrefs.symm⟩
  have hparse := congrArg parseBool hbool
  rw [parseBool_formatBool, parseBool_formatBool] at hparse
  exact (Option.some.inj hparse).symm

/-! ### The agent -/

/-- The subscriptions of an agent. -/
abbrev AgentTable := List ResolvedPathResult

/-- The answer is about the instances of the table, in any order, and without errors. -/
structure GetResp.Describes (resp : GetResp) (table : AgentTable) : Prop where
  noError : ∀ r ∈ resp.reqPathResults, r.errCode = 0
  resolved : resp.resolved.Perm table

/-- An agent does what a message says; it chooses the path of a new instance. -/
def applyMessage (newPath : AgentTable → String) (table : AgentTable) :
    Message → AgentTable
  | .get .. => table
  | .delete path => table.filter (·.resolvedPath ≠ path)
  | .add _ params => table ++ [⟨newPath table, params⟩]

/-- The table after a pass whose read was answered by `resp`. -/
def afterPass (isUUID : String → Bool) (newPath : AgentTable → String)
    (rows : List Subscription) (resp : GetResp) (table : AgentTable) :
    AgentTable :=
  (readMessages isUUID (rows.map (·.item)) resp).foldl (fun t m => applyMessage newPath t m.2) table

def ResolvedPathResult.enabled (r : ResolvedPathResult) : Bool :=
  parseBool (r.param "Enable") = some true

/-- The instance is what the row asks for. -/
structure ResolvedPathResult.Realizes (r : ResolvedPathResult) (sub : Subscription) : Prop where
  id : r.param "ID" = sub.id
  enabled : r.enabled
  notifType : r.param "NotifType" = sub.notifType.text
  persistent : (parseBool (r.param "Persistent")).getD false = sub.persistent
  referenceList : r.param "ReferenceList" = joinReferenceList sub.referenceList

/-- The agent's instances with UUIDs have distinct ids, and those that agree with their rows in
the fingerprint are enabled and have the NotifType of the row. -/
structure Regular (isUUID : String → Bool) (rows : List Subscription)
    (table : AgentTable) : Prop where
  ids : ((table.filter fun r => isUUID (r.param "ID")).map (·.param "ID")).Nodup
  agree : ∀ r ∈ table, ∀ sub ∈ rows, r.item = sub.item →
    r.enabled ∧ r.param "NotifType" = sub.notifType.text

/-! ### Differences -/

section Diff

variable {items desired actual : List Item}

theorem byKey_of_mem (hkeys : (items.map (·.key)).Nodup) {a : Item} (h : a ∈ items) :
    byKey items a.key = some a := by
  refine Keyed.find_of_mem ?_ (mem_reverse.mpr h)
  rw [map_reverse]
  exact nodup_reverse.mpr hkeys

/-- An item differs from what the other side has under its key exactly if it is not there. -/
theorem byKey_differs_iff (hkeys : (items.map (·.key)).Nodup) (a : Item) :
    (byKey items a.key).all (·.fingerprint ≠ a.fingerprint) ↔ a ∉ items := by
  constructor
  · intro hdiffers hmem
    rw [byKey_of_mem hkeys hmem] at hdiffers
    simp at hdiffers
  · intro hnot
    cases hfind : byKey items a.key with
    | none => rfl
    | some b =>
      have hb : b ∈ items := mem_reverse.mp (mem_of_find?_eq_some hfind)
      have hkey : b.key = a.key := by simpa using find?_some hfind
      refine decide_eq_true fun hfp => hnot ?_
      have hba : b = a := by
        obtain ⟨k, f⟩ := a
        cases hkey
        cases hfp
        rfl
      exact hba ▸ hb

theorem diff_eq (hdesired : (desired.map (·.key)).Nodup) (hactual : (actual.map (·.key)).Nodup) :
    diff desired actual = (desired.filter (· ∉ actual), actual.filter (· ∉ desired)) := by
  have hadd : ∀ d, (byKey actual d.key).all (·.fingerprint ≠ d.fingerprint) =
      decide (d ∉ actual) := fun d => Bool.eq_iff_iff.mpr (by
    rw [byKey_differs_iff hactual, decide_eq_true_iff])
  have hremove : ∀ a, (byKey desired a.key).all (·.fingerprint ≠ a.fingerprint) =
      decide (a ∉ desired) := fun a => Bool.eq_iff_iff.mpr (by
    rw [byKey_differs_iff hdesired, decide_eq_true_iff])
  simp only [diff, hadd, hremove]

end Diff

/-! ### Messages -/

/-- The path recorded for an id is that of the last instance that has it. -/
theorem lookup_resolvedPaths (own : AgentTable) (id : String) :
    (own.foldl (fun m r => m.insert (r.param "ID") r.resolvedPath)
        (∅ : AList fun _ : String => String)).lookup id =
      (own.reverse.find? (·.param "ID" = id)).map (·.resolvedPath) := by
  rw [← reverse_reverse own, foldl_reverse, reverse_reverse]
  generalize own.reverse = l
  induction l with
  | nil => rfl
  | cons r l ih =>
    rw [foldr_cons, Assoc.lookup_insert_if, ih, find?_cons]
    by_cases hid : r.param "ID" = id
    · simp [hid]
    · simp [hid, Ne.symm hid]

theorem deletes_applied (newPath : AgentTable → String)
    (deletes : List (String × String)) : ∀ table : AgentTable,
    (deletes.map fun d => (d.1, delete d.2)).foldl (fun t m => applyMessage newPath t m.2)
      table = table.filter fun r => r.resolvedPath ∉ deletes.map (·.2) := by
  induction deletes with
  | nil => intro table; simp
  | cons d rest ih =>
    intro table
    rw [map_cons, foldl_cons, ih, applyMessage, filter_filter]
    refine filter_congr fun r _ => Bool.eq_iff_iff.mpr ?_
    rw [Bool.and_eq_true_iff, decide_eq_true_iff, decide_eq_true_iff, decide_eq_true_iff,
      map_cons, mem_cons, not_or, and_comm]

theorem adds_applied (newPath : AgentTable → String) (items : List Item) :
    ∀ table, ∃ new,
      new.map (·.resultParams) = items.map addParams ∧
      (items.map fun i => (i.key, add subscriptionRootPath (addParams i))).foldl
        (fun t m => applyMessage newPath t m.2) table = table ++ new := by
  induction items with
  | nil => intro table; exact ⟨[], rfl, by simp⟩
  | cons i rest ih =>
    intro table
    obtain ⟨new, hparams, hfold⟩ := ih (table ++ [⟨newPath table, addParams i⟩])
    refine ⟨⟨newPath table, addParams i⟩ :: new, by simp [hparams], ?_⟩
    show List.foldl _ (table ++ [⟨newPath table, addParams i⟩]) _ = _
    rw [hfold, append_assoc]
    rfl

section Add

variable {r : ResolvedPathResult} {sub : Subscription}

theorem param_addParams (h : r.resultParams = addParams sub.item) :
    r.param "ID" = sub.id ∧ r.param "Enable" = "true" ∧ r.param "NotifType" = sub.notifType.text ∧
      r.param "ReferenceList" = joinReferenceList sub.referenceList ∧
      r.param "Persistent" = formatBool sub.persistent := by
  have hsplit : splitFingerprint sub.item.fingerprint =
      (sub.notifType.text, sub.persistent, splitReferenceList (joinReferenceList sub.referenceList)) :=
    splitFingerprint_fingerprint (bar_notMem_text _) _ _
  simp only [param, h, addParams, hsplit, join_splitReferenceList,
    Assoc.lookup_insert_if]
  simp [Subscription.item]

theorem realizes_of_params (h : r.resultParams = addParams sub.item) : r.Realizes sub := by
  obtain ⟨hid, henable, hnotif, hrefs, hpersistent⟩ := param_addParams h
  refine ⟨hid, ?_, hnotif, ?_, hrefs⟩
  · rw [enabled, henable]
    decide
  · rw [hpersistent, parseBool_formatBool]
    rfl

theorem item_of_realizes (h : r.Realizes sub) : r.item = sub.item := by
  have hrefs : joinReferenceList (splitReferenceList (r.param "ReferenceList")) =
      joinReferenceList sub.referenceList := by
    rw [join_splitReferenceList, h.referenceList]
  simp only [item, Subscription.item, h.id, h.notifType, h.persistent,
    subscriptionFingerprint, hrefs]

theorem realizes_of_item (h : r.item = sub.item) (henabled : r.enabled)
    (hnotif : r.param "NotifType" = sub.notifType.text) : r.Realizes sub := by
  obtain ⟨hid, hfp⟩ := Item.mk.inj h
  have hbar : '|' ∉ (r.param "NotifType").toList := hnotif ▸ bar_notMem_text _
  obtain ⟨-, hpersistent, hrefs⟩ := fingerprint_injective hbar (bar_notMem_text _) hfp
  rw [join_splitReferenceList] at hrefs
  exact ⟨hid, henabled, hnotif, hpersistent, hrefs⟩

end Add

/-! ### A pass -/

section Pass

variable {isUUID : String → Bool} {rows : List Subscription} {resp : GetResp}
variable {table : AgentTable}

theorem keys_desired (hrows : (rows.map (·.id)).Nodup) :
    ((rows.map (·.item)).map (·.key)).Nodup := by
  rw [map_map]
  exact hrows

theorem owned_perm (h : resp.Describes table) :
    (resp.owned isUUID).Perm (table.filter fun r => isUUID (r.param "ID")) :=
  h.resolved.filter _

theorem mem_owned_iff (h : resp.Describes table) {r : ResolvedPathResult} :
    r ∈ resp.owned isUUID ↔ r ∈ table ∧ isUUID (r.param "ID") := by
  rw [(owned_perm h).mem_iff, mem_filter]

/-- The ids and paths of what a pass deletes. -/
def deletions (isUUID : String → Bool) (desired : List Item) (resp : GetResp) :
    List (String × String) :=
  (diff desired ((resp.owned isUUID).map (·.item))).2.filterMap fun item =>
    ((resp.owned isUUID).reverse.find? (·.param "ID" = item.key)).map fun r =>
      (item.key, r.resolvedPath)

theorem readMessages_of_describes (h : resp.Describes table) (desired : List Item) :
    readMessages isUUID desired resp =
      ((deletions isUUID desired resp).map fun d => (d.1, delete d.2)) ++
        (diff desired ((resp.owned isUUID).map (·.item))).1.map fun i =>
          (i.key, add subscriptionRootPath (addParams i)) := by
  have hnone : resp.reqPathResults.any (·.errCode ≠ 0) = false := by
    rw [any_eq_false]
    intro r hr
    simp [h.noError r hr]
  rw [readMessages, hnone]
  simp only [Bool.false_eq_true, if_false, actualSubscriptionItems, lookup_resolvedPaths,
    Option.map_map, deletions, map_filterMap, Function.comp_def]

/-- What a pass leaves of the table. -/
def leftOver (isUUID : String → Bool) (rows : List Subscription) (resp : GetResp)
    (table : AgentTable) : AgentTable :=
  table.filter fun r => r.resolvedPath ∉ (deletions isUUID (rows.map (·.item)) resp).map (·.2)

theorem afterPass_eq (newPath : AgentTable → String) (h : resp.Describes table) :
    ∃ new : AgentTable,
      new.map (·.resultParams) =
        (diff (rows.map (·.item)) ((resp.owned isUUID).map (·.item))).1.map addParams ∧
      afterPass isUUID newPath rows resp table = leftOver isUUID rows resp table ++ new := by
  obtain ⟨new, hparams, hfold⟩ := adds_applied newPath
    (diff (rows.map (·.item)) ((resp.owned isUUID).map (·.item))).1
    (leftOver isUUID rows resp table)
  refine ⟨new, hparams, ?_⟩
  rw [afterPass, readMessages_of_describes h, foldl_append, deletes_applied]
  exact hfold

section Distinct

variable (hrows : (rows.map (·.id)).Nodup) (h : resp.Describes table)
  (hids : ((table.filter fun r => isUUID (r.param "ID")).map (·.param "ID")).Nodup)

include hrows h hids

theorem diff_owned : diff (rows.map (·.item)) ((resp.owned isUUID).map (·.item)) =
    ((rows.map (·.item)).filter (· ∉ (resp.owned isUUID).map (·.item)),
      ((resp.owned isUUID).map (·.item)).filter (· ∉ rows.map (·.item))) := by
  refine diff_eq (keys_desired hrows) ?_
  rw [map_map]
  exact ((owned_perm h).map _).nodup_iff.mpr hids

theorem deletions_eq : deletions isUUID (rows.map (·.item)) resp =
    ((resp.owned isUUID).filter (·.item ∉ rows.map (·.item))).map fun r =>
      (r.param "ID", r.resolvedPath) := by
  rw [deletions, diff_owned hrows h hids]
  dsimp only
  rw [filter_map, filterMap_map]
  refine filterMap_eq_map_iff_forall_eq_some.mpr fun r hr => ?_
  have hlast : (resp.owned isUUID).reverse.find? (·.param "ID" = r.param "ID") = some r := by
    refine Keyed.find_of_mem ?_ (mem_reverse.mpr (mem_filter.mp hr).1)
    rw [map_reverse]
    exact nodup_reverse.mpr (((owned_perm h).map _).nodup_iff.mpr hids)
  exact congrArg (Option.map fun r' : ResolvedPathResult => (r.param "ID", r'.resolvedPath)) hlast

end Distinct

/-- The agent is left with what was not to be changed, and with a new instance for each row
that was missing. -/
theorem messages_applied (newPath : AgentTable → String)
    (hrows : (rows.map (·.id)).Nodup) (h : resp.Describes table)
    (hpaths : (table.map (·.resolvedPath)).Nodup)
    (hids : ((table.filter fun r => isUUID (r.param "ID")).map (·.param "ID")).Nodup) :
    ∃ new : AgentTable,
      new.map (·.resultParams) =
        ((rows.map (·.item)).filter (· ∉ (resp.owned isUUID).map (·.item))).map addParams ∧
      afterPass isUUID newPath rows resp table =
        (table.filter fun r => !isUUID (r.param "ID") || r.item ∈ rows.map (·.item)) ++ new := by
  obtain ⟨new, hparams, hafter⟩ := afterPass_eq newPath h
  rw [diff_owned hrows h hids] at hparams
  refine ⟨new, hparams, hafter.trans ?_⟩
  rw [leftOver, deletions_eq hrows h hids]
  congr 1
  -- a path is deleted for the instance that has it
  refine filter_congr fun r hr => Bool.eq_iff_iff.mpr ?_
  rw [decide_eq_true_iff, map_map, Bool.or_eq_true_iff, Bool.not_eq_true_eq_eq_false,
    decide_eq_true_iff]
  constructor
  · intro hnot
    by_cases huuid : isUUID (r.param "ID")
    · refine .inr (Classical.byContradiction fun hitem => hnot ?_)
      refine mem_map.mpr ⟨r, mem_filter.mpr ⟨(mem_owned_iff h).mpr ⟨hr, huuid⟩, ?_⟩, rfl⟩
      exact decide_eq_true hitem
    · exact .inl (Bool.eq_false_iff.mpr huuid)
  · intro hkeep hmem
    obtain ⟨r', hr', hpath⟩ := mem_map.mp hmem
    obtain ⟨hown, hitem⟩ := mem_filter.mp hr'
    obtain ⟨htable, huuid⟩ := (mem_owned_iff h).mp hown
    obtain rfl : r' = r := inj_on_of_nodup_map hpaths htable hr hpath
    rcases hkeep with hkeep | hkeep
    · rw [huuid] at hkeep
      nomatch hkeep
    · exact of_decide_eq_true hitem hkeep

/-- The agent's instances with UUIDs are the desired ones. -/
structure Converged (isUUID : String → Bool) (rows : List Subscription)
    (table : AgentTable) : Prop where
  ids : ((table.filter fun r => isUUID (r.param "ID")).map (·.param "ID")).Nodup
  desired : ∀ r ∈ table, isUUID (r.param "ID") → ∃ sub ∈ rows, r.Realizes sub
  realized : ∀ sub ∈ rows, ∃ r ∈ table, r.Realizes sub

/-- A pass over a table that has converged sends nothing. -/
theorem Converged.readMessages_eq_nil (hrows : (rows.map (·.id)).Nodup)
    (huuid : ∀ sub ∈ rows, isUUID sub.id) (hconv : Converged isUUID rows table)
    (h : resp.Describes table) : readMessages isUUID (rows.map (·.item)) resp = [] := by
  have hdelete : (resp.owned isUUID).filter (·.item ∉ rows.map (·.item)) = [] := by
    refine filter_eq_nil_iff.mpr fun r hr => ?_
    obtain ⟨hmem, hr⟩ := (mem_owned_iff h).mp hr
    obtain ⟨sub, hsub, hrealizes⟩ := hconv.desired r hmem hr
    have hitem : r.item ∈ rows.map (·.item) :=
      item_of_realizes hrealizes ▸ mem_map_of_mem hsub
    exact fun hnot => of_decide_eq_true hnot hitem
  have hadd : (rows.map (·.item)).filter (· ∉ (resp.owned isUUID).map (·.item)) = [] := by
    refine filter_eq_nil_iff.mpr fun i hi => ?_
    obtain ⟨sub, hsub, rfl⟩ := mem_map.mp hi
    obtain ⟨r, hr, hrealizes⟩ := hconv.realized sub hsub
    have hown : r ∈ resp.owned isUUID :=
      (mem_owned_iff h).mpr ⟨hr, hrealizes.id ▸ huuid sub hsub⟩
    have hitem : sub.item ∈ (resp.owned isUUID).map (·.item) :=
      item_of_realizes hrealizes ▸ mem_map_of_mem hown
    exact fun hnot => of_decide_eq_true hnot hitem
  rw [readMessages_of_describes h, deletions_eq hrows h hconv.ids, diff_owned hrows h hconv.ids,
    hdelete, hadd]
  rfl

theorem Converged.filter_eq (huuid : ∀ sub ∈ rows, isUUID sub.id)
    (hconv : Converged isUUID rows table) {sub : Subscription} (hsub : sub ∈ rows) :
    ∃ r, table.filter (·.param "ID" = sub.id) = [r] ∧ r.Realizes sub := by
  obtain ⟨r, hr, hrealizes⟩ := hconv.realized sub hsub
  have howned : r ∈ table.filter fun r => isUUID (r.param "ID") :=
    mem_filter.mpr ⟨hr, hrealizes.id ▸ huuid sub hsub⟩
  have hone := Keyed.filter_of_mem hconv.ids howned
  rw [hrealizes.id, filter_filter] at hone
  refine ⟨r, Eq.trans ?_ hone, hrealizes⟩
  refine filter_congr fun r' _ => Bool.eq_iff_iff.mpr ?_
  rw [Bool.and_eq_true_iff, decide_eq_true_iff]
  exact ⟨fun hid => ⟨hid, hid ▸ huuid sub hsub⟩, (·.1)⟩

section

variable {new : AgentTable} {missing : List Item}
  (hmissing : ∀ i ∈ missing, i ∈ rows.map (·.item))
  (hparams : new.map (·.resultParams) = missing.map addParams)

include hmissing hparams

theorem mem_new {r : ResolvedPathResult} (hr : r ∈ new) : ∃ sub ∈ rows, r.Realizes sub := by
  have hmem : r.resultParams ∈ missing.map addParams := hparams ▸ mem_map_of_mem hr
  obtain ⟨i, hi, hadd⟩ := mem_map.mp hmem
  obtain ⟨sub, hsub, rfl⟩ := mem_map.mp (hmissing i hi)
  exact ⟨sub, hsub, realizes_of_params hadd.symm⟩

theorem new_ids : new.map (·.param "ID") = missing.map (·.key) := by
  have hid : new.map (·.param "ID") =
      (new.map (·.resultParams)).map fun params => (params.lookup "ID").getD "" := by
    rw [map_map]
    rfl
  rw [hid, hparams, map_map]
  refine map_congr_left fun i hi => ?_
  obtain ⟨sub, -, rfl⟩ := mem_map.mp (hmissing i hi)
  exact (param_addParams (r := ⟨"", addParams sub.item⟩) rfl).1

end

theorem converged_afterPass (newPath : AgentTable → String)
    (hrows : (rows.map (·.id)).Nodup) (huuid : ∀ sub ∈ rows, isUUID sub.id)
    (hpaths : (table.map (·.resolvedPath)).Nodup) (h : resp.Describes table)
    (hregular : Regular isUUID rows table) :
    Converged isUUID rows (afterPass isUUID newPath rows resp table) ∧
      (afterPass isUUID newPath rows resp table).filter (fun r => !isUUID (r.param "ID")) =
        table.filter fun r => !isUUID (r.param "ID") := by
  obtain ⟨new, hparams, hafter⟩ := messages_applied newPath hrows h hpaths hregular.ids
  have hmissing : ∀ i ∈ (rows.map (·.item)).filter (· ∉ (resp.owned isUUID).map (·.item)),
      i ∈ rows.map (·.item) := fun i hi => (mem_filter.mp hi).1
  have hnew : ∀ r ∈ new, isUUID (r.param "ID") := by
    intro r hr
    obtain ⟨sub, hsub, hrealizes⟩ := mem_new hmissing hparams hr
    exact hrealizes.id ▸ huuid sub hsub
  have hkept : ∀ r ∈ table, ∀ sub ∈ rows, r.item = sub.item → isUUID (r.param "ID") →
      r.Realizes sub := by
    intro r hr sub hsub hitem hid
    obtain ⟨henabled, hnotif⟩ := hregular.agree r hr sub hsub hitem
    exact realizes_of_item hitem henabled hnotif
  rw [hafter]
  refine ⟨⟨?_, ?_, ?_⟩, ?_⟩
  · rw [filter_append, map_append, filter_eq_self.mpr hnew,
      new_ids hmissing hparams, nodup_append']
    refine ⟨hregular.ids.sublist ((filter_sublist.filter _).map _),
      (keys_desired hrows).sublist (filter_sublist.map _), ?_⟩
    -- a kept instance is of a row that was not missing
    intro k hk hk'
    obtain ⟨r, hr, rfl⟩ := mem_map.mp hk
    obtain ⟨i, hi, hkey⟩ := mem_map.mp hk'
    obtain ⟨hr, hid⟩ := mem_filter.mp hr
    obtain ⟨htable, hkeep⟩ := mem_filter.mp hr
    obtain ⟨hdesired, hmiss⟩ := mem_filter.mp hi
    have hitem : r.item ∈ rows.map (·.item) := by simpa [hid] using hkeep
    have hsame : i = r.item :=
      inj_on_of_nodup_map (keys_desired hrows) hdesired hitem hkey
    have hown : r.item ∈ (resp.owned isUUID).map (·.item) :=
      mem_map_of_mem ((mem_owned_iff h).mpr ⟨htable, hid⟩)
    exact of_decide_eq_true hmiss (hsame ▸ hown)
  · intro r hr hid
    rcases mem_append.mp hr with hr | hr
    · obtain ⟨htable, hkeep⟩ := mem_filter.mp hr
      have hitem : r.item ∈ rows.map (·.item) := by simpa [hid] using hkeep
      obtain ⟨sub, hsub, hsame⟩ := mem_map.mp hitem
      exact ⟨sub, hsub, hkept r htable sub hsub hsame.symm hid⟩
    · exact mem_new hmissing hparams hr
  · intro sub hsub
    by_cases hthere : sub.item ∈ (resp.owned isUUID).map (·.item)
    · obtain ⟨r, hown, hitem⟩ := mem_map.mp hthere
      obtain ⟨htable, hid⟩ := (mem_owned_iff h).mp hown
      have hdesired : r.item ∈ rows.map (·.item) := hitem ▸ mem_map_of_mem hsub
      exact ⟨r, mem_append_left _ (mem_filter.mpr ⟨htable, by simp [hdesired]⟩),
        hkept r htable sub hsub hitem hid⟩
    · have hmem : addParams sub.item ∈ new.map (·.resultParams) := by
        rw [hparams]
        exact mem_map_of_mem (mem_filter.mpr
          ⟨mem_map_of_mem hsub, decide_eq_true hthere⟩)
      obtain ⟨r, hr, hresult⟩ := mem_map.mp hmem
      exact ⟨r, mem_append_right _ hr, realizes_of_params hresult⟩
  · have hnone : new.filter (fun r => !isUUID (r.param "ID")) = [] := by
      refine filter_eq_nil_iff.mpr fun r hr => ?_
      simp [hnew r hr]
    rw [filter_append, hnone, append_nil, filter_filter]
    refine filter_congr fun r _ => ?_
    cases isUUID (r.param "ID") <;> simp

/-- Only the last instance of an id is deleted. -/
theorem last_of_deleted (hpaths : (table.map (·.resolvedPath)).Nodup) (h : resp.Describes table)
    {r : ResolvedPathResult} (hr : r ∈ table)
    (hpath : r.resolvedPath ∈ (deletions isUUID (rows.map (·.item)) resp).map (·.2)) :
    ∃ i ∈ (diff (rows.map (·.item)) ((resp.owned isUUID).map (·.item))).2, i.key = r.param "ID" ∧
      (resp.owned isUUID).reverse.find? (·.param "ID" = r.param "ID") = some r := by
  obtain ⟨d, hd, hdr⟩ := mem_map.mp hpath
  obtain ⟨i, hi, hmap⟩ := mem_filterMap.mp hd
  obtain ⟨y, hy, rfl⟩ := Option.map_eq_some_iff.mp hmap
  have hyTable := ((mem_owned_iff h).mp (mem_reverse.mp (mem_of_find?_eq_some hy))).1
  obtain rfl : y = r := inj_on_of_nodup_map hpaths hyTable hr hdr
  have hkey : y.param "ID" = i.key := by simpa using find?_some hy
  exact ⟨i, hi, hkey.symm, hkey ▸ hy⟩

/-- A row is added if the last instance of its id is not desired. -/
theorem added_of_last {sub : Subscription} (hsub : sub ∈ rows) {last : ResolvedPathResult}
    (hlast : (resp.owned isUUID).reverse.find? (·.param "ID" = sub.id) = some last)
    (hdiffers : last.item ∉ rows.map (·.item)) :
    sub.item ∈ (diff (rows.map (·.item)) ((resp.owned isUUID).map (·.item))).1 := by
  refine mem_filter.mpr ⟨mem_map_of_mem hsub, ?_⟩
  have hbyKey : byKey ((resp.owned isUUID).map (·.item)) sub.item.key = some last.item := by
    rw [byKey, ← map_reverse, find?_map]
    exact congrArg (Option.map (·.item)) hlast
  rw [hbyKey]
  refine decide_eq_true fun hfp => hdiffers ?_
  have hid : last.param "ID" = sub.id := by simpa using find?_some hlast
  have hsame : last.item = sub.item := by
    rw [Item.mk.injEq]
    exact ⟨hid, hfp⟩
  exact hsame ▸ mem_map_of_mem hsub

/-- **Ids are distinct where a pass converges.**  Of two instances of one id only the last can
be deleted.  If it is, and the other one is what is desired, the last one is not, so that a
third one is added. -/
theorem ids_of_converged {newPath : AgentTable → String}
    (hrows : (rows.map (·.id)).Nodup) (hpaths : (table.map (·.resolvedPath)).Nodup)
    (h : resp.Describes table)
    (hone : ∀ sub ∈ rows, ∃ r, (afterPass isUUID newPath rows resp table).filter
      (·.param "ID" = sub.id) = [r] ∧ r.Realizes sub)
    (hdesired : ∀ r ∈ afterPass isUUID newPath rows resp table, isUUID (r.param "ID") →
      ∃ sub ∈ rows, r.Realizes sub) :
    ((table.filter fun r => isUUID (r.param "ID")).map (·.param "ID")).Nodup := by
  obtain ⟨new, hparams, hafter⟩ := afterPass_eq newPath h
  rw [hafter] at hone hdesired
  refine (nodup_map_iff_inj_on (hpaths.of_map.filter _)).mpr fun r₁ h₁ r₂ h₂ heq => ?_
  by_contra hne
  -- The last instance of the id, and another one.
  obtain ⟨last, hlast⟩ : ∃ last, (resp.owned isUUID).reverse.find?
      (·.param "ID" = r₁.param "ID") = some last := by
    refine Option.isSome_iff_exists.mp (find?_isSome.mpr ⟨r₁, ?_, by simp⟩)
    exact mem_reverse.mpr ((owned_perm h).symm.subset h₁)
  have hlastID : last.param "ID" = r₁.param "ID" := by simpa using find?_some hlast
  obtain ⟨r, hr, hid, hother⟩ : ∃ r ∈ table.filter fun r => isUUID (r.param "ID"),
      r.param "ID" = r₁.param "ID" ∧ r ≠ last := by
    by_cases h1 : r₁ = last
    · exact ⟨r₂, h₂, heq.symm, fun h2 => hne (h1.trans h2.symm)⟩
    · exact ⟨r₁, h₁, rfl, h1⟩
  have hkept : ∀ x ∈ table, x.param "ID" = r₁.param "ID" → x ≠ last →
      x ∈ leftOver isUUID rows resp table := by
    refine fun x hx hid hx' => mem_filter.mpr ⟨hx, decide_eq_true fun hpath => hx' ?_⟩
    obtain ⟨-, -, -, hfind⟩ := last_of_deleted hpaths h hx hpath
    rw [hid, hlast] at hfind
    exact (Option.some.inj hfind).symm
  obtain ⟨hrTable, hrUUID⟩ := mem_filter.mp hr
  have hrKept := hkept r hrTable hid hother
  obtain ⟨sub, hsub, hrealizes⟩ := hdesired r (mem_append_left _ hrKept) hrUUID
  obtain ⟨only, honly, -⟩ := hone sub hsub
  have hunique : ∀ x ∈ leftOver isUUID rows resp table, x.param "ID" = sub.id → x = r := by
    intro x hx hxid
    have hmem (y) (hy : y ∈ leftOver isUUID rows resp table) (hid : y.param "ID" = sub.id) : y = only :=
      mem_singleton.mp (honly ▸ mem_filter.mpr ⟨mem_append_left new hy, decide_eq_true hid⟩)
    rw [hmem x hx hxid, hmem r hrKept hrealizes.id]
  have hsubID : sub.id = r₁.param "ID" := hrealizes.id.symm.trans hid
  have hlastTable : last ∈ table :=
    ((mem_owned_iff h).mp (mem_reverse.mp (mem_of_find?_eq_some hlast))).1
  -- The last one is gone, so it was deleted for an item that is not desired.
  have hgone : last.resolvedPath ∈ (deletions isUUID (rows.map (·.item)) resp).map (·.2) := by
    by_contra hstays
    exact hother (hunique last (mem_filter.mpr ⟨hlastTable, decide_eq_true hstays⟩)
      (hlastID.trans hsubID.symm)).symm
  obtain ⟨i, hi, hikey, -⟩ := last_of_deleted hpaths h hlastTable hgone
  obtain ⟨hiActual, hidiffers⟩ := mem_filter.mp hi
  rw [byKey_differs_iff (keys_desired hrows)] at hidiffers
  obtain ⟨x, hx, rfl⟩ := mem_map.mp hiActual
  have hxID : x.param "ID" = r₁.param "ID" := hikey.trans hlastID
  obtain rfl : x = last := by
    by_contra hxlast
    have hxr := hunique x (hkept x ((mem_owned_iff h).mp hx).1 hxID hxlast) (hxID.trans hsubID.symm)
    rw [hxr, item_of_realizes hrealizes] at hidiffers
    exact hidiffers (mem_map_of_mem hsub)
  -- Then the row is added, besides the instance that has stayed.
  have hadded := added_of_last hsub (hsubID ▸ hlast) hidiffers
  obtain ⟨n, hn, hnparams⟩ := mem_map.mp (hparams ▸ mem_map_of_mem (f := addParams) hadded)
  have htwo := congrArg length honly
  rw [filter_append, length_append, length_singleton] at htwo
  have hleft : 0 < ((leftOver isUUID rows resp table).filter (·.param "ID" = sub.id)).length :=
    length_pos_of_mem (mem_filter.mpr ⟨hrKept, decide_eq_true hrealizes.id⟩)
  have hright : 0 < (new.filter (·.param "ID" = sub.id)).length :=
    length_pos_of_mem (mem_filter.mpr ⟨hn, decide_eq_true (realizes_of_params hnparams).id⟩)
  omega

end Pass

/-- After a pass there is one enabled instance for each desired row, with its NotifType,
Persistent and ReferenceList, and no other with a UUID, the instances with other ids are as they
were, and the next pass sends nothing, exactly if the agent's table is regular. -/
theorem subscriptions_converge_iff (isUUID : String → Bool)
    (newPath : AgentTable → String) (rows : List Subscription) (resp : GetResp)
    (table : AgentTable) (hrows : (rows.map (·.id)).Nodup)
    (huuid : ∀ sub ∈ rows, isUUID sub.id = true) (hpaths : (table.map (·.resolvedPath)).Nodup)
    (h : resp.Describes table) :
    let after := afterPass isUUID newPath rows resp table
    ((∀ sub ∈ rows, ∃ r, after.filter (·.param "ID" = sub.id) = [r] ∧ r.Realizes sub) ∧
      (∀ r ∈ after, isUUID (r.param "ID") = true → ∃ sub ∈ rows, r.Realizes sub) ∧
      after.filter (fun r => !isUUID (r.param "ID")) =
        table.filter (fun r => !isUUID (r.param "ID")) ∧
      ∀ resp' : GetResp, resp'.Describes after →
        readMessages isUUID (rows.map (·.item)) resp' = []) ↔
      Regular isUUID rows table := by
  constructor
  · rintro ⟨hone, hdesired, -, -⟩
    have hids := ids_of_converged hrows hpaths h hone hdesired
    refine ⟨hids, fun r hr sub hsub hitem => ?_⟩
    -- An instance that agrees with its row is left alone, so it is the one instance of the row.
    obtain ⟨new, -, hafter⟩ := messages_applied newPath hrows h hpaths hids
    obtain ⟨only, honly, hrealizes⟩ := hone sub hsub
    have hmem : r ∈ afterPass isUUID newPath rows resp table := by
      rw [hafter]
      refine mem_append_left _ (mem_filter.mpr ⟨hr, ?_⟩)
      simp [show r.item ∈ rows.map (·.item) from hitem ▸ mem_map_of_mem hsub]
    obtain rfl : r = only := mem_singleton.mp
      (honly ▸ mem_filter.mpr ⟨hmem, decide_eq_true (congrArg Item.key hitem)⟩)
    exact ⟨hrealizes.enabled, hrealizes.notifType⟩
  · intro hregular
    obtain ⟨hconv, hothers⟩ := converged_afterPass newPath hrows huuid hpaths h hregular
    exact ⟨fun sub hsub => hconv.filter_eq huuid hsub, hconv.desired, hothers,
      fun resp' h' => hconv.readMessages_eq_nil hrows huuid h'⟩

/-! ### Tables -/

def shortID (id : String) : Bool := id.toList.length = 2

def nextPath (table : AgentTable) : String :=
  if table.isEmpty then "p0" else "p9"

/-- An instance of a table. -/
def instanceOf (path id notifType refs enable : String) : ResolvedPathResult where
  resolvedPath := path
  resultParams := AList.insert "ID" id <| AList.insert "Enable" enable <|
    AList.insert "NotifType" notifType <| AList.insert "ReferenceList" refs <|
      AList.insert "Persistent" "false" ∅

def answer (table : AgentTable) : GetResp where
  reqPathResults := [{ resolvedPathResults := table }]

theorem answer_describes (table : AgentTable) : (answer table).Describes table where
  noError r hr := by
    rw [mem_singleton.mp hr]
  resolved := by
    rw [GetResp.resolved, answer, flatMap_singleton]

def wanted : List Subscription :=
  [{ id := "u1", notifType := .event, referenceList := ["Device.Boot!"] },
   { id := "u2", notifType := .valueChange, referenceList := ["Device.WiFi.", "Device.IP."] }]

/-- One instance is as it should be, one is stale, one is not wanted, and one is of another
controller. -/
def mixed : AgentTable :=
  [instanceOf "p1" "u1" "Event" "Device.Boot!" "true",
   instanceOf "p2" "u2" "ValueChange" "Device.WiFi." "true",
   instanceOf "p3" "u3" "Event" "Device.Boot!" "false",
   instanceOf "p4" "factory" "Event" "Device.Boot!" "true"]

/-- Two instances of one id; the last is as it should be. -/
def doubled : AgentTable :=
  [instanceOf "p1" "u1" "Event" "Device.Old!" "true",
   instanceOf "p2" "u1" "Event" "Device.Boot!" "true"]

def switchedOff : AgentTable :=
  [instanceOf "p1" "u1" "Event" "Device.Boot!" "false"]

theorem subscriptions_converge_iff_mixed :
    (afterPass shortID nextPath wanted (answer mixed) mixed).map
      (fun r => (r.resolvedPath, r.param "ID", r.param "ReferenceList")) =
      [("p1", "u1", "Device.Boot!"), ("p4", "factory", "Device.Boot!"),
        ("p9", "u2", "Device.WiFi.,Device.IP.")] ∧
    ∀ resp' : GetResp, resp'.Describes (afterPass shortID nextPath wanted (answer mixed) mixed) →
      readMessages shortID (wanted.map (·.item)) resp' = [] :=
  ⟨by decide +kernel, ((subscriptions_converge_iff shortID nextPath wanted (answer mixed) mixed
    (by decide +kernel) (by decide +kernel) (by decide +kernel) (answer_describes mixed)).mpr
    ⟨by decide +kernel, by decide +kernel⟩).2.2.2⟩

/-- The instance that is wanted is deleted and the stale one of its id left; one that is
switched off stays so. -/
theorem pass_diverges :
    (readMessages shortID ((wanted.take 1).map (·.item)) (answer doubled) =
        [("u1", .delete "p2")] ∧
      (afterPass shortID nextPath (wanted.take 1) (answer doubled) doubled).map
        (fun r => (r.param "ID", r.param "ReferenceList")) = [("u1", "Device.Old!")]) ∧
    (readMessages shortID ((wanted.take 1).map (·.item)) (answer switchedOff) = [] ∧
      (afterPass shortID nextPath (wanted.take 1) (answer switchedOff) switchedOff).map
        (fun r => (r.param "ID", r.enabled)) = [("u1", false)]) := by
  decide +kernel

end Acs.Uspc
