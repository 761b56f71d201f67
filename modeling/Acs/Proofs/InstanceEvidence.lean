/-
An accepted write has evidence for the instances it names.

`NormalizePath` takes every number without a leading zero for an instance, and
`RequireInstances` what `strconv.ParseUint` reads as 32 bits.  The two agree below
2^32 only: a larger number matches the template in the discovered names and is never
looked up.
-/
import Acs.Api.DataModel
import Acs.Api.Requests

namespace Acs

open List Text

/-! ### `internal/parameters/instances.go` -/

/-- A snapshot of a table. -/
structure InstanceEvidence where
  firmware : String
  instances : List String
  discoveredAt : Time

/-- A snapshot that counts: of this firmware, a day old at most, and not of the future. -/
def InstanceEvidence.current (firmware : String) (now : Time) (e : InstanceEvidence) : Bool :=
  e.firmware = firmware && now ≤ e.discoveredAt + seconds (24 * 3600) &&
    e.discoveredAt ≤ now + seconds 60

/-- The path up to and including the segment at `i`. -/
def instancePath (path : String) (i : Nat) : String :=
  join ((split path '.').take (i + 1)) "." ++ "."

/-- `RequireInstances`: the first instance without evidence. -/
def requireInstances (path firmware : String) (evidence : List InstanceEvidence) (now : Time) :
    Option String :=
  (split path '.').zipIdx.findSome? fun (part, i) =>
    if (parseUint10 part 32).isNone then none
    else if evidence.any fun e => e.current firmware now && instancePath path i ∈ e.instances then
      none
    else some ("instance " ++ instancePath path i ++
      " has no current evidence; run instance discovery")

/-! ### What the handler is told about the device -/

/-- What is known of a device. -/
structure DeviceModel where
  names : StringMap Bool
  firmware : String
  evidence : List InstanceEvidence

/-- The reads of `validateWritableParameters`, which asks for nothing else. -/
def DeviceModel.tells (k : DeviceModel) (now : Time) (fails : Bool) : ApiChoice where
  answer
    | .names _ => if fails then none else some (some k.names)
    | .instances _ name =>
      if fails then some "database error" else requireInstances name k.firmware k.evidence now
    | .device _ | .deviceScope | .memberDeviceIDs _ | .group _ | .cache _ => none
    | .cellularPaths _ => []

/-- The segments that `NormalizePath` replaces. -/
def numbered (part : String) : Bool :=
  part ≠ "" && part.toList.head? ≠ some '0' && part.toList.all isDigit

theorem normalizePath_eq (path : String) : normalizePath path =
    join ((split path '.').map fun part =>
      if numbered part then "\x7bi\x7d" else part) "." := by
  refine congrArg (join · ".") (map_congr_left fun part _ => ?_)
  have hempty : part = "" ↔ part.toList = [] := String.toList_eq_nil_iff.symm
  simp only [numbered, ne_eq, hempty]
  cases part.toList with
  | nil => rfl
  | cons c rest => simp [and_assoc]

/-- A current snapshot lists the instance that the segment at `i` stands for. -/
def DeviceModel.Covers (k : DeviceModel) (now : Time) (path : String) (i : Nat) : Prop :=
  ∃ e ∈ k.evidence, e.firmware = k.firmware ∧ now ≤ e.discoveredAt + seconds (24 * 3600) ∧
    instancePath path i ∈ e.instances

variable {k : DeviceModel} {now : Time} {path part : String}

theorem parseUint10_numbered (hpart : numbered part) (hsmall : decimal part < 2 ^ 32) :
    parseUint10 part 32 = some (decimal part) := by
  simp only [numbered, Bool.and_eq_true] at hpart
  have hdigits : digits part = some (decimal part) :=
    if_pos (by rw [hpart.1.1, hpart.2]; rfl)
  rw [parseUint10, hdigits]
  exact if_pos (decide_eq_true hsmall)

theorem covers_of_requireInstances {i : Nat} (hpart : (split path '.')[i]? = some part)
    (hnumber : numbered part) (hsmall : decimal part < 2 ^ 32)
    (h : requireInstances path k.firmware k.evidence now = none) : k.Covers now path i := by
  have hfound := findSome?_eq_none_iff.mp h _ (mk_mem_zipIdx_iff_getElem?.mpr hpart)
  have hparsed := parseUint10_numbered hnumber hsmall
  simp only [hparsed, Option.isNone_some, Bool.false_eq_true, if_false, ite_eq_left_iff,
    reduceCtorEq, imp_false, not_not, any_eq_true, Bool.and_eq_true, decide_eq_true_eq,
    InstanceEvidence.current] at hfound
  obtain ⟨e, he, ⟨⟨hfirmware, hage⟩, -⟩, hlisted⟩ := hfound
  exact ⟨e, he, hfirmware, hage, hlisted⟩

/-- What the answers to the reads say; `clock n` is the time of the `n`-th one. -/
def DeviceModel.Told (k : DeviceModel) (clock : Nat → Time) : (s : ApiStmt) → s.Res → Prop
  | .read (.names _), r => r = none ∨ r = some (some k.names)
  | .read (.instances _ name), r =>
    r = none → ∃ n, requireInstances name k.firmware k.evidence (clock n) = none
  | _, _ => True

variable {clock : Nat → Time}

theorem DeviceModel.told_exec (k : DeviceModel) (clock : Nat → Time) (fails : Nat → Bool)
    (s : ApiStmt) (n : Nat) (w : ApiWorld) :
    k.Told clock s (s.exec (k.tells (clock n) (fails n)) w).1 := by
  unfold DeviceModel.Told
  split
  · simp only [ApiStmt.exec, DeviceModel.tells]
    cases fails n
    · exact .inr rfl
    · exact .inl rfl
  · simp only [ApiStmt.exec, DeviceModel.tells]
    cases fails n
    · exact fun h => ⟨n, h⟩
    · nofun
  · trivial

theorem all_instances (deviceID : String) (names : List String) :
    (Prog.collect names fun n => ask (.instances deviceID n)).All (k.Told clock) (fun _ => True)
      fun errs => errs.findSome? id = none →
        ∀ n ∈ names, ∃ i, requireInstances n k.firmware k.evidence (clock i) = none := by
  induction names with
  | nil => nofun
  | cons name names ih =>
    refine Prog.all_ask trivial fun r hr =>
      ih.bind fun errs herrs h n hn => ?_
    rw [findSome?_eq_none_iff] at h
    rcases mem_cons.mp hn with rfl | hn
    · exact hr (h _ mem_cons_self)
    · refine herrs (findSome?_eq_none_iff.mpr ?_) n hn
      exact fun a ha => h a (mem_cons_of_mem _ ha)

/-- Every name of an accepted write that is not itself discovered was checked. -/
theorem checked_of_accepted (tables : ApiTables) (deviceID : String) (payload : SetParameterPayload)
    (fails : Nat → Bool) (w : ApiWorld)
    (haccepted : ((validateWritableParameters tables deviceID payload).run
      (fun s n => s.exec (k.tells (clock n) (fails n))) id w).1 = none) :
    ∀ name ∈ writeNames payload, k.names.lookup name = none →
      ∃ n, requireInstances name k.firmware k.evidence (clock n) = none := by
  have hall : (validateWritableParameters tables deviceID payload).All (k.Told clock)
      (fun _ => True) fun err => err = none → ∀ name ∈ writeNames payload,
        k.names.lookup name = none →
          ∃ i, requireInstances name k.firmware k.evidence (clock i) = none := by
    refine Prog.all_ask trivial fun r hr => ?_
    rcases hr with rfl | rfl
    · nofun
    · dsimp only
      split
      · nofun
      · refine (all_instances deviceID _).bind fun errs herrs h name hname hconcrete => ?_
        exact herrs h name (mem_filter.mpr ⟨hname, by rw [hconcrete]; rfl⟩)
  exact (Prog.run_keeps (I := fun _ => True)
    (fun s n st _ _ => ⟨k.told_exec clock fails s n st, trivial⟩) hall trivial).1 haccepted

/-- **No instance without evidence.**  When a write is accepted, a snapshot that was current
when the name was checked lists every instance of a name that is not itself discovered, exactly
if this is so of the instances from 2^32 on, which nobody looks up. -/
theorem instances_covered_iff (tables : ApiTables) (k : DeviceModel) (deviceID : String)
    (payload : SetParameterPayload) (clock : Nat → Time) (fails : Nat → Bool) (w : ApiWorld) :
    (((validateWritableParameters tables deviceID payload).run
        (fun s n => s.exec (k.tells (clock n) (fails n))) id w).1 = none →
      ∀ name ∈ writeNames payload, k.names.lookup name = none →
        ∀ i part, (split name '.')[i]? = some part → numbered part = true →
          ∃ n, k.Covers (clock n) name i) ↔
    (((validateWritableParameters tables deviceID payload).run
        (fun s n => s.exec (k.tells (clock n) (fails n))) id w).1 = none →
      ∀ name ∈ writeNames payload, k.names.lookup name = none →
        ∀ i part, (split name '.')[i]? = some part → numbered part = true →
          2 ^ 32 ≤ decimal part → ∃ n, k.Covers (clock n) name i) := by
  constructor
  · exact fun h haccepted name hname hconcrete i part hpart hnumber _ =>
      h haccepted name hname hconcrete i part hpart hnumber
  · intro h haccepted name hname hconcrete i part hpart hnumber
    rcases Nat.lt_or_ge (decimal part) (2 ^ 32) with hsmall | hlarge
    · obtain ⟨n, hn⟩ := checked_of_accepted tables deviceID payload fails w haccepted name hname
        hconcrete
      exact ⟨n, covers_of_requireInstances hpart hnumber hsmall hn⟩
    · exact h haccepted name hname hconcrete i part hpart hnumber hlarge

/-- One name with an instance, and one row of its table. -/
def hostModel : DeviceModel where
  names := AList.singleton "Device.Hosts.Host.\x7bi\x7d.Name" true
  firmware := "1.0"
  evidence := [{ firmware := "1.0", instances := ["Device.Hosts.Host.7."], discoveredAt := 0 }]

/-- `validateWritableParameters` of one write, an hour after the snapshot. -/
def validateHost (name : String) : Option String :=
  ((validateWritableParameters ⟨id, fun _ _ => none, fun _ => none⟩ "cpe1"
    { parameters := [⟨name, "x", "", ""⟩] }).run
      (fun s n => s.exec (hostModel.tells (seconds 3600) ((fun _ => false) n))) id
      { queue := { jobs := ⟨[], .nil, .nil⟩ } }).1

/-- 2^32 is an instance for one of the two, and no snapshot has it. -/
theorem instance_beyond_uint32 :
    validateHost "Device.Hosts.Host.4294967296.Name" = none ∧
      hostModel.names.lookup "Device.Hosts.Host.4294967296.Name" = none ∧
      (split "Device.Hosts.Host.4294967296.Name" '.')[3]? = some "4294967296" ∧
      numbered "4294967296" = true ∧
      ∀ now, ¬ hostModel.Covers now "Device.Hosts.Host.4294967296.Name" 3 := by
  refine ⟨by decide +kernel, by decide +kernel, by decide +kernel, by decide +kernel,
    fun now hcovers => ?_⟩
  obtain ⟨e, he, -, -, hlisted⟩ := hcovers
  have hnone : ∀ e ∈ hostModel.evidence,
      instancePath "Device.Hosts.Host.4294967296.Name" 3 ∉ e.instances := by
    decide +kernel
  exact hnone e he hlisted

end Acs
