/-
What the protected list lets through.

A name may hold a `*` where a path has an instance number, and over USP it then
stands for all instances.  The rules ask for digits there, so a name with a `*` is
not matched by them while the paths it stands for are.  Whether a rule matches a
path does not depend on which instance numbers it has (`matchesPieces_instance`), so
one path decides for all that a name stands for: the one with 1 for each `*`.
-/
import Acs.Jobs.Protected
import Acs.Uspc.Message
import Mathlib.Data.List.Forall2

namespace Acs

open List Text SegmentPattern

/-- An instance number, in decimal. -/
def isInstanceNumber (s : String) : Bool :=
  s ≠ "" && s.toList.all Char.isDigit && s.toList.head? ≠ some '0'

/-- The path is one that the name addresses: `*` stands for any instance number. -/
def Addresses (name path : String) : Prop :=
  List.Forall₂ (fun n s => if n = "*" then isInstanceNumber s = true else s = n)
    (split name '.') (split path '.')

/-- The segments with 1 for each `*`. -/
def firstSegments (name : String) : List String :=
  (split name '.').map fun s => if s = "*" then "1" else s

/-- The name with 1 for each `*`. -/
def firstInstance (name : String) : String :=
  String.ofList (['.'].intercalate ((firstSegments name).map String.toList))

/-! ### Rules do not tell instances apart -/

/-- The second segment is the first, or 1 for another instance number. -/
def SameUpToInstance (s s' : String) : Prop :=
  s = s' ∨ (isInstanceNumber s = true ∧ s' = "1")

/-- The pattern matches all instance numbers or none. -/
def SegmentPattern.uniform : SegmentPattern → Bool
  | .oneOf words => words.all (!isInstanceNumber ·)
  | .number => true
  | .word start ends => (start = "" && ends = [""]) || start.toList.head?.any (!·.isDigit)

def Piece.uniform : Piece → Bool
  | .segment p | .many p => p.uniform
  | .group runs => runs.all (·.all (·.uniform))

theorem protectedRules_uniform : ∀ rule ∈ protectedRules, rule.pieces.all (·.uniform) := by
  decide

theorem SegmentPattern.uniform_matches {p : SegmentPattern} (hp : p.uniform) {s s' : String}
    (hsame : SameUpToInstance s s') (h : p.matches s) : p.matches s' := by
  rcases hsame with rfl | ⟨hs, rfl⟩
  · exact h
  cases p with
  | oneOf words =>
    have hmem : s ∈ words := by simpa [SegmentPattern.matches] using h
    have := all_eq_true.mp hp s hmem
    simp [hs] at this
  | number => decide
  | word start ends =>
    simp only [uniform, Bool.or_eq_true, Bool.and_eq_true, decide_eq_true_eq] at hp
    rcases hp with ⟨rfl, rfl⟩ | hstart
    · decide
    · -- A segment that starts with a letter is no instance number.
      obtain ⟨c, hc, hdigit⟩ := Option.any_eq_true _ _ |>.mp hstart
      simp only [SegmentPattern.matches, any_eq_true, Bool.and_eq_true] at h
      obtain ⟨e, -, ⟨hstarts, -⟩, -⟩ := h
      have hpre := isPrefixOf_iff_prefix.mp hstarts
      have hmem : c ∈ s.toList := hpre.subset (mem_of_mem_head? hc)
      simp only [isInstanceNumber, Bool.and_eq_true, all_eq_true] at hs
      simp [hs.1.2 c hmem] at hdigit

theorem zip_matches {run : List SegmentPattern} (hrun : ∀ p ∈ run, p.uniform)
    {segs segs' : List String} (hsame : List.Forall₂ SameUpToInstance segs segs')
    (h : (run.zip segs).all (fun (p, s) => p.matches s)) :
    (run.zip segs').all (fun (p, s) => p.matches s) := by
  induction hsame generalizing run with
  | nil => simp
  | cons hs _ ih =>
    cases run with
    | nil => simp
    | cons p run =>
      simp only [zip_cons_cons, all_cons, Bool.and_eq_true] at h ⊢
      exact ⟨uniform_matches (hrun p mem_cons_self) hs h.1,
        ih (fun q hq => hrun q (mem_cons_of_mem _ hq)) h.2⟩

theorem all_matches {p : SegmentPattern} (hp : p.uniform) {segs segs' : List String}
    (hsame : List.Forall₂ SameUpToInstance segs segs') (h : segs.all p.matches) :
    segs'.all p.matches := by
  induction hsame with
  | nil => simp
  | cons hs _ ih =>
    simp only [all_cons, Bool.and_eq_true] at h ⊢
    exact ⟨uniform_matches hp hs h.1, ih h.2⟩

theorem matchesPieces_instance {pieces : List Piece} (hpieces : pieces.all (·.uniform)) :
    ∀ {segs segs' : List String}, List.Forall₂ SameUpToInstance segs segs' →
      matchesPieces pieces segs → matchesPieces pieces segs' := by
  induction pieces with
  | nil =>
    intro segs segs' hsame h
    cases hsame with
    | nil => exact h
    | cons => simp [matchesPieces] at h
  | cons piece rest ih =>
    simp only [all_cons, Bool.and_eq_true] at hpieces
    obtain ⟨hpiece, hrest⟩ := hpieces
    intro segs segs' hsame h
    have hlen := hsame.length_eq
    cases piece with
    | segment p =>
      cases hsame with
      | nil => simp [matchesPieces] at h
      | cons hs htail =>
        simp only [matchesPieces, Bool.and_eq_true] at h ⊢
        exact ⟨uniform_matches hpiece hs h.1, ih hrest htail h.2⟩
    | group runs =>
      simp only [matchesPieces, any_eq_true, Bool.and_eq_true, decide_eq_true_eq] at h ⊢
      obtain ⟨run, hrun, ⟨hle, hzip⟩, hdrop⟩ := h
      have huniform : ∀ p ∈ run, p.uniform :=
        all_eq_true.mp (all_eq_true.mp hpiece run hrun)
      exact ⟨run, hrun, ⟨hlen ▸ hle, zip_matches huniform hsame hzip⟩,
        ih hrest (forall₂_drop _ hsame) hdrop⟩
    | many p =>
      simp only [matchesPieces, any_eq_true, Bool.and_eq_true] at h ⊢
      obtain ⟨n, hn, htake, hdrop⟩ := h
      exact ⟨n, hlen ▸ hn, all_matches hpiece (forall₂_take _ hsame) htake,
        ih hrest (forall₂_drop _ hsame) hdrop⟩

/-! ### One path for all -/

/-- If one of two paths that differ in instances is unprotected, so is the other. -/
theorem protectedReason_instance {path path' : String}
    (hsame : List.Forall₂ SameUpToInstance (split path '.') (split path' '.'))
    (h : protectedReason path' = none) : protectedReason path = none := by
  simp only [protectedReason, findSome?_eq_none_iff, ite_eq_right_iff, reduceCtorEq, imp_false]
    at h ⊢
  exact fun rule hrule hmatch =>
    h rule hrule (matchesPieces_instance (protectedRules_uniform rule hrule) hsame hmatch)

theorem split_firstInstance (name : String) :
    split (firstInstance name) '.' = firstSegments name := by
  have hdots : ∀ l ∈ (firstSegments name).map String.toList, '.' ∉ l := by
    intro l hl
    obtain ⟨s, hs, rfl⟩ := mem_map.mp hl
    obtain ⟨n, hn, rfl⟩ := mem_map.mp hs
    split
    · decide
    · exact sep_notMem_split hn
  have hne : (firstSegments name).map String.toList ≠ [] := by
    simp [firstSegments, split_ne_nil]
  simp only [split, firstInstance, String.toList_ofList]
  rw [splitOn_intercalate _ hdots hne]
  simp

theorem addresses_firstInstance (name : String) : Addresses name (firstInstance name) := by
  unfold Addresses
  rw [split_firstInstance, firstSegments, forall₂_map_right_iff]
  refine forall₂_same.mpr ?_
  intro s _
  by_cases hs : s = "*"
  · simp only [hs, if_true]
    decide
  · simp [hs]

/-- Every addressed path is that path up to instances. -/
theorem Addresses.sameUpToInstance {name path : String} (h : Addresses name path) :
    List.Forall₂ SameUpToInstance (split path '.') (split (firstInstance name) '.') := by
  rw [split_firstInstance, firstSegments, forall₂_map_right_iff]
  refine List.Forall₂.flip (h.imp ?_)
  intro n s hs
  by_cases hn : n = "*"
  · rw [if_pos hn] at hs
    exact .inr ⟨hs, by rw [if_pos hn]⟩
  · rw [if_neg hn] at hs
    exact .inl (by rw [if_neg hn, hs])

/-! ### Accepted payloads -/

theorem unprotected_of_accepted {payload : Payload} {p : SetParameterPayload}
    (hpayload : payload.asSetParameter = some p)
    (haccepted : checkProtectedWrite false .setParameter payload = none) :
    ∀ w ∈ p.parameters, protectedReason w.name = none := by
  intro w hw
  have hnames : checkProtected (p.parameters.map (·.name)) = none := by
    simpa [checkProtectedWrite, hpayload] using haccepted
  have hname := findSome?_eq_none_iff.mp hnames w.name (mem_map_of_mem hw)
  simpa using hname

theorem protectedReason_firstInstance {name : String} (h : "*" ∉ split name '.') :
    protectedReason (firstInstance name) = protectedReason name := by
  have hsame : firstSegments name = split name '.' := by
    unfold firstSegments
    refine (map_congr_left ?_).trans (map_id _)
    intro s hs
    have hne : s ≠ "*" := by
      rintro rfl
      exact h hs
    simp [hne]
  simp only [protectedReason, split_firstInstance, hsame]

/-- **What an accepted write may address.**  No path that its names stand for is
protected exactly if none is that has 1 for each `*` of a name. -/
theorem accepted_write_unprotected_iff (payload : Payload) (p : SetParameterPayload)
    (hpayload : payload.asSetParameter = some p)
    (haccepted : checkProtectedWrite false .setParameter payload = none) :
    (∀ w ∈ p.parameters, ∀ path, Addresses w.name path → protectedReason path = none) ↔
      ∀ w ∈ p.parameters, "*" ∈ split w.name '.' →
        protectedReason (firstInstance w.name) = none := by
  constructor
  · intro h w hw _
    exact h w hw _ (addresses_firstInstance w.name)
  · intro h w hw path haddr
    refine protectedReason_instance haddr.sameUpToInstance ?_
    by_cases hstar : "*" ∈ split w.name '.'
    · exact h w hw hstar
    · rw [protectedReason_firstInstance hstar]
      exact unprotected_of_accepted hpayload haccepted w hw

/-- A write to all radios. -/
def writeAllRadios (leaf : String) : SetParameterPayload :=
  { parameters := [{ name := "Device.WiFi.Radio.*." ++ leaf, value := "ZA", type := "xsd:string" }] }

/-- The channel of all radios may be written, and none of them is protected. -/
theorem accepted_write_unprotected_channel :
    checkProtectedWrite false .setParameter (.setParameter (writeAllRadios "Channel")) = none ∧
    ∀ w ∈ (writeAllRadios "Channel").parameters, ∀ path, Addresses w.name path →
      protectedReason path = none := by
  have haccepted :
      checkProtectedWrite false .setParameter (.setParameter (writeAllRadios "Channel")) = none := by
    decide +kernel
  refine ⟨haccepted, (accepted_write_unprotected_iff _ _ rfl haccepted).mpr ?_⟩
  decide +kernel

/-- **The regulatory domain of all radios may be written.**  The write is accepted, its USP
request goes to `Device.WiFi.Radio.*.`, and that addresses a protected parameter. -/
theorem regulatoryDomain_of_all_radios_accepted :
    checkProtectedWrite false .setParameter (.setParameter (writeAllRadios "RegulatoryDomain")) =
      none ∧
    ((groupParametersByObjectPath (writeAllRadios "RegulatoryDomain").parameters).lookup
        "Device.WiFi.Radio.*.").bind (·.lookup "RegulatoryDomain") = some "ZA" ∧
    Addresses "Device.WiFi.Radio.*.RegulatoryDomain" "Device.WiFi.Radio.1.RegulatoryDomain" ∧
    protectedReason "Device.WiFi.Radio.1.RegulatoryDomain" =
      some "it sets the country radio rules; a wrong value breaks spectrum regulation" := by
  have haddr := addresses_firstInstance "Device.WiFi.Radio.*.RegulatoryDomain"
  rw [show firstInstance "Device.WiFi.Radio.*.RegulatoryDomain" =
    "Device.WiFi.Radio.1.RegulatoryDomain" by decide +kernel] at haddr
  exact ⟨by decide +kernel, by decide +kernel, haddr, by decide +kernel⟩

end Acs
