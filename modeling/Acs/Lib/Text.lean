/-
The string functions of the Go standard library that the modelled code calls.

Go strings are byte strings and Lean strings are sequences of code points.  All
strings here come from XML, JSON or text columns, so they are valid UTF-8; on
those, prefix, suffix and substring tests and the order of `sort.Strings` agree
in the two readings, and the length in bytes is `utf8ByteSize`.
-/
import Mathlib.Data.List.Sort
import Mathlib.Data.List.TakeWhile
import Mathlib.Data.String.Basic

namespace Text

open List

/-- `strings.HasPrefix`. -/
def hasPrefix (s pre : String) : Bool :=
  pre.toList.isPrefixOf s.toList

/-- `strings.HasSuffix`. -/
def hasSuffix (s suf : String) : Bool :=
  suf.toList.isSuffixOf s.toList

/-- `strings.TrimPrefix`. -/
def trimPrefix (s pre : String) : String :=
  if hasPrefix s pre then String.ofList (s.toList.drop pre.toList.length) else s

/-- `strings.TrimSuffix`. -/
def trimSuffix (s suf : String) : String :=
  if hasSuffix s suf then String.ofList (s.toList.take (s.toList.length - suf.toList.length)) else s

section

variable (s : String) (sep : Char)

/-- `strings.Count` of a one-character string. -/
def countChar (c : Char) : Nat :=
  s.toList.count c

/-- `strings.Contains`. -/
def contains (s sub : String) : Bool :=
  s.toList.tails.any (sub.toList.isPrefixOf ·)

/-- `strings.ContainsAny`. -/
def containsAny (s chars : String) : Bool :=
  s.toList.any (· ∈ chars.toList)

/-- `unicode.ToLower` as far as an ASCII result can tell: beside A to Z only the
dotted capital I and the Kelvin sign have an ASCII lower case. -/
def lowerChar (c : Char) : Char :=
  if c = Char.ofNat 0x130 then 'i' else if c = Char.ofNat 0x212A then 'k' else c.toLower

/-- `strings.ToLower`, for tests against ASCII text only. -/
def toLower : String :=
  String.ofList (s.toList.map lowerChar)

/-- `unicode.IsSpace`. -/
def isSpace (c : Char) : Bool :=
  c.toNat ∈ [0x09, 0x0A, 0x0B, 0x0C, 0x0D, 0x20, 0x85, 0xA0, 0x1680, 0x2028, 0x2029, 0x202F,
    0x205F, 0x3000] || (0x2000 ≤ c.toNat && c.toNat ≤ 0x200A)

/-- `strings.TrimSpace`. -/
def trimSpace : String :=
  String.ofList ((s.toList.dropWhile isSpace).reverse.dropWhile isSpace).reverse

/-- `strings.CutPrefix`: what follows the given start, if the text has it. -/
def cutPrefix (s pre : String) : Option String :=
  if hasPrefix s pre then some (String.ofList (s.toList.drop pre.toList.length)) else none

/-- The part of `strings.Cut` before the first separator. -/
def before : String :=
  String.ofList (s.toList.takeWhile (· ≠ sep))

/-- `strings.Cut` at one character: what comes before the first separator and after it. -/
def cut : String × String :=
  (before s sep, String.ofList ((s.toList.dropWhile (· ≠ sep)).drop 1))

/-- `strings.Split` at one character. -/
def split : List String :=
  (s.toList.splitOn sep).map String.ofList

/-- `strings.Fields`. -/
def fields : List String :=
  ((s.toList.splitOnP isSpace).filter (· ≠ [])).map String.ofList

/-- `strings.Join`. -/
def join (parts : List String) (sep : String) : String :=
  (parts.intersperse sep).foldl (· ++ ·) ""

/-- `sort.Strings`. -/
def sortStrings (l : List String) : List String :=
  l.insertionSort (· ≤ ·)

theorem mem_sortStrings {l : List String} {s : String} : s ∈ sortStrings l ↔ s ∈ l :=
  (perm_insertionSort _ l).mem_iff

theorem sortStrings_nodup {l : List String} : (sortStrings l).Nodup ↔ l.Nodup :=
  (perm_insertionSort _ l).nodup_iff

/-- The text neither begins nor ends with white space. -/
def Trimmed (s : List Char) : Prop :=
  (∀ c ∈ s.head?, isSpace c = false) ∧ ∀ c ∈ s.getLast?, isSpace c = false

theorem trimSpace_of_trimmed {s : String} (h : Trimmed s.toList) : trimSpace s = s := by
  have hdrop : ∀ l : List Char, (∀ c ∈ l.head?, isSpace c = false) →
      l.dropWhile isSpace = l := by
    rintro (_ | ⟨c, l⟩) hhead
    · rfl
    · exact dropWhile_cons_of_neg (by simp [hhead c rfl])
  rw [trimSpace, hdrop _ h.1, hdrop _ (by simpa using h.2), reverse_reverse,
    String.ofList_toList]

theorem trimSpace_ne_empty {s : String} {c : Char} (hc : c ∈ s.toList) (hspace : isSpace c = false) :
    trimSpace s ≠ "" := by
  intro hempty
  have hnil : (s.toList.dropWhile isSpace).reverse.dropWhile isSpace = [] := by
    have hlist := congrArg String.toList hempty
    rw [trimSpace, String.toList_ofList] at hlist
    exact reverse_eq_nil_iff.mp hlist
  have hall := dropWhile_eq_nil_iff.mp hnil
  rw [← takeWhile_append_dropWhile (p := isSpace) (l := s.toList)] at hc
  rcases mem_append.mp hc with hc | hc
  · rw [mem_takeWhile_imp hc] at hspace
    cases hspace
  · rw [hall c (mem_reverse.mpr hc)] at hspace
    cases hspace

theorem split_ne_nil : split s sep ≠ [] := by
  simp [split]

theorem sep_notMem_splitOn {sep : Char} {cs part : List Char} (h : part ∈ cs.splitOn sep) :
    sep ∉ part := by
  induction cs generalizing part with
  | nil =>
    have hpart : part = [] := by simpa using h
    simp [hpart]
  | cons c cs ih =>
    rw [splitOn_cons_eq_if_modifyHead] at h
    split at h
    · rcases mem_cons.mp h with rfl | h
      · simp
      · exact ih h
    next hc =>
      cases hsplit : cs.splitOn sep with
      | nil => simp [hsplit] at h
      | cons first rest =>
        rw [hsplit, modifyHead_cons] at h
        rcases mem_cons.mp h with rfl | h
        · have hne : sep ≠ c := fun heq => hc (by simp [heq])
          have hfirst : first ∈ cs.splitOn sep := by simp [hsplit]
          simp [hne, ih hfirst]
        · exact ih (by rw [hsplit]; exact mem_cons_of_mem _ h)

theorem sep_notMem_split {s part : String} {sep : Char} (h : part ∈ split s sep) :
    sep ∉ part.toList := by
  obtain ⟨cs, hcs, rfl⟩ := mem_map.mp h
  simpa using sep_notMem_splitOn hcs

theorem cut_append {a b : String} {sep : Char} (h : sep ∉ a.toList) :
    cut (a ++ String.singleton sep ++ b) sep = (a, b) := by
  have hstop : ∀ c ∈ a.toList, decide (c ≠ sep) := by
    intro c hc
    exact decide_eq_true fun heq => h (heq ▸ hc)
  have hlist : (a ++ String.singleton sep ++ b).toList = a.toList ++ sep :: b.toList := by simp
  rw [cut, before, hlist, takeWhile_append_of_pos hstop, dropWhile_append_of_pos hstop]
  simp

theorem join_toList (parts : List String) (sep : String) :
    (join parts sep).toList = List.intercalate sep.toList (parts.map String.toList) := by
  have hfold : ∀ (l : List String) (s : String), (l.foldl (· ++ ·) s).toList =
      s.toList ++ (l.map String.toList).flatten := by
    intro l
    induction l with
    | nil => intro s; simp
    | cons x rest ih =>
      intro s
      rw [foldl_cons, ih, String.toList_append, map_cons, flatten_cons,
        append_assoc]
  rw [join, hfold, List.intercalate]
  induction parts with
  | nil => rfl
  | cons x rest ih =>
    cases rest with
    | nil => simp
    | cons y rest => simpa using ih

theorem join_split : join (split s sep) (String.singleton sep) = s := by
  have hmap : (split s sep).map String.toList = s.toList.splitOn sep := by
    simp [split, map_map, Function.comp_def]
  apply String.toList_inj.mp
  rw [join_toList, hmap, String.toList_singleton]
  exact intercalate_splitOn sep

end

theorem ne_empty_of_hasSuffix {s suf : String} (hsuf : suf ≠ "") (h : hasSuffix s suf) :
    s ≠ "" := by
  rintro rfl
  have hnil : suf.toList = [] := by
    have := isSuffixOf_iff_suffix.mp h
    simpa using this
  exact hsuf (String.toList_inj.mp (by simpa using hnil))

end Text
