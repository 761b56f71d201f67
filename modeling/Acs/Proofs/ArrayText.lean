/-
Text arrays come back as they were written.

An element in either form leaves the scanner outside quotes with the element in its buffer.
-/
import Acs.Store.StringArray

namespace Acs.StringArray

open List Text Escape

theorem foldl_escape (out : List String) (s buf : List Char) :
    (escape '\\' '"' s).foldl Scan.step ⟨out, buf, true, false⟩ = ⟨out, buf ++ s, true, false⟩ := by
  induction s generalizing buf with
  | nil => simp [escape]
  | cons c s ih =>
    rw [escape_cons, foldl_append, append_cons, ← ih]
    split
    next hc => rcases hc with rfl | rfl <;> rfl
    next hc => simp [Scan.step, not_or.mp hc]

theorem foldl_plain (out : List String) {s : List Char}
    (h : ∀ c ∈ s, c ≠ '\\' ∧ c ≠ '"' ∧ c ≠ ',') (buf : List Char) :
    s.foldl Scan.step ⟨out, buf, false, false⟩ = ⟨out, buf ++ s, false, false⟩ := by
  induction s generalizing buf with
  | nil => simp
  | cons c s ih =>
    rw [append_cons, ← ih fun d hd => h d (mem_cons_of_mem c hd)]
    simp [Scan.step, h c mem_cons_self]

/-- The scanner reads what `write` makes of an element, and that is not empty. -/
def Reads (write : String → String) : Prop :=
  ∀ s, write s ≠ "" ∧ ∀ out, (write s).toList.foldl Scan.step { out } = { out, buf := s.toList }

theorem reads_quoted : Reads quoted := by
  refine fun s => ⟨by simp [quoted], fun out => ?_⟩
  have htext : (quoted s).toList = '"' :: escape '\\' '"' s.toList ++ ['"'] := by
    simp [quoted]
  rw [htext, foldl_append]
  exact congrArg (Scan.step · '"') (foldl_escape out s.toList [])

theorem reads_element : Reads element := by
  intro s
  unfold element
  split
  · exact reads_quoted s
  next hquotes =>
    simp only [needsQuotes, Bool.or_eq_true, decide_eq_true_eq, not_or, any_eq_true,
      not_exists, not_and] at hquotes
    refine ⟨hquotes.1.1, fun out => foldl_plain out (fun c hc => ?_) []⟩
    refine ⟨?_, ?_, ?_⟩ <;> rintro rfl <;> exact hquotes.2 _ hc (by decide)

def body (write : String → String) (a : List String) : List Char :=
  intercalate [','] (a.map fun s => (write s).toList)

section

variable {write : String → String} (h : Reads write)

include h

/-- A comma between two elements ends the first. -/
theorem foldl_join (out : List String) (s : String) (a : List String) :
    ((body write (s :: a)).foldl Scan.step { out }).elements = out ++ s :: a := by
  induction a generalizing out s with
  | nil => simp [body, (h s).2, Scan.elements]
  | cons t a ih =>
    have hbody : body write (s :: t :: a) = (write s).toList ++ ',' :: body write (t :: a) := by
      simp [body, intercalate]
    have hcomma : Scan.step ⟨out, s.toList, false, false⟩ ',' = { out := out ++ [s] } := by
      simp [Scan.step]
    rw [hbody, foldl_append, (h s).2, foldl_cons, hcomma, ih]
    simp

theorem parsePostgresArray_literal : ∀ a, parsePostgresArray (literal write a) = a
  | [] => by
    show parsePostgresArray (braced (join [] ",")) = []
    decide +kernel
  | s :: a => by
    have hne : body write (s :: a) ≠ [] := by
      cases a <;> simp [body, intercalate, (h s).1]
    have htext : literal write (s :: a) = String.ofList ('{' :: body write (s :: a) ++ ['}']) := by
      simp [body, literal, braced, join_toList, Function.comp_def]
    have htrim : trimSpace (literal write (s :: a)) = literal write (s :: a) := by
      rw [htext]
      refine trimSpace_of_trimmed ⟨by simp +decide, ?_⟩
      rw [String.toList_ofList, getLast?_concat]
      rintro _ ⟨⟩
      rfl
    have hinner : trimSuffix (trimPrefix (literal write (s :: a)) (String.singleton '{'))
        (String.singleton '}') = String.ofList (body write (s :: a)) := by
      simp [htext, trimSuffix, trimPrefix, hasPrefix, hasSuffix]
    rw [parsePostgresArray, htrim, if_neg (by simp [htext, braced, ← String.toList_inj, hne]), hinner]
    show (foldl Scan.step {} (String.ofList (body write (s :: a))).toList).elements = s :: a
    rw [String.toList_ofList]
    exact foldl_join h [] s a

end

/-- **Text arrays come back**, from the text written and from that of Postgres. -/
theorem stringArray_round_trip (a : List String) :
    (value (some a)).map parsePostgresArray = some a ∧ parsePostgresArray (arrayOut a) = a :=
  ⟨congrArg some (parsePostgresArray_literal reads_quoted a),
    parsePostgresArray_literal reads_element a⟩

end Acs.StringArray
