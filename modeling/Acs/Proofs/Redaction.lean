/-
The two redactions agree.

Both are the same map over the document: a string that has to be hidden becomes the
mark, everything else is walked.  `Go.redact_obj` and `Sql.redact_obj` bring the two
functions into that form, and what is left is that the two decide alike about a
field, which they do when the names are ASCII.  What the result looks like is said
by paths: at every path stands what stood there, or the mark where a secret stood.
-/
import Acs.Jobs.Redaction

namespace Acs

open List Json Text
open Json (field)

/-! ### Which fields are secret -/

/-- A field whose string is replaced. -/
def hides (entry : Bool) (key : String) : Json → Bool
  | .str s => Go.redactable s && (secretName key || (key = "value" && entry))
  | _ => false

/-- A string that is neither empty nor the mark. -/
def unredacted : Json → Bool
  | .str s => Go.redactable s
  | _ => false

/-- The last step of the path leads to a field that holds a secret. -/
def underSecret : Json → List Step → Bool
  | .obj fields, [.key k] => secretName k || (k = "value" && Go.secretEntry fields)
  | .obj fields, .key k :: path => (field fields k).any (underSecret · path)
  | .arr items, .index i :: path => items[i]?.any (underSecret · path)
  | _, _ => false

theorem not_hides_mark (entry : Bool) (key : String) :
    hides entry key (.str redactedMark) = false := by
  simp [hides, Go.redactable]

/-! ### Go's redaction as a map -/

namespace Go

theorem redactArray_eq (items : List Json) :
    (redactArray items).1 = items.map fun j => (redactJSONSecrets j).1 := by
  induction items with
  | nil => simp [redactArray]
  | cons j items ih => simp [redactArray, ih]

variable (entry : Bool) (fields : List (String × Json)) (doc : Json) (k : String) (v : Json)

theorem redactObject_str (s : String) (rest : List (String × Json)) :
    redactObject entry ((k, .str s) :: rest) =
      ((k, if hides entry k (.str s) then .str redactedMark else .str s) ::
          (redactObject entry rest).1,
        hides entry k (.str s) || (redactObject entry rest).2) := by
  rw [redactObject]
  by_cases hs : redactable s
  · by_cases hk : secretName k
    · simp [hides, hs, hk]
    · by_cases hv : entry ∧ k = "value"
      · simp [hides, hs, hv]
      · have hv' : ¬ (k = "value" ∧ entry) := fun h => hv h.symm
        simp [hides, hs, hk, hv, hv']
  · simp [hides, hs]

theorem redactObject_eq : (redactObject entry fields).1 = fields.map fun f =>
      (f.1, if hides entry f.1 f.2 then .str redactedMark else (redactJSONSecrets f.2).1) := by
  induction fields with
  | nil => simp [redactObject]
  | cons f fields ih =>
    obtain ⟨k, v⟩ := f
    rw [map_cons, ← ih]
    cases v with
    | str s => simp [redactObject_str, redactJSONSecrets]
    | _ => simp [redactObject, hides]

theorem unchanged : (redactJSONSecrets doc).2 = false → (redactJSONSecrets doc).1 = doc := by
  induction doc with
  | null | bool | num | str => simp [redactJSONSecrets]
  | arr items ih =>
    simp only [redactJSONSecrets, arr.injEq]
    induction items with
    | nil => simp [redactArray]
    | cons j items ihItems =>
      simp only [redactArray, Bool.or_eq_false_iff, List.cons.injEq]
      rintro ⟨hj, hrest⟩
      exact ⟨ih j mem_cons_self hj,
        ihItems (fun i hi => ih i (mem_cons_of_mem _ hi)) hrest⟩
  | obj fields ih =>
    simp only [redactJSONSecrets, obj.injEq]
    generalize secretEntry fields = entry
    induction fields with
    | nil => simp [redactObject]
    | cons f fields ihFields =>
      obtain ⟨k, v⟩ := f
      have hv := ih (k, v) mem_cons_self
      have hrest := ihFields fun g hg => ih g (mem_cons_of_mem _ hg)
      cases v with
      | str s =>
        rw [redactObject_str]
        simp only [Bool.or_eq_false_iff, List.cons.injEq, Prod.mk.injEq, true_and]
        rintro ⟨hs, htail⟩
        exact ⟨by simp [hs], hrest htail⟩
      | _ =>
        simp only [redactObject, Bool.or_eq_false_iff, List.cons.injEq, Prod.mk.injEq,
          true_and]
        rintro ⟨hs, htail⟩
        exact ⟨hv hs, hrest htail⟩

theorem redactPayloadSecrets_eq : redactPayloadSecrets doc = (redactJSONSecrets doc).1 := by
  unfold redactPayloadSecrets
  split
  next h =>
    exact (unchanged doc (by simpa using h)).symm
  · rfl

theorem redact_arr (items : List Json) :
    redactPayloadSecrets (.arr items) = .arr (items.map redactPayloadSecrets) := by
  rw [redactPayloadSecrets_eq, redactJSONSecrets, redactArray_eq, funext redactPayloadSecrets_eq]

theorem redact_obj : redactPayloadSecrets (.obj fields) = .obj (fields.map fun f => (f.1,
      if hides (secretEntry fields) f.1 f.2 then .str redactedMark
      else redactPayloadSecrets f.2)) := by
  rw [redactPayloadSecrets_eq, redactJSONSecrets, redactObject_eq]
  simp only [redactPayloadSecrets_eq]

theorem redact_str (s : String) : redactPayloadSecrets (.str s) = .str s := rfl

theorem redact_not_str {doc : Json} (h : ∀ s, doc ≠ .str s) (s : String) :
    redactPayloadSecrets doc ≠ .str s := by
  cases doc with
  | str t => exact absurd rfl (h t)
  | arr items => rw [redact_arr]; simp
  | obj fields => rw [redact_obj]; simp
  | _ => exact h s

/-! ### The result -/

theorem secretEntry_eq :
    secretEntry fields = (stringText (field fields "name")).any secretName := by
  unfold secretEntry stringText
  split <;> rfl

theorem not_hides_name : hides entry "name" v = false := by
  have hname : secretName "name" = false := by decide
  unfold hides
  split
  · simp [hname]
  · rfl

theorem stringText_redact (v : Option Json) :
    stringText (v.map redactPayloadSecrets) = stringText v := by
  cases v with
  | none => rfl
  | some v =>
    cases v with
    | arr items => rw [Option.map_some, redact_arr]; rfl
    | obj fields => rw [Option.map_some, redact_obj]; rfl
    | _ => rfl

theorem stringText_name (entry : Bool) :
    stringText (field (fields.map fun f => (f.1, if hides entry f.1 f.2 then .str redactedMark
      else redactPayloadSecrets f.2)) "name") = stringText (field fields "name") := by
  have hg := field_map fields
    (fun k v => if hides entry k v then .str redactedMark else redactPayloadSecrets v) "name"
  rw [hg]
  simp only [not_hides_name, Bool.false_eq_true, if_false]
  exact stringText_redact _

theorem redact_field (ih : redactPayloadSecrets (redactPayloadSecrets v) = redactPayloadSecrets v)
    (v' : Json) (hv' : v' = if hides entry k v then .str redactedMark else redactPayloadSecrets v) :
    hides entry k v' = false ∧ redactPayloadSecrets v' = v' := by
  by_cases h : hides entry k v
  · rw [hv', if_pos h]
    exact ⟨not_hides_mark entry k, redact_str _⟩
  · rw [hv', if_neg h]
    refine ⟨?_, ih⟩
    by_cases hstr : ∃ s, v = .str s
    · obtain ⟨s, rfl⟩ := hstr
      rw [redact_str]
      simpa using h
    · have hnot := redact_not_str fun s (hs : v = .str s) => hstr ⟨s, hs⟩
      unfold hides
      split
      next s heq =>
        exact absurd heq (hnot s)
      · rfl

theorem redact_idem :
    redactPayloadSecrets (redactPayloadSecrets doc) = redactPayloadSecrets doc := by
  induction doc with
  | null | bool | num | str => rfl
  | arr items ih =>
    simp only [redact_arr, map_map]
    congr 1
    exact map_congr_left fun j hj => ih j hj
  | obj fields ih =>
    simp only [redact_obj]
    rw [secretEntry_eq, stringText_name, ← secretEntry_eq, map_map]
    congr 1
    apply map_congr_left
    intro f hf
    obtain ⟨hhides, hfix⟩ := redact_field (secretEntry fields) f.1 f.2 (ih f hf) _ rfl
    simp only [Function.comp_apply, hhides, Bool.false_eq_true, if_false, hfix]

theorem hides_eq :
    hides entry k v = (unredacted v && (secretName k || (k = "value" && entry))) := by
  cases v <;> rfl

theorem leaf_of_hides {entry : Bool} {k : String} {v : Json} (h : hides entry k v) :
    v.leaf := by
  cases v with
  | str s => rfl
  | _ => exact absurd h (by simp [hides])

theorem redact_leaf {j : Json} (h : j.leaf) : redactPayloadSecrets j = j := by
  cases j with
  | arr | obj => exact absurd h (by simp [leaf])
  | _ => rfl

/-- At every path stands what stood there, redacted, or the mark. -/
theorem at_redact (path : List Step) : ∀ doc : Json,
    (redactPayloadSecrets doc).at path = (doc.at path).map fun j =>
      if underSecret doc path && unredacted j then .str redactedMark
      else redactPayloadSecrets j := by
  induction path with
  | nil =>
    intro doc
    have hroot : underSecret doc [] = false := by cases doc <;> rfl
    simp [Json.at, hroot]
  | cons step path ih =>
    intro doc
    cases doc with
    | obj fields =>
      rw [redact_obj]
      cases step with
      | index i => rfl
      | key k =>
        have hfield := field_map fields (fun k v =>
          if hides (secretEntry fields) k v then .str redactedMark
          else redactPayloadSecrets v) k
        simp only [Json.at, hfield]
        cases hk : field fields k with
        | none => rfl
        | some v =>
          simp only [Option.map_some, Option.bind_some]
          cases path with
          | nil =>
            simp only [Json.at, underSecret, hides_eq, Option.map_some, Bool.and_comm]
          | cons step path =>
            simp only [underSecret, hk, Option.any_some]
            split
            next hhides =>
              rw [at_leaf (leaf_of_hides hhides), at_leaf rfl]
              rfl
            · exact ih v
    | arr items =>
      rw [redact_arr]
      cases step with
      | key k => rfl
      | index i =>
        simp only [Json.at, getElem?_map]
        cases hi : items[i]? with
        | none => rfl
        | some j =>
          simp only [Option.map_some, Option.bind_some, underSecret, hi, Option.any_some]
          exact ih j
    | _ => rw [redact_leaf rfl, at_leaf rfl]; rfl

theorem at_redact_of_kept {doc j : Json} {path : List Step} (hat : doc.at path = some j)
    (h : ¬ (underSecret doc path ∧ unredacted j)) :
    (redactPayloadSecrets doc).at path = some (redactPayloadSecrets j) := by
  rw [at_redact, hat, Option.map_some, if_neg (by simpa using h)]

/-- No string under a secret key or beside a secret name is left. -/
def NoSecrets (fields : List (String × Json)) : Prop :=
  ∀ f ∈ fields, secretName f.1 ∨ (f.1 = "value" ∧ secretEntry fields) → unredacted f.2 = false

theorem redact_noSecrets : (redactPayloadSecrets doc).EveryObject NoSecrets := by
  induction doc with
  | null => exact .null
  | bool b => exact .bool b
  | num n => exact .num n
  | str s => exact .str s
  | arr items ih =>
    rw [redact_arr]
    refine .arr _ ?_
    intro j hj
    obtain ⟨i, hi, rfl⟩ := mem_map.mp hj
    exact ih i hi
  | obj fields ih =>
    rw [redact_obj]
    refine .obj _ ?_ ?_
    · intro f hf hsecret
      rw [secretEntry_eq, stringText_name, ← secretEntry_eq] at hsecret
      obtain ⟨g, -, rfl⟩ := mem_map.mp hf
      obtain ⟨hhides, -⟩ := redact_field (secretEntry fields) g.1 g.2 (redact_idem g.2) _ rfl
      rw [hides_eq] at hhides
      have hcond : (secretName g.1 || (decide (g.1 = "value") && secretEntry fields)) := by
        simpa using hsecret
      rwa [hcond, Bool.and_true] at hhides
    · intro f hf
      obtain ⟨g, hg, rfl⟩ := mem_map.mp hf
      simp only
      split
      · exact .str _
      · exact ih g hg

end Go

/-! ### SQL's redaction as the same map -/

def asciiText (s : String) : Bool := s.toList.all (·.toNat < 128)

/-- The names that decide are ASCII: the keys, and a string under `name`. -/
def AsciiNames (fields : List (String × Json)) : Prop :=
  (∀ f ∈ fields, asciiText f.1 = true) ∧
    ∀ s, field fields "name" = some (.str s) → asciiText s = true

theorem toLower_ascii {s : String} (h : asciiText s) :
    toLower s = String.ofList (s.toList.map Char.toLower) := by
  unfold toLower
  congr 1
  apply map_congr_left
  intro c hc
  have hlt : c.toNat < 128 := by simpa using all_eq_true.mp h c hc
  have hdot : c ≠ Char.ofNat 0x130 := by rintro rfl; exact absurd hlt (by decide)
  have hkelvin : c ≠ Char.ofNat 0x212A := by rintro rfl; exact absurd hlt (by decide)
  simp [lowerChar, hdot, hkelvin]

namespace Sql

/-- `lower` does to ASCII text what it is documented to do. -/
def LowersAscii (lower : String → String) : Prop :=
  ∀ s, asciiText s = true → lower s = String.ofList (s.toList.map Char.toLower)

variable {lower : String → String}

theorem redactItems_eq (items : List Json) :
    redactItems lower items = items.map (redactPayloadSecrets lower) := by
  induction items with
  | nil => simp [redactItems]
  | cons j items ih => simp [redactItems, ih]

theorem redactFields_eq (b : SqlBool) (fields : List (String × Json)) :
    redactFields lower b fields = fields.map fun f =>
      (f.1, if replaces lower b f.1 f.2 = some true then .str redactedMark
        else redactPayloadSecrets lower f.2) := by
  induction fields with
  | nil => simp [redactFields]
  | cons f fields ih => simp [redactFields, ih]

theorem matchesPattern_ascii (hlower : LowersAscii lower) {s : String}
    (h : asciiText s) : matchesPattern lower s = secretName s := by
  unfold matchesPattern secretName
  rw [hlower s h, toLower_ascii h]

/-- An object without a string name has an unknown or a false `secret_name`. -/
theorem secretNameOf_true (hlower : LowersAscii lower) {fields : List (String × Json)}
    (h : AsciiNames fields) :
    secretNameOf lower fields = some true ↔ Go.secretEntry fields := by
  rw [Go.secretEntry_eq]
  unfold secretNameOf
  cases hname : field fields "name" with
  | none => simp [isString, stringText, SqlBool.and]
  | some v =>
    cases v with
    | str s =>
      simp only [isString, stringText, Option.map_some, Option.any_some,
        matchesPattern_ascii hlower (h.2 s hname)]
      cases secretName s <;> simp [SqlBool.and]
    | _ => simp [isString, stringText, SqlBool.and]

theorem or_and_true (a b : Bool) (c : SqlBool) :
    SqlBool.or (some a) (SqlBool.and (some b) c) = some true ↔
      a ∨ (b ∧ c = some true) := by
  cases a <;> cases b <;> rcases c with _ | _ | _ <;> simp [SqlBool.or, SqlBool.and]

theorem and_true (a : Bool) (c : SqlBool) :
    SqlBool.and (some a) c = some true ↔ a ∧ c = some true := by
  cases a <;> rcases c with _ | _ | _ <;> simp [SqlBool.and]

theorem true_and_some (b : Bool) : SqlBool.and (some true) (some b) = some b := by
  cases b <;> rfl

/-- The two functions replace the same fields. -/
theorem replaces_true (hlower : LowersAscii lower) {fields : List (String × Json)}
    (h : AsciiNames fields) {f : String × Json} (hf : f ∈ fields) :
    replaces lower (secretNameOf lower fields) f.1 f.2 = some true ↔
      hides (Go.secretEntry fields) f.1 f.2 := by
  unfold replaces
  cases hv : f.2 with
  | str s =>
    have hmarks : (s ∉ ["", redactedMark]) ↔ Go.redactable s := by
      simp [Go.redactable]
    simp only [isString, stringText, Option.map_some]
    rw [true_and_some, and_true, or_and_true, matchesPattern_ascii hlower (h.1 f hf),
      secretNameOf_true hlower h]
    simp only [decide_eq_true_eq, hmarks, hides, Bool.and_eq_true, Bool.or_eq_true]
  | _ => simp [isString, stringText, SqlBool.and, hides]

/-- **The two redactions yield the same document.** -/
theorem redact_eq (hlower : LowersAscii lower) {doc : Json} (h : doc.EveryObject AsciiNames) :
    redactPayloadSecrets lower doc = Go.redactPayloadSecrets doc := by
  induction h with
  | null | bool | num | str => simp [redactPayloadSecrets]; rfl
  | arr items h ih =>
    rw [redactPayloadSecrets, redactItems_eq, Go.redact_arr]
    congr 1
    exact map_congr_left fun j hj => ih j hj
  | obj fields here h ih =>
    rw [redactPayloadSecrets, redactFields_eq, Go.redact_obj]
    congr 1
    apply map_congr_left
    intro f hf
    have hsame := replaces_true hlower here hf
    by_cases hhides : hides (Go.secretEntry fields) f.1 f.2
    · rw [if_pos (hsame.mpr hhides), if_pos hhides]
    · rw [if_neg (fun hc => hhides (hsame.mp hc)), if_neg hhides, ih f hf]

end Sql

theorem asciiNames_redact {doc : Json} (h : doc.EveryObject AsciiNames) :
    (Go.redactPayloadSecrets doc).EveryObject AsciiNames := by
  induction h with
  | null => exact .null
  | bool b => exact .bool b
  | num n => exact .num n
  | str s => exact .str s
  | arr items h ih =>
    rw [Go.redact_arr]
    refine .arr _ ?_
    intro j hj
    obtain ⟨i, hi, rfl⟩ := mem_map.mp hj
    exact ih i hi
  | obj fields here h ih =>
    rw [Go.redact_obj]
    refine .obj _ ⟨?_, ?_⟩ ?_
    · intro f hf
      obtain ⟨g, hg, rfl⟩ := mem_map.mp hf
      exact here.1 g hg
    · intro s hs
      have hname := Go.stringText_name fields (Go.secretEntry fields)
      rw [hs] at hname
      refine here.2 s ?_
      cases hold : field fields "name" with
      | none => simp [hold, stringText] at hname
      | some v =>
        cases v with
        | str t => simpa [hold, stringText, eq_comm] using hname
        | _ => simp [hold, stringText] at hname
    · intro f hf
      obtain ⟨g, hg, rfl⟩ := mem_map.mp hf
      simp only
      split
      · exact .str _
      · exact ih g hg

/-- **The database and the API redact alike.**  The result is stable under both, no
secret is left in it, and whatever is not a secret is where it was. -/
theorem redactions_agree (lower : String → String) (hlower : Sql.LowersAscii lower) (doc : Json)
    (hnames : doc.EveryObject AsciiNames) :
    Sql.redactPayloadSecrets lower doc = Go.redactPayloadSecrets doc ∧
    Go.redactPayloadSecrets (Go.redactPayloadSecrets doc) = Go.redactPayloadSecrets doc ∧
    Sql.redactPayloadSecrets lower (Go.redactPayloadSecrets doc) = Go.redactPayloadSecrets doc ∧
    (Go.redactPayloadSecrets doc).EveryObject Go.NoSecrets ∧
    (∀ path, doc.at path = none → (Go.redactPayloadSecrets doc).at path = none) ∧
    (∀ path fields, doc.at path = some (.obj fields) → ∃ fields',
      (Go.redactPayloadSecrets doc).at path = some (.obj fields') ∧
        fields'.map (·.1) = fields.map (·.1)) ∧
    (∀ path items, doc.at path = some (.arr items) → ∃ items',
      (Go.redactPayloadSecrets doc).at path = some (.arr items') ∧
        items'.length = items.length) ∧
    ∀ path j, doc.at path = some j → j.leaf = true →
      ¬ (underSecret doc path = true ∧ unredacted j = true) →
      (Go.redactPayloadSecrets doc).at path = some j := by
  have hstable := Go.redact_idem doc
  refine ⟨Sql.redact_eq hlower hnames, hstable, ?_, Go.redact_noSecrets doc, ?_, ?_, ?_, ?_⟩
  · rw [Sql.redact_eq hlower (asciiNames_redact hnames), hstable]
  · intro path hat
    rw [Go.at_redact, hat]
    rfl
  · intro path fields hat
    rw [Go.at_redact_of_kept hat (by simp [unredacted]), Go.redact_obj]
    exact ⟨_, rfl, by rw [map_map]; rfl⟩
  · intro path items hat
    rw [Go.at_redact_of_kept hat (by simp [unredacted]), Go.redact_arr]
    exact ⟨_, rfl, length_map _⟩
  · intro path j hat hleaf hkeep
    rw [Go.at_redact_of_kept hat hkeep, Go.redact_leaf hleaf]

/-- A write of a passphrase next to a channel, and the password of a download. -/
def mixedPayload : Json :=
  .obj [("parameters", .arr [
      .obj [("name", .str "Device.WiFi.AccessPoint.1.Security.KeyPassphrase"),
        ("value", .str "hunter22")],
      .obj [("name", .str "Device.WiFi.Radio.1.Channel"), ("value", .str "11")]]),
    ("password", .str "letmein"), ("retries", .num 3)]

theorem asciiNames_strings {fields : List (String × Json)} (here : AsciiNames fields)
    (h : ∀ f ∈ fields, f.2.leaf) : (obj fields).EveryObject AsciiNames := by
  refine .obj _ here ?_
  intro f hf
  have hleaf := h f hf
  cases hv : f.2 with
  | null => exact .null
  | bool b => exact .bool b
  | num n => exact .num n
  | str s => exact .str s
  | _ => simp [hv, leaf] at hleaf

theorem asciiNames_mixedPayload : mixedPayload.EveryObject AsciiNames := by
  refine .obj _ ⟨by decide, by simp [field]⟩ (forall_mem_cons.mpr ⟨.arr _ ?_, ?_⟩)
  · refine forall_mem_cons.mpr ⟨asciiNames_strings ⟨by decide, ?_⟩ (by simp [leaf]),
      forall_mem_singleton.mpr (asciiNames_strings ⟨by decide, ?_⟩ (by simp [leaf]))⟩
    · simp only [field, find?_cons, decide_true, Option.map_some, Option.some.injEq,
        str.injEq, forall_eq']
      decide
    · simp only [field, find?_cons, decide_true, Option.map_some, Option.some.injEq,
        str.injEq, forall_eq']
      decide
  · exact forall_mem_cons.mpr ⟨.str _, forall_mem_singleton.mpr (.num _)⟩

theorem lowersAscii_toLower : Sql.LowersAscii toLower :=
  fun _ h => toLower_ascii h

/-- The passphrase and the password go, the channel stays. -/
theorem redactions_agree_mixedPayload :
    (Sql.LowersAscii toLower ∧ mixedPayload.EveryObject AsciiNames) ∧
    (Sql.redactPayloadSecrets toLower mixedPayload = Go.redactPayloadSecrets mixedPayload ∧
      (Go.redactPayloadSecrets mixedPayload).at [.key "parameters", .index 1, .key "value"] =
        some (.str "11")) := by
  have h := redactions_agree toLower lowersAscii_toLower mixedPayload asciiNames_mixedPayload
  refine ⟨⟨lowersAscii_toLower, asciiNames_mixedPayload⟩, h.1, ?_⟩
  exact h.2.2.2.2.2.2.2 [.key "parameters", .index 1, .key "value"] (.str "11") (by rfl) (by rfl)
    (by decide)

end Acs
