/-
The natural key tells devices apart.

A natural key is the normalised OUI, the product class if there is one and the serial
number, escaped and joined (`naturalKey_toList`). Joined fields can be read back
(`Escape.split_join`), and the number of fields says whether there was a product class, so
two devices with one key agree in all three, and `ParseOUISerial` finds the first and the
last field of a key.
-/
import Acs.Site.Gateway

namespace Acs

open Escape List Inform
open Text (Trimmed trimSpace_of_trimmed)

/-- `strings.ReplaceAll` of a one-character text. -/
def replaceAll (old : Char) (new : List Char) (s : List Char) : List Char :=
  s.flatMap fun c => if c = old then new else [c]

/-- The two replacements of `esc` one after the other: the second finds no separator that
the first has put in. -/
theorem escapeKey_eq_replaceAll (s : String) : (escapeKey s).toList =
    replaceAll '+' ['\\', '+'] (replaceAll '\\' ['\\', '\\'] s.toList) := by
  rw [escapeKey, String.toList_ofList, replaceAll, replaceAll, flatMap_assoc]
  congr 1
  funext c
  by_cases hesc : c = '\\'
  · subst hesc
    rfl
  · by_cases hsep : c = '+'
    · subst hsep
      rfl
    · simp [hesc, hsep]

theorem escapeKey_toList (s : String) :
    (escapeKey s).toList = escape '\\' '+' s.toList := by
  rw [escapeKey, String.toList_ofList, escape]
  simp only [Bool.or_eq_true, decide_eq_true_eq]

/-- What a natural key is joined from. -/
def Inform.keyFields (upper : String → String) (i : Inform) : List (List Char) :=
  if i.productClass ≠ "" then
    [(normalizeOUI upper i.oui).toList, i.productClass.toList, i.serialNumber.toList]
  else [(normalizeOUI upper i.oui).toList, i.serialNumber.toList]

variable (upper : String → String)

theorem Inform.keyFields_ne_nil (i : Inform) : i.keyFields upper ≠ [] := by
  unfold keyFields
  split
  · exact cons_ne_nil _ _
  · exact cons_ne_nil _ _

theorem naturalKey_toList (i : Inform) :
    (i.naturalKey upper).toList = join '\\' '+' (i.keyFields upper) := by
  unfold naturalKey keyFields
  split
  · simp [join, escapeKey_toList]
  · simp [join, escapeKey_toList]

/-- The number of fields says whether a device has a product class. -/
theorem Inform.keyFields_eq_iff (d e : Inform) : d.keyFields upper = e.keyFields upper ↔
      normalizeOUI upper d.oui = normalizeOUI upper e.oui ∧
        d.productClass = e.productClass ∧ d.serialNumber = e.serialNumber := by
  unfold keyFields
  by_cases hd : d.productClass = "" <;> by_cases he : e.productClass = ""
  · simp [hd, he, String.toList_inj]
  · simp [hd, he, Ne.symm he]
  · simp [hd, he]
  · simp [hd, he, String.toList_inj]

/-- Two devices have one natural key exactly if they agree in the normalised OUI, the
product class and the serial number. -/
theorem naturalKey_eq_iff (upper : String → String) (d e : Inform) :
    d.naturalKey upper = e.naturalKey upper ↔
      normalizeOUI upper d.oui = normalizeOUI upper e.oui ∧
        d.productClass = e.productClass ∧ d.serialNumber = e.serialNumber := by
  rw [← keyFields_eq_iff, ← String.toList_inj, naturalKey_toList, naturalKey_toList]
  constructor
  · exact join_injective (by decide) (d.keyFields_ne_nil upper) (e.keyFields_ne_nil upper)
  · intro h
    rw [h]

/-! ### Reading a key back -/

/-- What `strings.ToUpper` does to ASCII texts. -/
def UppersAscii : Prop :=
  ∀ s, (∀ c ∈ s.toList, c.toNat < 128) → (upper s).toList = s.toList.map Char.toUpper

theorem head?_escape (field : List Char) : ∀ c ∈ (escape '\\' '+' field).head?,
    c = '\\' ∨ c ∈ field.head? := by
  cases field with
  | nil => nofun
  | cons a field =>
    rw [escape_cons]
    split_ifs <;> simp

theorem getLast?_escape (field : List Char) :
    (escape '\\' '+' field).getLast? = field.getLast? := by
  rcases field.eq_nil_or_concat with rfl | ⟨field, c, rfl⟩
  · rfl
  · rw [escape, concat_eq_append, flatMap_append]
    simp only [flatMap_singleton]
    split_ifs <;> simp

theorem trimmed_join {first last : List Char} (mid : List Char) (hfirst : Trimmed first)
    (hlast : Trimmed last) (hne : last ≠ []) : Trimmed
      (escape '\\' '+' first ++ '+' :: (mid ++ escape '\\' '+' last)) := by
  constructor
  · intro c hc
    rw [head?_append, Option.mem_def, Option.or_eq_some_iff] at hc
    rcases hc with hc | ⟨-, hc⟩
    · rcases head?_escape first c hc with rfl | hc
      · decide
      · exact hfirst.1 c hc
    · cases hc
      decide
  · intro c hc
    rw [← singleton_append, ← append_assoc, ← append_assoc, getLast?_append,
      getLast?_escape, getLast?_eq_some_getLast hne] at hc
    exact hlast.2 c (getLast?_eq_some_getLast hne ▸ hc)

theorem upper_normalizeOUI {upper : String → String} (hupper : UppersAscii upper) {oui : String}
    (hascii : ∀ c ∈ oui.toList, c.toNat < 128) :
    upper (normalizeOUI upper oui) = normalizeOUI upper oui := by
  have hchar : ∀ n < 128, (Char.ofNat n).toUpper.toNat < 128 ∧
      (Char.ofNat n).toUpper.toUpper = (Char.ofNat n).toUpper := by
    decide +kernel
  have hfixed : ∀ c ∈ (normalizeOUI upper oui).toList, c.toNat < 128 ∧ c.toUpper = c := by
    intro c hc
    rw [normalizeOUI, String.toList_ofList, hupper oui hascii] at hc
    obtain ⟨a, ha, rfl⟩ := mem_map.mp (mem_of_mem_filter hc)
    have := hchar a.toNat (hascii a ha)
    rwa [Char.ofNat_toNat] at this
  rw [← String.toList_inj, hupper _ fun c hc => (hfixed c hc).1]
  exact (map_congr_left fun c hc => (hfixed c hc).2).trans (map_id _)

/-- **Reading a key back** gives the OUI and the serial number, whatever the parts hold and
with or without a product class. -/
theorem parseOUISerial_naturalKey (upper : String → String) (hupper : UppersAscii upper)
    (d : Inform) (hascii : ∀ c ∈ d.oui.toList, c.toNat < 128)
    (houi : Trimmed (normalizeOUI upper d.oui).toList) (hserial : Trimmed d.serialNumber.toList)
    (hne : d.serialNumber ≠ "") : parseOUISerial upper (d.naturalKey upper) =
      (normalizeOUI upper d.oui, d.serialNumber) := by
  have hne : d.serialNumber.toList ≠ [] := fun h => hne (String.toList_eq_nil_iff.mp h)
  have hkey : Trimmed (d.naturalKey upper).toList ∧ '+' ∈ (d.naturalKey upper).toList := by
    rw [naturalKey_toList, keyFields]
    split
    · have h := trimmed_join (escape '\\' '+' d.productClass.toList ++ ['+']) houi hserial hne
      rw [append_assoc] at h
      exact ⟨h, by simp [join]⟩
    · exact ⟨trimmed_join [] houi hserial hne, by simp [join]⟩
  rw [parseOUISerial, trimSpace_of_trimmed hkey.1, if_pos hkey.2, splitEscaped, naturalKey_toList,
    split_join (by decide) (d.keyFields_ne_nil upper), keyFields]
  split <;> simp [upper_normalizeOUI hupper hascii]

theorem parseOUISerial_escaped : parseOUISerial (fun s => String.ofList (s.toList.map Char.toUpper))
    "00AA+WR\\+1+S\\\\7" = ("00AA", "S\\7") :=
  parseOUISerial_naturalKey _ (fun s _ => String.toList_ofList)
    { oui := "00:aa", productClass := "WR+1", serialNumber := "S\\7" } (by simp)
    (by constructor <;> rintro c ⟨⟩ <;> decide) (by constructor <;> rintro c ⟨⟩ <;> decide)
    (by decide)

end Acs
