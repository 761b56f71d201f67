/-
What comes back from the texts that name an endpoint.

Percent-encoding is undone by its decoder, so an EndpointID keeps its authority and its
instance.  The escaping of topics leaves an escape sequence that is already there as it is,
so exactly the topics without one come back.
-/
import Acs.Uspc.Endpoint

namespace Acs.Endpoint

open List

/-! ### Bytes -/

theorem forall_byte {p : UInt8 → Prop} (h : ∀ n < 256, p (UInt8.ofNat n)) (c : UInt8) : p c := by
  have hc := h c.toNat c.toNat_lt
  rwa [UInt8.ofNat_toNat] at hc

/-- The two digits of a byte are read back as its two halves. -/
theorem unhex_hexDigit : ∀ c, unhex (hexDigit (c / 16)) = some (c / 16) ∧
    unhex (hexDigit (c % 16)) = some (c % 16) ∧ (c / 16) <<< 4 ||| c % 16 = c :=
  forall_byte (by decide +kernel)

theorem ne_percent_of_unreserved : ∀ c, isUSPUnreserved c = true → c ≠ percent :=
  forall_byte (by decide +kernel)

/-! ### Endpoint ids -/

theorem decodeFrom_cons {c : UInt8} (hc : c ≠ percent) (offset : Nat) (rest : Bytes) :
    decodeFrom offset (c :: rest) = (decodeFrom (offset + 1) rest).map (c :: ·) := by
  rw [decodeFrom.eq_def]
  exact if_pos hc

theorem decodeFrom_encode (s : Bytes) :
    ∀ offset, decodeFrom offset (percentEncodeUSP s) = .ok s := by
  induction s with
  | nil => exact fun _ => rfl
  | cons c s ih =>
    intro offset
    rw [percentEncodeUSP, flatMap_cons]
    split
    next hplain =>
      show decodeFrom offset (c :: percentEncodeUSP s) = _
      rw [decodeFrom_cons (ne_percent_of_unreserved c hplain), ih]
      rfl
    · obtain ⟨hhi, hlo, hbyte⟩ := unhex_hexDigit c
      show decodeFrom offset (percent :: hexDigit (c / 16) :: hexDigit (c % 16) ::
        percentEncodeUSP s) = _
      simp only [decodeFrom, ne_eq, not_true_eq_false, if_false, hhi, hlo, ih, hbyte]
      rfl

theorem cut_separator {authority : Bytes} (h : 58 ∉ authority) (rest : Bytes) :
    cut endpointSeparator (authority ++ endpointSeparator ++ rest) = some (authority, rest) := by
  induction authority with
  | nil => rfl
  | cons c authority ih =>
    obtain ⟨hc, h⟩ := not_or.mp (mt mem_cons.mpr h)
    have hstart : endpointSeparator.isPrefixOf (c :: (authority ++ endpointSeparator ++ rest)) =
        false := by
      simpa [endpointSeparator, ascii, isPrefixOf] using fun heq => absurd heq hc
    rw [cons_append, cons_append, cut, hstart, ih h]
    rfl

theorem endpointID_round_trip :
    (∀ auth inst : Bytes, auth ≠ [] → 58 ∉ auth →
      authority (formatEndpointID auth inst) = auth ∧
        instanceOf (formatEndpointID auth inst) = inst) ∧
    ∀ s t : Bytes, percentDecodeUSP (percentEncodeUSP s) = .ok s ∧
      (percentEncodeUSP s = percentEncodeUSP t → s = t) := by
  refine ⟨fun auth inst hne hcolon => ?_, fun s t => ⟨decodeFrom_encode s 0, fun h => ?_⟩⟩
  · have hsplit : splitID (formatEndpointID auth inst) = some (auth, percentEncodeUSP inst) := by
      rw [splitID, formatEndpointID, cut_separator hcolon, Option.filter_some,
        if_pos (decide_eq_true hne)]
    rw [authority, instanceOf, hsplit]
    refine ⟨rfl, ?_⟩
    show (percentDecodeUSP (percentEncodeUSP inst)).toOption.getD [] = inst
    rw [percentDecodeUSP, decodeFrom_encode]
    rfl
  · have hs := decodeFrom_encode s 0
    rw [h, decodeFrom_encode] at hs
    exact (Except.ok.inj hs).symm

theorem endpointID_round_trip_proto :
    authority (formatEndpointID (ascii "proto") (ascii "a:b")) = ascii "proto" ∧
      instanceOf (formatEndpointID (ascii "proto") (ascii "a:b")) = ascii "a:b" :=
  endpointID_round_trip.1 _ _ (by decide) (by decide)

/-! ### Topics -/

theorem escapeReplyTo_cons (c : UInt8) (t : Bytes) : escapeReplyTo (c :: t) =
    (if c = slash then escapedSlash else [c]) ++ escapeReplyTo t := by
  by_cases hc : c = slash
  · subst hc
    rfl
  · have hstart : [slash].isPrefixOf (c :: t) = false := by
      simpa [isPrefixOf] using Ne.symm hc
    simp [escapeReplyTo, replaceAll, replaceFrom, hstart, hc]

theorem slash_notMem_escapeReplyTo (t : Bytes) : slash ∉ escapeReplyTo t := by
  induction t with
  | nil => exact not_mem_nil
  | cons c t ih =>
    rw [escapeReplyTo_cons, mem_append]
    rintro (h | h)
    · split at h
      · exact absurd h (by decide)
      next hc => exact hc (mem_singleton.mp h).symm
    · exact ih h

/-- A start of the text after the replacements, without what was put in, was one before them. -/
theorem prefix_of_replaceFrom {old new p s : Bytes} {n : UInt8} (hn : n ∉ p)
    (h : p <+: replaceFrom old (n :: new) 0 s) : p <+: s := by
  induction p generalizing s with
  | nil => exact nil_prefix
  | cons a p ih =>
    cases s with
    | nil => exact h
    | cons c s =>
      rw [replaceFrom] at h
      split at h
      · exact absurd (cons_prefix_cons.mp h).1 fun heq => hn (heq ▸ mem_cons_self)
      · obtain ⟨rfl, hrest⟩ := cons_prefix_cons.mp h
        exact cons_prefix_cons.mpr ⟨rfl, ih (fun hp => hn (mem_cons_of_mem _ hp)) hrest⟩

theorem not_infix_replaceFrom (s : Bytes) : ∀ skip,
    ¬ escapedSlash <:+: replaceFrom escapedSlash [slash] skip s := by
  induction s with
  | nil => exact fun skip h => absurd (infix_nil.mp h) (by decide)
  | cons c s ih =>
    intro skip h
    cases skip with
    | succ skip => exact ih skip h
    | zero =>
      rw [replaceFrom] at h
      split at h
      · rcases infix_cons_iff.mp h with h | h
        · exact absurd (cons_prefix_cons.mp h).1 (by decide)
        · exact ih _ h
      next hno =>
        rcases infix_cons_iff.mp h with h | h
        · obtain ⟨hc, h⟩ := cons_prefix_cons.mp h
          have hrest := prefix_of_replaceFrom (by decide) h
          exact hno <| isPrefixOf_iff_prefix.mpr (cons_prefix_cons.mpr ⟨hc, hrest⟩)
        · exact ih 0 h

theorem unescape_escapeReplyTo {t : Bytes} (h : ¬ escapedSlash <:+: t) :
    replaceAll escapedSlash [slash] (escapeReplyTo t) = t := by
  induction t with
  | nil => rfl
  | cons c t ih =>
    have ih := ih fun hin => h (infix_cons hin)
    rw [escapeReplyTo_cons]
    split
    next hc =>
      subst hc
      exact congrArg (slash :: ·) ih
    · show replaceFrom escapedSlash [slash] 0 (c :: escapeReplyTo t) = _
      have hno : escapedSlash.isPrefixOf (c :: escapeReplyTo t) = false := by
        refine Bool.eq_false_iff.mpr fun hstart => h (IsPrefix.isInfix ?_)
        obtain ⟨hc, hstart⟩ := cons_prefix_cons.mp <| isPrefixOf_iff_prefix.mp hstart
        exact cons_prefix_cons.mpr ⟨hc, prefix_of_replaceFrom (by decide) hstart⟩
      rw [replaceFrom, hno]
      exact congrArg (c :: ·) ih

/-- The topic comes back, unless it has the escape sequence in it. -/
theorem replyTo_round_trip (c : Bytes) {t : Bytes} (ht : t ≠ []) :
    (replyToFromV311Topic (c ++ replyToKey ++ escapeReplyTo t) c = some t ↔
      ¬ escapedSlash <:+: t) ∧ slash ∉ escapeReplyTo t := by
  have hescaped : escapeReplyTo t ≠ [] := by
    obtain ⟨d, t, rfl⟩ := exists_cons_of_ne_nil ht
    rw [escapeReplyTo_cons]
    split <;> simp [escapedSlash, ascii]
  have hreply : replyToFromV311Topic (c ++ replyToKey ++ escapeReplyTo t) c =
      some (replaceAll escapedSlash [slash] (escapeReplyTo t)) := by
    simp [replyToFromV311Topic, hescaped]
  rw [hreply, Option.some.injEq]
  refine ⟨⟨fun h => ?_, unescape_escapeReplyTo⟩, slash_notMem_escapeReplyTo t⟩
  rw [← h]
  exact not_infix_replaceFrom _ 0

theorem replyTo_round_trip_agent :
    replyToFromV311Topic (ascii "c" ++ replyToKey ++ escapeReplyTo (ascii "usp/a")) (ascii "c") =
      some (ascii "usp/a") :=
  (replyTo_round_trip (ascii "c") (by decide)).1.mpr (by decide)

/-- The escape sequence comes back as a slash. -/
theorem replyTo_escape_lost :
    replyToFromV311Topic (ascii "c/reply-to=" ++ escapeReplyTo (ascii "a%2Fb")) (ascii "c") =
      some (ascii "a/b") := by
  decide +kernel

end Acs.Endpoint
