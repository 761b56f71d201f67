/-
The texts that name a USP endpoint (`internal/usp/endpoint.go`, `internal/usp/mtp`).

An EndpointID is an authority and a percent-encoded instance.  An MQTT 3.1.1 agent puts the
topic it listens on behind the topic of the controller.  Go strings are byte strings, and so
are these.
-/
import Mathlib.Data.List.Infix
import Mathlib.Tactic.Basic

namespace Acs.Endpoint

open List

abbrev Bytes := List UInt8

def ascii (s : String) : Bytes :=
  s.toList.map fun c => UInt8.ofNat c.toNat

def percent : UInt8 := 37

/-! ### Substrings -/

/-- `strings.Cut`. -/
def cut (sep : Bytes) : Bytes → Option (Bytes × Bytes)
  | [] => if sep = [] then some ([], []) else none
  | c :: rest =>
    if sep.isPrefixOf (c :: rest) then some ([], (c :: rest).drop sep.length)
    else (cut sep rest).map fun x => (c :: x.1, x.2)

/-- The replacements of `strings.ReplaceAll` in what follows the next `skip` bytes. -/
def replaceFrom (old new : Bytes) : (skip : Nat) → Bytes → Bytes
  | _, [] => []
  | skip + 1, _ :: rest => replaceFrom old new skip rest
  | 0, c :: rest =>
    if old.isPrefixOf (c :: rest) then new ++ replaceFrom old new (old.length - 1) rest
    else c :: replaceFrom old new 0 rest

/-- `strings.ReplaceAll`, of a text that is not empty. -/
def replaceAll (old new s : Bytes) : Bytes :=
  replaceFrom old new 0 s

/-! ### Endpoint ids -/

def isUSPUnreserved (c : UInt8) : Bool :=
  (97 ≤ c && c ≤ 122) || (65 ≤ c && c ≤ 90) || (48 ≤ c && c ≤ 57) || c ∈ ascii "-._"

/-- A digit of `%X`. -/
def hexDigit (n : UInt8) : UInt8 :=
  if n < 10 then 48 + n else 65 + (n - 10)

def percentEncodeUSP (s : Bytes) : Bytes :=
  s.flatMap fun c =>
    if isUSPUnreserved c then [c] else [percent, hexDigit (c / 16), hexDigit (c % 16)]

def unhex (c : UInt8) : Option UInt8 :=
  if 48 ≤ c && c ≤ 57 then some (c - 48)
  else if 97 ≤ c && c ≤ 102 then some (c - 97 + 10)
  else if 65 ≤ c && c ≤ 70 then some (c - 65 + 10)
  else none

/-- The errors, with the offset of the escape. -/
inductive DecodeError
  | truncated (offset : Nat)
  | invalid (offset : Nat) (digit : UInt8)
  deriving DecidableEq

/-- The loop of `PercentDecodeUSP` at an offset. -/
def decodeFrom (offset : Nat) : Bytes → Except DecodeError Bytes
  | [] => .ok []
  | c :: rest =>
    if c ≠ percent then (decodeFrom (offset + 1) rest).map (c :: ·)
    else
      match rest with
      | hi :: lo :: rest =>
        match unhex hi, unhex lo with
        | none, _ => .error (.invalid offset hi)
        | _, none => .error (.invalid offset lo)
        | some h, some l => (decodeFrom (offset + 3) rest).map ((h <<< 4 ||| l) :: ·)
      | _ => .error (.truncated offset)

def percentDecodeUSP (s : Bytes) : Except DecodeError Bytes :=
  decodeFrom 0 s

def endpointSeparator : Bytes :=
  ascii "::"

def formatEndpointID (authority inst : Bytes) : Bytes :=
  authority ++ endpointSeparator ++ percentEncodeUSP inst

section

variable (e : Bytes)

/-- `split`; a malformed id has no authority. -/
def splitID : Option (Bytes × Bytes) :=
  (cut endpointSeparator e).filter (·.1 ≠ [])

/-- `Authority`. -/
def authority : Bytes :=
  (splitID e).elim [] (·.1)

/-- `Instance`. -/
def instanceOf : Bytes :=
  match splitID e with
  | none => []
  | some (_, inst) => (percentDecodeUSP inst).toOption.getD []

end

/-! ### Topics -/

def replyToKey : Bytes :=
  ascii "/reply-to="

def slash : UInt8 := 47

def escapedSlash : Bytes :=
  ascii "%2F"

def escapeReplyTo (agentTopic : Bytes) : Bytes :=
  replaceAll [slash] escapedSlash agentTopic

def replyToFromV311Topic (publishedTopic controllerTopic : Bytes) : Option Bytes :=
  let start := controllerTopic ++ replyToKey
  if !start.isPrefixOf publishedTopic then none
  else
    let escaped := publishedTopic.drop start.length
    if escaped = [] then none else some (replaceAll escapedSlash [slash] escaped)

end Acs.Endpoint
