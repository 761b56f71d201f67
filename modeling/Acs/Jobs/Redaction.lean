/-
The two functions that blank the secrets of a payload: `redact_payload_secrets` of
migration 0086, and `RedactPayloadSecrets` of `internal/parameters/secrets.go`.

Both walk the whole document.  The first decides with SQL's three truth values, the
second changes a decoded document in place and reports whether it did.  A number is
an integer, which `float64` keeps.  Nesting is not bounded: neither the depth limit
of `encoding/json` nor PostgreSQL's stack limit is modelled.
-/
import Acs.Jobs.Job
import Acs.Lib.Json

namespace Acs

open Json (field)

/-! ### In the database -/

/-- SQL's truth values; `none` is NULL. -/
abbrev SqlBool := Option Bool

namespace SqlBool

def and : SqlBool → SqlBool → SqlBool
  | some false, _ | _, some false => some false
  | some true, some true => some true
  | _, _ => none

def or : SqlBool → SqlBool → SqlBool
  | some true, _ | _, some true => some true
  | some false, some false => some false
  | _, _ => none

end SqlBool

/-- `jsonb_typeof(v) = 'string'`. -/
def isString : Option Json → SqlBool
  | none => none
  | some (.str _) => some true
  | some _ => some false

/-- A string as text.  What other values look like as text makes no difference, since
the code asks for a string first. -/
def stringText : Option Json → Option String
  | some (.str s) => some s
  | _ => none

namespace Sql

variable (lower : String → String)

/-- `lower(s) ~ pattern`. -/
def matchesPattern (s : String) : Bool :=
  ["password", "passphrase", "secret", "psk", "presharedkey", "privatekey"].any
    (Text.contains (lower s) ·)

/-- `secret_name` of an object. -/
def secretNameOf (fields : List (String × Json)) : SqlBool :=
  (isString (field fields "name")).and
    ((stringText (field fields "name")).map (matchesPattern lower))

/-- The condition under which a field is replaced. -/
def replaces (secretName : SqlBool) (key : String) (value : Json) : SqlBool :=
  ((isString (some value)).and
    ((stringText (some value)).map fun s => decide (s ∉ ["", redactedMark]))).and
      (SqlBool.or (some (matchesPattern lower key))
        (SqlBool.and (some (decide (key = "value"))) secretName))

mutual

/-- `redact_payload_secrets`. -/
def redactPayloadSecrets : Json → Json
  | .obj fields => .obj (redactFields (secretNameOf lower fields) fields)
  | .arr items => .arr (redactItems items)
  | doc => doc

/-- `jsonb_object_agg` over the fields. -/
def redactFields (secretName : SqlBool) : List (String × Json) → List (String × Json)
  | [] => []
  | (key, value) :: rest =>
    (key, if replaces lower secretName key value = some true then .str redactedMark
      else redactPayloadSecrets value) :: redactFields secretName rest

/-- `jsonb_agg` over the elements. -/
def redactItems : List Json → List Json
  | [] => []
  | item :: rest => redactPayloadSecrets item :: redactItems rest

end

end Sql

/-! ### In Go -/

namespace Go

/-- The string still has to be replaced. -/
def redactable (s : String) : Bool := s ≠ "" && s ≠ redactedMark

/-- The object is an entry for a secret parameter. -/
def secretEntry (fields : List (String × Json)) : Bool :=
  match field fields "name" with
  | some (.str name) => secretName name
  | _ => false

mutual

/-- The document as `redactJSONSecrets` leaves it, and whether it has changed. -/
def redactJSONSecrets : Json → Json × Bool
  | .obj fields =>
    (.obj (redactObject (secretEntry fields) fields).1, (redactObject (secretEntry fields) fields).2)
  | .arr items => (.arr (redactArray items).1, (redactArray items).2)
  | node => (node, false)

/-- The loop over the fields.  A `value` beside a secret name has been replaced before
the loop, which then finds it done. -/
def redactObject (entry : Bool) : List (String × Json) → List (String × Json) × Bool
  | [] => ([], false)
  | (k, v) :: rest =>
    let field : Json × Bool :=
      match v with
      | .str s =>
        if entry && k = "value" && redactable s then (.str redactedMark, true)
        else if redactable s && secretName k then (.str redactedMark, true)
        else (.str s, false)
      | node => redactJSONSecrets node
    ((k, field.1) :: (redactObject entry rest).1, field.2 || (redactObject entry rest).2)

def redactArray : List Json → List Json × Bool
  | [] => ([], false)
  | v :: rest =>
    ((redactJSONSecrets v).1 :: (redactArray rest).1, (redactJSONSecrets v).2 || (redactArray rest).2)

end

/-- `RedactPayloadSecrets` of a payload that decodes to the given document. -/
def redactPayloadSecrets (doc : Json) : Json :=
  if !(redactJSONSecrets doc).2 then doc else (redactJSONSecrets doc).1

end Go

end Acs
