/-
The bundled data-model dictionary (`internal/datamodel/dictionary.go`): what an element of
the document says about the values of a parameter, and the check of a value.
-/
import Acs.Jobs.Repository
import Mathlib.Algebra.Group.Int.Defs

namespace Acs

/-! ### Numbers -/

/-- The value of a text of decimal digits. -/
def decimal (s : String) : Nat :=
  s.toList.foldl (fun n c => 10 * n + (c.toNat - '0'.toNat)) 0

def digits (s : String) : Option Nat :=
  if s ≠ "" && s.toList.all isDigit then some (decimal s) else none

/-- `strconv.ParseUint(s, 10, bits)`. -/
def parseUint10 (s : String) (bits : Nat) : Option Nat :=
  (digits s).filter (· < 2 ^ bits)

/-- `(*big.Int).SetString(s, 10)`. -/
def bigInt (s : String) : Option Int :=
  match Text.cutPrefix s "-" with
  | some rest => (digits rest).map fun n => -(n : Int)
  | none => (digits (Text.trimPrefix s "+")).map Int.ofNat

/-- `strconv.ParseInt(s, 10, bits)`. -/
def parseInt10 (s : String) (bits : Nat) : Option Int :=
  (bigInt s).filter fun v => -2 ^ (bits - 1) ≤ v && v < 2 ^ (bits - 1)

/-! ### Elements of the document -/

structure Node where
  tag : String := ""
  ref : String := ""
  base : String := ""
  value : String := ""
  minInclusive : String := ""
  maxInclusive : String := ""
  minLength : Int := 0
  maxLength : Int := 0
  children : List Node := []

structure NumericRange where
  (min max : String)

structure SizeRange where
  (min max : Int)

structure Constraints where
  enums : List String := []
  ranges : List NumericRange := []
  sizes : List SizeRange := []
  list : Bool := false

def Constraints.append (c d : Constraints) : Constraints :=
  ⟨c.enums ++ d.enums, c.ranges ++ d.ranges, c.sizes ++ d.sizes, c.list || d.list⟩

/-- The named types; one that is missing is an empty element. -/
abbrev Types := String → Node

/-- The type a `dataType` element refers to; the base goes before the reference. -/
def Node.parent (types : Types) (n : Node) : Option Node :=
  if n.tag ≠ "dataType" then none
  else if n.base ≠ "" then some (types n.base)
  else if n.ref ≠ "" then some (types n.ref)
  else none

/-- What a child adds by itself; none when it is an element to look into. -/
def Node.facet (child : Node) : Option Constraints :=
  if child.tag = "enumeration" then some { enums := [child.value] }
  else if child.tag = "range" then some { ranges := [⟨child.minInclusive, child.maxInclusive⟩] }
  else if child.tag = "size" then some { sizes := [⟨child.minLength, child.maxLength⟩] }
  else if child.tag = "list" then some { list := true }
  else if child.tag ∈ ["description", "default", "pattern", "enumerationRef"] then some {}
  else none

/-- `constraints`, with as many levels left as the depth limit allows. -/
def constraints (types : Types) : Nat → Node → Constraints
  | 0, _ => {}
  | depth + 1, n =>
    n.children.foldl (fun out child => out.append (child.facet.getD (constraints types depth child)))
      ((n.parent types).elim {} (constraints types depth))

structure Entry where
  (kind type : String)
  constraints : Constraints

/-- The decoders of the Go library: base64 with the number of bytes. -/
structure Decoders where
  rfc3339Nano : String → Bool
  base64 : String → Option Nat

section

variable (dec : Decoders) (e : Entry) (value : String)

/-- The first check of `validateScalar`. -/
def Entry.lexical : Bool :=
  if e.type = "boolean" then value ∈ ["0", "1", "true", "false"]
  else if e.type = "int" then (parseInt10 value 32).isSome
  else if e.type = "long" then (parseInt10 value 64).isSome
  else if e.type = "unsignedInt" then (parseUint10 value 32).isSome
  else if e.type = "unsignedLong" then (parseUint10 value 64).isSome
  else if e.type = "dateTime" then dec.rfc3339Nano value
  else if e.type = "base64" then (dec.base64 value).isSome
  else if e.type = "hexBinary" then
    value.toList.length % 2 = 0 && value.toList.all fun c =>
      isDigit c || ('a' ≤ c && c ≤ 'f') || ('A' ≤ c && c ≤ 'F')
  else true

/-- A bound that is no number does not count. -/
def NumericRange.within (r : NumericRange) (v : Int) : Bool :=
  ((bigInt r.min).all (· ≤ v)) && (bigInt r.max).all (v ≤ ·)

def SizeRange.holds (s : SizeRange) (n : Int) : Bool :=
  s.min ≤ n && (s.max = 0 || n ≤ s.max)

/-- The length that `size` is about. -/
def Entry.length : Nat :=
  if e.type = "hexBinary" then value.utf8ByteSize / 2
  else if e.type = "base64" then (dec.base64 value).getD 0
  else value.utf8ByteSize

/-- `validateScalar`: the error. -/
def validateScalar : Option String :=
  let c := e.constraints
  if !e.lexical dec value then some ("invalid " ++ e.type ++ " value")
  else if c.enums ≠ [] && !(Text.hasPrefix value "X_" || value ∈ c.enums) then
    some "value is outside the standard enumeration"
  else if c.ranges.length > 0 && (bigInt value).isNone then some "invalid integer"
  else if c.ranges.length > 0 && !c.ranges.any fun r => (bigInt value).any r.within then
    some "value is outside the standard range"
  else if c.sizes.length > 0 && !c.sizes.any (·.holds (e.length dec value)) then
    some "value is outside the standard size limits"
  else none

/-- The items of a list, or the value itself. -/
def Entry.items : List String :=
  if !e.constraints.list then [value]
  else if value = "" then []
  else Text.split value ','

/-- `ValidateValue`: the error. -/
def validateValue (entries : StringMap Entry) (path value : String) : Option String :=
  match entries.lookup (normalizePath path) with
  | none => none
  | some e =>
    if e.kind ≠ "parameter" then some (path ++ " is a " ++ e.kind ++ ", not a parameter")
    else ((e.items value).findSome? (validateScalar dec e)).map fun err => path ++ ": " ++ err

end

end Acs
