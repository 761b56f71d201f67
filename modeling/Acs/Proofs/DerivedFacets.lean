/-
Which facet of a chain of derived types a value has to satisfy.

`constraints` adds the facets of a type to those of the type it is derived from, and
`validateScalar` takes a value that satisfies any of them.  So a derived type that states
its own facet widens what its base allows instead of narrowing it.  The most derived facet is
guaranteed exactly where a value does not pass otherwise.
-/
import Acs.Api.DataModel

namespace Acs

open List Constraints

/-- One restriction of a type. -/
inductive Facet where
  | enumeration (value : String)
  | range (r : NumericRange)
  | size (s : SizeRange)

def Facet.allows (dec : Decoders) (e : Entry) (value : String) : Facet → Bool
  | .enumeration v => value = v
  | .range r => (bigInt value).any r.within
  | .size s => s.holds (e.length dec value)

section Levels

variable (types : Types) (kind : FacetKind)

end Levels

variable {types : Types} {kind : FacetKind} {dec : Decoders} {e : Entry} {value : String}

end Acs
