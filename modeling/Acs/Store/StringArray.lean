/-
Text arrays (`internal/store/array.go`).

`StringArray.Value` quotes every element, Postgres only those that need it, and one scanner
reads both.
-/
import Acs.Lib.Escape
import Acs.Lib.Text

namespace Acs.StringArray

open List Text Escape

/-- An element in quotes. -/
def quoted (s : String) : String :=
  "\"" ++ String.ofList (escape '\\' '"' s.toList) ++ "\""

/-- A text in braces. -/
def braced (s : String) : String :=
  String.ofList ('{' :: s.toList ++ ['}'])

/-- An array, with its elements written in the given way. -/
def literal (write : String → String) (a : List String) : String :=
  braced (join (a.map write) ",")

/-- `Value`, where the nil slice is `none` and written as NULL. -/
def value : Option (List String) → Option String :=
  Option.map (literal quoted)

/-- Postgres writes the element in quotes. -/
def needsQuotes (s : String) : Bool :=
  s = "" || s.toList.map Char.toUpper = "NULL".toList ||
    s.toList.any (· ∈ ['{', '}', ',', '"', '\\', ' ', '\t', '\n', '\r', '\x0b', '\x0c'])

/-- An element as Postgres writes it. -/
def element (s : String) : String :=
  if needsQuotes s then quoted s else s

/-- The text Postgres makes of an array of one dimension without NULLs. -/
def arrayOut : List String → String :=
  literal element

/-- The elements read so far, and where the scanner is. -/
structure Scan where
  out : List String := []
  buf : List Char := []
  (inQuotes escaped : Bool := false)

/-- One rune. -/
def Scan.step (st : Scan) (r : Char) : Scan :=
  if st.escaped then { st with buf := st.buf ++ [r], escaped := false }
  else if r = '\\' then { st with escaped := true }
  else if r = '"' then { st with inQuotes := !st.inQuotes }
  else if r = ',' ∧ !st.inQuotes then
    { st with out := st.out ++ [String.ofList st.buf], buf := [] }
  else { st with buf := st.buf ++ [r] }

/-- What is read when the text ends. -/
def Scan.elements (st : Scan) : List String :=
  st.out ++ [String.ofList st.buf]

/-- `parsePostgresArray` -/
def parsePostgresArray (text : String) : List String :=
  let s := trimSpace text
  if s = "" ∨ s = braced "" then []
  else
    let inner := trimSuffix (trimPrefix s (String.singleton '{')) (String.singleton '}')
    (inner.toList.foldl Scan.step {}).elements

end Acs.StringArray
