/-
Patterns of SQL's `LIKE`.

`%` stands for any text and `_` for any character, and a character after the escape
character for itself.  A pattern that ends in the escape character is an error there and
no pattern here.
-/
import Mathlib.Data.List.Basic

namespace Like

inductive Token where
  | lit (c : Char)
  | one
  | many

/-- Read a pattern. -/
def parse (esc : Char) : List Char → Option (List Token)
  | [] => some []
  | [c] => if c = esc then none else some [token c]
  | c :: d :: rest =>
    if c = esc then (parse esc rest).map (.lit d :: ·)
    else (parse esc (d :: rest)).map (token c :: ·)
where
  token (c : Char) : Token :=
    if c = '%' then .many else if c = '_' then .one else .lit c

def accepts : List Token → List Char → Bool
  | [], text => text.isEmpty
  | .many :: ts, text => text.tails.any (accepts ts ·)
  | .one :: ts, text => !text.isEmpty && accepts ts text.tail
  | .lit c :: ts, text => text.head? = some c && accepts ts text.tail

/-- `text LIKE pattern ESCAPE esc` -/
def like (esc : Char) (pattern text : List Char) : Bool :=
  (parse esc pattern).any (accepts · text)

/-- Put the escape character before every character that is not itself in a pattern. -/
def escape (esc : Char) (text : List Char) : List Char :=
  text.flatMap fun c => if c = esc ∨ c = '%' ∨ c = '_' then [esc, c] else [c]

end Like
