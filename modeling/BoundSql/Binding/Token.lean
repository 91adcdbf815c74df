/-!
# Placeholder tokens

A bound value is named in a statement by a word of small letters: `a` to `z`,
then `aa`, `ab` and so on, as the columns of a spreadsheet are named. There is no
digit zero in this numbering, so every word names exactly one index and shorter
words come first.
-/

namespace BoundSql

/-- The name of a bound value. Any text can be one here; the words that registries give out are
those of the numbering. -/
structure Token where
  text : String
deriving DecidableEq

namespace Token

/-- Tokens are ordered as texts, by their bytes. -/
instance : Ord Token := ⟨fun first second => compare first.text second.text⟩

/-- The letter with an index below 26. A larger index counts round again and is never asked for. -/
def letter (index : Nat) : Char :=
  Char.ofNat ('a'.toNat + index % 26)

/-- The letters of the word with an index, before letters that are already there. The last
letter is found first, and the index in front of it is smaller by one, as there is no digit
zero. -/
def lettersBefore (index : Nat) (behind : List Char) : List Char :=
  if index < 26 then
    letter index :: behind
  else
    lettersBefore (index / 26 - 1) (letter index :: behind)

/-- The token with an index, counted from zero. There is one for every index, however large. -/
def nth (index : Nat) : Token :=
  ⟨String.ofList (lettersBefore index [])⟩

/-- The token as it stands in a statement: between braces. Quotes around it are not part of it;
they are added for textual values only. -/
def placeholder (token : Token) : String :=
  "\x7b" ++ token.text ++ "\x7d"

end Token

end BoundSql
