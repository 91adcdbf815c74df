import BoundSql.Text.Digits

/-!
# The tokens of a JSON text

Blanks separate tokens and mean nothing. A numeral keeps its digits and a string
its escapes undecoded as far as that can fail: whether a numeral fits a number
and whether a string is readable text matters only to those who ask for the
value.
-/

namespace BoundSql.Json

/-- A numeral, as its parts are written. The digits are kept as characters, so that those of a
fraction keep their leading zeros. -/
structure Numeral where
  negative : Bool
  integer : List Char
  fraction : Option (List Char)
  exponent : Option Int
deriving DecidableEq

/-- A piece of a string: a character, or a 16-bit unit written in hexadecimal. -/
inductive StringPiece
  | char (c : Char)
  | unit (code : Nat)
deriving DecidableEq

/-- A token. A closing bracket is one whether or not anything was opened: that brackets match is
for the grammar to check. -/
inductive Token
  | openArray
  | closeArray
  | openObject
  | closeObject
  | comma
  | colon
  | null
  | bool (value : Bool)
  | numeral (value : Numeral)
  | string (pieces : List StringPiece)
deriving DecidableEq

/-- The blanks of JSON. -/
def isSpace (c : Char) : Bool :=
  c == ' ' || c == '\t' || c == '\n' || c == '\r'

/-- The character behind a backslash, for the escapes of one letter. The slash may be escaped
and need not be. -/
def shortEscape? : Char → Option Char
  | '"' => some '"'
  | '\\' => some '\\'
  | '/' => some '/'
  | 'b' => some '\x08'
  | 'f' => some '\x0c'
  | 'n' => some '\n'
  | 'r' => some '\r'
  | 't' => some '\t'
  | _ => none

/-- The pieces of a string behind its opening quote, and what follows its closing one. Controls
below the space must be escaped. -/
def stringPieces? : List Char → Option (List StringPiece × List Char)
  | [] => none
  | '"' :: rest => some ([], rest)
  | '\\' :: 'u' :: a :: b :: c :: d :: rest => do
    let code ← Text.naturalOf? 16 [a, b, c, d]
    let (pieces, behind) ← stringPieces? rest
    pure (.unit code :: pieces, behind)
  | '\\' :: c :: rest => do
    let meant ← shortEscape? c
    let (pieces, behind) ← stringPieces? rest
    pure (.char meant :: pieces, behind)
  | c :: rest =>
    if c < ' ' || c == '\\' then
      none
    else do
      let (pieces, behind) ← stringPieces? rest
      pure (.char c :: pieces, behind)

/-- The digits at the start of a text, and the rest. There may be none; whether that is a fault
depends on the place. -/
def digits (text : List Char) : List Char × List Char :=
  (text.takeWhile Char.isDigit, text.dropWhile Char.isDigit)

/-- The fraction of a numeral, if its point comes next; digits must follow the point. -/
def fractionPart? : List Char → Option (Option (List Char) × List Char)
  | '.' :: rest =>
    let (fraction, behind) := digits rest
    if fraction.isEmpty then none else some (some fraction, behind)
  | rest => some (none, rest)

/-- The exponent of a numeral, if its letter comes next; digits must follow it and its sign. -/
def exponentPart? : List Char → Option (Option Int × List Char)
  | [] => some (none, [])
  | c :: rest =>
    if c == 'e' || c == 'E' then
      let (negative, unsigned) :=
        match rest with
        | '+' :: behind => (false, behind)
        | '-' :: behind => (true, behind)
        | behind => (false, behind)
      let (exponent, behind) := digits unsigned
      (Text.naturalOf? 10 exponent).map fun value =>
        (some (if negative then -(value : Int) else value), behind)
    else
      some (none, c :: rest)

/-- The numeral at the start of a text without its sign. A zero stands alone before the point. -/
def unsignedNumeral? (negative : Bool) (text : List Char) : Option (Numeral × List Char) := do
  let (integer, behind) := digits text
  if integer.isEmpty || (integer.length > 1 && integer.head? == some '0') then
    none
  else
    let (fraction, behind) ← fractionPart? behind
    let (exponent, behind) ← exponentPart? behind
    pure (⟨negative, integer, fraction, exponent⟩, behind)

/-- The token at the start of a text that does not start with a blank, and the rest. Two words
may follow each other without a blank as far as tokens go; the grammar refuses them. -/
def nextToken? : List Char → Option (Token × List Char)
  | '[' :: rest => some (.openArray, rest)
  | ']' :: rest => some (.closeArray, rest)
  | '\x7b' :: rest => some (.openObject, rest)
  | '\x7d' :: rest => some (.closeObject, rest)
  | ',' :: rest => some (.comma, rest)
  | ':' :: rest => some (.colon, rest)
  | 'n' :: 'u' :: 'l' :: 'l' :: rest => some (.null, rest)
  | 't' :: 'r' :: 'u' :: 'e' :: rest => some (.bool true, rest)
  | 'f' :: 'a' :: 'l' :: 's' :: 'e' :: rest => some (.bool false, rest)
  | '"' :: rest => (stringPieces? rest).map fun (pieces, behind) => (.string pieces, behind)
  | '-' :: rest => (unsignedNumeral? true rest).map fun (value, behind) => (.numeral value, behind)
  | text => (unsignedNumeral? false text).map fun (value, behind) => (.numeral value, behind)

/-- The tokens of a text. The fuel bounds their number; since every token takes a character, the
length of the text is always enough. -/
def tokensWithin? : Nat → List Char → Option (List Token)
  | 0, _ => none
  | fuel + 1, text =>
    match text.dropWhile isSpace with
    | [] => some []
    | c :: rest => do
      let (token, behind) ← nextToken? (c :: rest)
      let tokens ← tokensWithin? fuel behind
      pure (token :: tokens)

/-- The tokens of a text, if it consists of tokens and blanks. -/
def tokens? (text : String) : Option (List Token) :=
  tokensWithin? (text.length + 1) text.toList

end BoundSql.Json
