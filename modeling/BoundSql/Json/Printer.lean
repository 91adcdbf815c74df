import BoundSql.Binary64.Layout
import BoundSql.Json.Basic
import BoundSql.Text.Digits

/-!
# Compact JSON text

The text of a tree, without blanks. Strings escape the quote, the backslash and
the controls below the space; everything else stands as it is. Doubles have the
fewest digits that read back, with a decimal point or an exponent, so that they
read back as doubles.
-/

namespace BoundSql.Json

/-- Doubles are positional from 0.00001 up to sixteen digits before the point, a tie between two
shortest decimals goes to the even one, and a positive exponent has its sign. -/
def numberLayout : Binary64.Layout where
  firstPositional := -5
  lastPositional := 15
  positiveExponent := "+"
  tie := .toEven
  nan := "null"
  infinite := "null"

/-- A number as written. An integer never has a point and a double always has one, or an
exponent, so that the kind of the number survives the text. -/
def Number.text : Number → String
  | .integer value _ => toString value
  | .float value _ => numberLayout.write value

/-- One character of a string as written. Controls without a letter of their own take four
hexadecimal digits; characters beyond ASCII are not escaped. -/
def escapedChar (c : Char) : String :=
  match c with
  | '"' => "\\\""
  | '\\' => "\\\\"
  | '\x08' => "\\b"
  | '\t' => "\\t"
  | '\n' => "\\n"
  | '\x0c' => "\\f"
  | '\r' => "\\r"
  | c => if c < ' ' then "\\u" ++ Text.hexadecimal 4 c.toNat else String.singleton c

/-- A string as written, with its quotes. -/
def stringText (value : String) : String :=
  "\"" ++ String.join (value.toList.map escapedChar) ++ "\""

mutual

/-- The compact text of a tree: no blanks, members in their order, and repeated keys written as
often as they occur. -/
def text : Json → String
  | .null => "null"
  | .bool value => toString value
  | .number value => value.text
  | .string value => stringText value
  | .array items => "[" ++ ",".intercalate (itemTexts items) ++ "]"
  | .object members => "\x7b" ++ ",".intercalate (memberTexts members) ++ "\x7d"

/-- The texts of the items of an array. -/
def itemTexts : List Json → List String
  | [] => []
  | item :: rest => text item :: itemTexts rest

/-- The texts of the members of an object, each a quoted key, a colon and the text of its value. -/
def memberTexts : List (String × Json) → List String
  | [] => []
  | (key, value) :: rest => (stringText key ++ ":" ++ text value) :: memberTexts rest

end

end BoundSql.Json
