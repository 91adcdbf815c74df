import BoundSql.Text.Digits
import BoundSql.Text.Visibility

/-!
# Quoted text in messages

A message shows a name or a value between double quotes, so that its ends and
any unusual character in it can be seen. Quotes and backslashes are escaped,
the common controls have short escapes, and every other character that has no
visible form, or that would join its neighbour, is written by its code point.
-/

namespace BoundSql.Text

/-- One character of a quoted text. A character that would be drawn on top of the opening quote
is escaped everywhere, not only behind the quote. -/
def quotedChar (c : Char) : String :=
  match c with
  | '\x00' => "\\0"
  | '\t' => "\\t"
  | '\r' => "\\r"
  | '\n' => "\\n"
  | '\\' => "\\\\"
  | '"' => "\\\""
  | c =>
    if isAttached c || isHidden c then
      "\\u\x7b" ++ hexadecimal 1 c.toNat ++ "\x7d"
    else
      String.singleton c

/-- A text between double quotes, with every character in a visible form. Different texts are
quoted differently, so a message tells them apart. -/
def quoted (text : String) : String :=
  "\"" ++ String.join (text.toList.map quotedChar) ++ "\""

/-- Quoted texts in brackets, separated by commas. The quotes keep a comma inside a text from
being taken for a separator. -/
def quotedList (texts : List String) : String :=
  "[" ++ ", ".intercalate (texts.map quoted) ++ "]"

end BoundSql.Text
