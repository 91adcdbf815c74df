/-!
# Blank characters

The characters a reader does not see at either end of a name, an operator or a
numeral: the 25 code points with the Unicode property `White_Space`. Trimming
removes them from both ends of a text and never from its middle.
-/

namespace BoundSql.Text

/-- The code points with the property `White_Space`. The zero-width space and the other
characters that are drawn as nothing do not have it, so they are never trimmed. -/
def isBlank (c : Char) : Bool :=
  let code := c.toNat
  (9 ≤ code && code ≤ 13) || code == 0x20 || code == 0x85 || code == 0xA0 || code == 0x1680 ||
    (0x2000 ≤ code && code ≤ 0x200A) || code == 0x2028 || code == 0x2029 || code == 0x202F ||
    code == 0x205F || code == 0x3000

/-- The characters between the first and the last one that is not blank, with the blanks among
them. Of a text without any such character nothing is left. -/
def trimChars (text : List Char) : List Char :=
  ((text.dropWhile isBlank).reverse.dropWhile isBlank).reverse

/-- A text without the blanks at its ends. -/
def trim (text : String) : String :=
  String.ofList (trimChars text.toList)

end BoundSql.Text
