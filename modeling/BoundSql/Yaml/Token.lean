/-!
# The tokens of a YAML text

Indentation is part of the grammar: the start of a block collection and its end
are tokens of their own, and so is the key that turns out to be one only when
its colon is reached. Scalars have their text already, with line breaks folded
and escapes read.
-/

namespace BoundSql.Yaml

/-- How a scalar is written. Readers ask for it only to tell numbers from texts. -/
inductive Style
  | plain
  | singleQuoted
  | doubleQuoted
  | literal
  | folded
deriving DecidableEq

/-- What a tag stands for, in bytes: escapes may write any of them. -/
abbrev Uri := List UInt8

/-- The URI that a text writes as it is, without reading escapes in it. -/
def Uri.ofText (text : String) : Uri :=
  text.toUTF8.data.toList

/-- What a URI says: a zero byte ends it. -/
def Uri.ofBytes (bytes : List UInt8) : Uri :=
  bytes.takeWhile (· != 0)

/-- A token. The content of scalars is complete in it, while aliases, anchors and tags only have
their names. -/
inductive Token
  | version (major minor : Nat)
  | tagDirective (handle : List Char) (start : Uri)
  | documentStart
  | documentEnd
  | blockSequenceStart
  | blockMappingStart
  | blockEnd
  | flowSequenceStart
  | flowSequenceEnd
  | flowMappingStart
  | flowMappingEnd
  | blockEntry
  | flowEntry
  | key
  | value
  | alias (name : List Char)
  | anchor (name : List Char)
  | tag (handle : List Char) (suffix : Uri)
  | scalar (style : Style) (text : List Char)
deriving DecidableEq

/-- A blank inside a line. Only a space counts for indentation. -/
def isBlank (c : Char) : Bool :=
  c == ' ' || c == '\t'

/-- A line break, or the first half of one. -/
def isBreak (c : Char) : Bool :=
  c == '\n' || c == '\r' || c == '\u0085' || c == '\u2028' || c == '\u2029'

/-- Whether a word or an indicator ends here: at a blank, a line break or the end of the text. -/
def endsWord : List Char → Bool
  | [] => true
  | c :: _ => isBlank c || isBreak c

/-- Whether a line ends here, at a break or at the end of the text. -/
def endsLine : List Char → Bool
  | [] => true
  | c :: _ => isBreak c

/-- A character of names of anchors, tags and directives: ASCII letters and digits, the
underscore and the hyphen. -/
def isNameChar (c : Char) : Bool :=
  c.isAlphanum || c == '_' || c == '-'

/-- The characters a text may hold. A byte order mark is among them, other controls than tabs
and line breaks are not. -/
def isPrintable (c : Char) : Bool :=
  let code := c.toNat
  code == 0x09 || code == 0x0A || code == 0x0D || (0x20 ≤ code && code ≤ 0x7E) || code == 0x85 ||
    (0xA0 ≤ code && code ≤ 0xD7FF) || (0xE000 ≤ code && code ≤ 0xFFFD) || 0x10000 ≤ code

end BoundSql.Yaml
