import BoundSql.Text.Digits
import BoundSql.Yaml.Cursor

/-!
# Tags, anchors and directives

The words behind the indicators `!`, `&`, `*` and `%`. Each reader starts behind
its indicator or on it, as its comment says, and returns nothing if the word is
malformed. Escapes in a tag write bytes, whose shape has to be that of UTF-8; what
they encode does not matter.
-/

namespace BoundSql.Yaml

/-- The name of an anchor, and the cursor behind it; the cursor stands on the indicator. -/
def anchorName? (cursor : Cursor) : Option (List Char × Cursor) :=
  let start := cursor.skip 1
  let name := start.rest.takeWhile isNameChar
  let behind := start.skip name.length
  let ends := endsWord behind.rest ||
    behind.rest.head?.any fun c => ['?', ':', ',', ']', '\x7d', '%', '@', '\x60'].contains c
  if name.isEmpty || !ends then none else some (name, behind)

/-- The number of bytes of a character in UTF-8 that starts with a byte; bytes that cannot start
one have none. -/
def encodedLength? (byte : Nat) : Option Nat :=
  if byte < 0x80 then some 1
  else if 0xC0 ≤ byte ∧ byte < 0xE0 then some 2
  else if 0xE0 ≤ byte ∧ byte < 0xF0 then some 3
  else if 0xF0 ≤ byte ∧ byte < 0xF8 then some 4
  else none

/-- Whether a byte goes on with a character in UTF-8, which says nothing about the character. -/
def isContinuation (byte : Nat) : Bool :=
  0x80 ≤ byte && byte < 0xC0

/-- As many bytes, each written as a percent sign and two hexadecimal digits. -/
def escapedBytes? : Nat → List Char → Option (List Nat × List Char)
  | 0, text => some ([], text)
  | count + 1, '%' :: a :: b :: rest => do
    let byte ← Text.naturalOf? 16 [a, b]
    let (bytes, behind) ← escapedBytes? count rest
    pure (byte :: bytes, behind)
  | _ + 1, _ => none

/-- The bytes of the escaped character at the start of a text, and the rest. The length must fit
the first byte; that the character exists is not checked. -/
def escapedUriChar? (text : List Char) : Option (List UInt8 × List Char) := do
  let (first, _) ← escapedBytes? 1 text
  let length ← first.head?.bind encodedLength?
  let (bytes, rest) ← escapedBytes? length text
  if bytes.tail.all isContinuation then
    some (bytes.map UInt8.ofNat, rest)
  else
    none

/-- The characters of a tag without escapes; some only inside angle brackets. -/
def isUriChar (verbatim : Bool) (c : Char) : Bool :=
  isNameChar c || ";/?:@&=+$.!~*'()".toList.contains c || (verbatim && [',', '[', ']'].contains c)

/-- The bytes of a tag at the start of a text, and the number of characters they take. -/
def uriWithin? (verbatim : Bool) : Nat → List Char → Option (List UInt8 × Nat)
  | 0, _ => none
  | _ + 1, [] => some ([], 0)
  | fuel + 1, c :: rest =>
    if c == '%' then do
      let (meant, behind) ← escapedUriChar? (c :: rest)
      let (uri, length) ← uriWithin? verbatim fuel behind
      pure (meant ++ uri, length + (rest.length + 1 - behind.length))
    else if isUriChar verbatim c then do
      let (uri, length) ← uriWithin? verbatim fuel rest
      pure (c.toUInt8 :: uri, length + 1)
    else
      some ([], 0)

/-- The bytes of a tag at the cursor, and the cursor behind them. There may be none; whether
that is a fault depends on the kind of the tag. -/
def uri? (verbatim : Bool) (cursor : Cursor) : Option (List UInt8 × Cursor) :=
  (uriWithin? verbatim (cursor.rest.length + 1) cursor.rest).map fun (uri, length) =>
    (uri, cursor.skip length)

/-- What a tag starts with: an exclamation mark, a name, and perhaps another mark. The cursor stands
on the first mark. -/
def tagHandle (cursor : Cursor) : List Char × Cursor :=
  let name := (cursor.rest.drop 1).takeWhile isNameChar
  let behind := cursor.skip (1 + name.length)
  if behind.rest.head? == some '!' then
    ('!' :: name ++ ['!'], behind.skip 1)
  else
    ('!' :: name, behind)

/-- A tag in angle brackets; the cursor stands on its mark. It has no handle. -/
def verbatimTag? (cursor : Cursor) : Option (List Char × Uri × Cursor) := do
  let (bytes, behind) ← uri? true (cursor.skip 2)
  if bytes.isEmpty || behind.rest.head? != some '>' then
    none
  else
    some ([], .ofBytes bytes, behind.skip 1)

/-- A tag without angle brackets: a handle between two marks and a suffix, or a suffix alone, whose
handle is a single mark. The mark alone is a tag without a handle. -/
def shortTag? (cursor : Cursor) : Option (List Char × Uri × Cursor) := do
  let (handle, behind) := tagHandle cursor
  let (bytes, after) ← uri? false behind
  if handle.length > 1 && handle.getLast? == some '!' then
    if bytes.isEmpty then none else some (handle, .ofBytes bytes, after)
  else
    let suffix := Uri.ofBytes ((handle.drop 1).map Char.toUInt8 ++ bytes)
    if suffix.isEmpty then some ([], .ofText "!", after) else some (['!'], suffix, after)

/-- A tag as handle and suffix, and the cursor behind it; the cursor stands on its mark. A blank
or the end of the line must follow, or in a flow collection a comma. -/
def tag? (inFlow : Bool) (cursor : Cursor) : Option (List Char × Uri × Cursor) := do
  let (handle, suffix, behind) ←
    if cursor.rest[1]? == some '<' then verbatimTag? cursor else shortTag? cursor
  if (inFlow && behind.rest.head? == some ',') || endsWord behind.rest then
    some (handle, suffix, behind)
  else
    none

/-- A number of at most nine digits, and the cursor behind it. -/
def versionNumber? (cursor : Cursor) : Option (Nat × Cursor) :=
  let digits := cursor.rest.takeWhile Char.isDigit
  if digits.length > 9 then
    none
  else
    (Text.naturalOf? 10 digits).map fun number => (number, cursor.skip digits.length)

/-- The version behind the name of its directive. Any two numbers will do here; which versions
are known is asked later. -/
def versionDirective? (cursor : Cursor) : Option (Token × Cursor) := do
  let (major, point) ← versionNumber? (cursor.skipWhile isBlank)
  if point.rest.head? != some '.' then
    none
  else
    let (minor, behind) ← versionNumber? (point.skip 1)
    pure (.version major minor, behind)

/-- The handle and what it stands for behind the name of their directive, with blanks between
the two. -/
def tagDirective? (cursor : Cursor) : Option (Token × Cursor) := do
  let start := cursor.skipWhile isBlank
  if start.rest.head? != some '!' then
    none
  else
    let (handle, behind) := tagHandle start
    if handle.length > 1 && handle.getLast? != some '!' then
      none
    else if !behind.rest.head?.any isBlank then
      none
    else
      let (bytes, after) ← uri? true (behind.skipWhile isBlank)
      if bytes.isEmpty || !endsWord after.rest then
        none
      else
        some (.tagDirective handle (.ofBytes bytes), after)

/-- A directive with its line, and the cursor in the next line; the cursor stands on the percent
sign. Directives with other names are refused. -/
def directive? (cursor : Cursor) : Option (Token × Cursor) := do
  let start := cursor.skip 1
  let name := start.rest.takeWhile isNameChar
  let behind := start.skip name.length
  if name.isEmpty || !endsWord behind.rest then
    none
  else
    let (token, after) ←
      if name == "YAML".toList then versionDirective? behind
      else if name == "TAG".toList then tagDirective? behind
      else none
    let blanks := after.skipWhile isBlank
    let comment := if blanks.rest.head? == some '#' then blanks.skipToBreak else blanks
    if endsLine comment.rest then some (token, comment.takeBreak.2) else none

end BoundSql.Yaml
