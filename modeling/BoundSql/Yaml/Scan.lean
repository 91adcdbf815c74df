import BoundSql.Yaml.Scalar
import BoundSql.Yaml.Tag

/-!
# From text to tokens

A text is read from left to right. Where a block collection is deeper than the
one around it, its start is a token; where a line is less deep, the ends of the
deeper collections are. Anything that could be a key is remembered until its
colon comes, in the same line and not too far away; the key token is then put in
front of it.
-/

namespace BoundSql.Yaml

/-- A place where a key may have started. It is remembered by its position among the tokens, in
front of which the key token is put when the colon comes. -/
structure PossibleKey where
  /-- Whether nothing but a key may stand there. -/
  required : Bool
  /-- The number of tokens before it. -/
  position : Nat
  line : Nat
  column : Nat
  index : Nat

/-- The state of reading. Tokens may still be put in front of earlier ones, so they are handed
on only at the end. -/
structure Scanner where
  cursor : Cursor
  /-- The tokens so far. -/
  tokens : Array Token := #[]
  /-- The indentation of the innermost block collection; below zero outside of all. -/
  indent : Int := -1
  /-- The indentations of the collections around it, the innermost first. -/
  outerIndents : List Int := []
  /-- The possible key of each flow collection, the innermost first, and of the blocks outside. -/
  keys : List (Option PossibleKey) := [none]
  /-- Whether a key may start here. -/
  keyAllowed : Bool := true

namespace Scanner

/-- Whether the scanner is inside a flow collection, where indentation means nothing. -/
def inFlow (scanner : Scanner) : Bool :=
  1 < scanner.keys.length

/-- The scanner with one more token, behind all others. -/
def emit (scanner : Scanner) (token : Token) : Scanner :=
  { scanner with tokens := scanner.tokens.push token }

/-- The scanner with a token at an earlier position; the tokens from there on move back by one. -/
def emitAt (scanner : Scanner) (position : Nat) (token : Token) : Scanner :=
  { scanner with tokens := scanner.tokens.insertIdxIfInBounds position token }

/-- The scanner at another cursor. Nothing else changes, so what was remembered may be out of
reach from there. -/
def moveTo (scanner : Scanner) (cursor : Cursor) : Scanner :=
  { scanner with cursor }

/-- The scanner with keys allowed from here on, or not. -/
def allowKeys (scanner : Scanner) (allowed : Bool) : Scanner :=
  { scanner with keyAllowed := allowed }

/-- A possible key that has not been overtaken by a new line or a great distance. -/
def freshKey? (cursor : Cursor) : Option PossibleKey → Option (Option PossibleKey)
  | none => some none
  | some key =>
    if key.line < cursor.line || key.index + 1024 < cursor.index then
      if key.required then none else some none
    else
      some (some key)

/-- The scanner without the possible keys that are too far away; one that is required is a fault. -/
def dropStaleKeys? (scanner : Scanner) : Option Scanner :=
  (scanner.keys.mapM (freshKey? scanner.cursor)).map fun keys => { scanner with keys }

/-- The scanner without the possible key of the innermost collection; one that is required is a
fault. -/
def dropKey? (scanner : Scanner) : Option Scanner :=
  match scanner.keys with
  | some key :: rest => if key.required then none else some { scanner with keys := none :: rest }
  | _ => some scanner

/-- The scanner with the cursor remembered as a possible key, if keys are allowed here. -/
def saveKey? (scanner : Scanner) : Option Scanner :=
  if scanner.keyAllowed then do
    let cleared ← scanner.dropKey?
    let cursor := scanner.cursor
    let key : PossibleKey :=
      { required := !scanner.inFlow && scanner.indent == (cursor.column : Int)
        position := scanner.tokens.size
        line := cursor.line
        column := cursor.column
        index := cursor.index }
    pure { cleared with keys := some key :: cleared.keys.tail }
  else
    some scanner

/-- The scanner in a deeper block collection, if the column is deeper; its start is put at a
position. -/
def deepen (scanner : Scanner) (column : Nat) (position : Nat) (start : Token) : Scanner :=
  if !scanner.inFlow && scanner.indent < (column : Int) then
    { scanner.emitAt position start with
      indent := column
      outerIndents := scanner.indent :: scanner.outerIndents }
  else
    scanner

/-- The scanner outside of the block collections that are deeper than a column. -/
def leave (column : Int) (scanner : Scanner) : Scanner :=
  if scanner.inFlow then
    scanner
  else
    let ended := (scanner.indent :: scanner.outerIndents).takeWhile (column < ·)
    let left := (scanner.indent :: scanner.outerIndents).drop ended.length
    { scanner with
      tokens := scanner.tokens ++ (ended.map fun _ => Token.blockEnd).toArray
      indent := left.headD (-1)
      outerIndents := left.tail }

/-- The cursor behind a byte order mark, which may start any line. It counts as a column. -/
def skipMark (cursor : Cursor) : Cursor :=
  if cursor.column == 0 && cursor.rest.head? == some '\uFEFF' then cursor.skip 1 else cursor

/-- The scanner at the start of the next token: behind blanks, comments and line breaks. -/
def skipBetweenWithin : Nat → Scanner → Scanner
  | 0, scanner => scanner
  | fuel + 1, scanner =>
    let tabs := scanner.inFlow || !scanner.keyAllowed
    let line := skipMark scanner.cursor
    let blanks := line.skipWhile fun c => c == ' ' || (tabs && c == '\t')
    let comment := if blanks.rest.head? == some '#' then blanks.skipToBreak else blanks
    if comment.rest.head?.any isBreak then
      let next := scanner.moveTo comment.takeBreak.2
      skipBetweenWithin fuel (if scanner.inFlow then next else next.allowKeys true)
    else
      scanner.moveTo comment

/-- The scanner at the start of the next token. Each line takes a character, so the length of
the text is enough fuel. -/
def skipBetween (scanner : Scanner) : Scanner :=
  skipBetweenWithin (scanner.cursor.rest.length + 1) scanner

/-- The scanner outside of all blocks, without a possible key, and with none allowed. -/
def endBlocks? (scanner : Scanner) : Option Scanner :=
  (scanner.leave (-1)).dropKey?.map fun outside => outside.allowKeys false

/-- A token of one character, or of three. The characters are not looked at again. -/
def indicator (scanner : Scanner) (token : Token) (length : Nat) : Scanner :=
  (scanner.moveTo (scanner.cursor.skip length)).emit token

/-- The start of a flow collection, which may itself be the start of a key. -/
def openFlow? (scanner : Scanner) (token : Token) : Option Scanner := do
  let saved ← scanner.saveKey?
  pure (({ saved with keys := none :: saved.keys }.allowKeys true).indicator token 1)

/-- The end of a flow collection. That the bracket fits the opening one is not checked here but
when nodes are read. -/
def closeFlow? (scanner : Scanner) (token : Token) : Option Scanner := do
  let cleared ← scanner.dropKey?
  let keys := if cleared.inFlow then cleared.keys.tail else cleared.keys
  pure (({ cleared with keys }.allowKeys false).indicator token 1)

/-- A comma in a flow collection. Outside of one it is a token all the same, and no node can be
read from it. -/
def flowEntry? (scanner : Scanner) : Option Scanner := do
  let cleared ← scanner.dropKey?
  pure ((cleared.allowKeys true).indicator .flowEntry 1)

/-- A hyphen in front of an item. It starts a collection if it is deeper than the one around it. -/
def blockEntry? (scanner : Scanner) : Option Scanner := do
  if !scanner.inFlow && !scanner.keyAllowed then
    none
  else
    let deeper := scanner.deepen scanner.cursor.column scanner.tokens.size .blockSequenceStart
    let cleared ← deeper.dropKey?
    pure ((cleared.allowKeys true).indicator .blockEntry 1)

/-- A question mark in front of a key. Unlike a key that is found by its colon, what follows may
take several lines. -/
def key? (scanner : Scanner) : Option Scanner := do
  if !scanner.inFlow && !scanner.keyAllowed then
    none
  else
    let deeper := scanner.deepen scanner.cursor.column scanner.tokens.size .blockMappingStart
    let cleared ← deeper.dropKey?
    pure ((cleared.allowKeys (!scanner.inFlow)).indicator .key 1)

/-- A colon: the key is what was remembered as possible, or was announced before. -/
def value? (scanner : Scanner) : Option Scanner :=
  match scanner.keys with
  | some key :: rest =>
    let marked := scanner.emitAt key.position .key
    let deeper := marked.deepen key.column key.position .blockMappingStart
    some (({ deeper with keys := none :: rest }.allowKeys false).indicator .value 1)
  | _ =>
    if !scanner.inFlow && !scanner.keyAllowed then
      none
    else
      let deeper := scanner.deepen scanner.cursor.column scanner.tokens.size .blockMappingStart
      some ((deeper.allowKeys (!scanner.inFlow)).indicator .value 1)

/-- A token that may be a key or the start of one, read by a reader. Behind it no other key may
start. -/
def word? (scanner : Scanner) (read? : Cursor → Option (Token × Cursor)) : Option Scanner := do
  let saved ← scanner.saveKey?
  let (token, behind) ← read? scanner.cursor
  pure (((saved.allowKeys false).moveTo behind).emit token)

/-- A plain scalar. Behind its last line break a key may start. -/
def plain? (scanner : Scanner) : Option Scanner := do
  let saved ← scanner.saveKey?
  let read ← plainScalar? scanner.inFlow scanner.indent scanner.cursor
  pure (((saved.allowKeys read.brokeLine).moveTo read.behind).emit (.scalar .plain read.text))

/-- A block scalar. It is never a key, and a new line starts behind it. -/
def block? (scanner : Scanner) (folded : Bool) : Option Scanner := do
  let cleared ← scanner.dropKey?
  let (text, behind) ← blockScalar? folded scanner.indent scanner.cursor
  let style := if folded then Style.folded else Style.literal
  pure (((cleared.allowKeys true).moveTo behind).emit (.scalar style text))

/-- The characters with which no plain scalar starts, unless what follows allows it. -/
def isIndicator (c : Char) : Bool :=
  "-?:,[]#&*!|>'\"%@\x60\x7b\x7d".toList.contains c

/-- Whether a plain scalar may start here. A hyphen, a question mark and a colon may start one
if a word goes on behind them. -/
def startsPlain (inFlow : Bool) : List Char → Bool
  | [] => false
  | c :: rest =>
    !(isBlank c || isBreak c || isIndicator c) ||
      (c == '-' && !rest.head?.any isBlank) ||
      (!inFlow && (c == '?' || c == ':') && !endsWord rest)

/-- The scanner behind the next token, which starts at the cursor. Directives and marks of the
document count only at the start of a line. -/
def token? (scanner : Scanner) : Option Scanner :=
  let cursor := scanner.cursor
  let inFlow := scanner.inFlow
  let plain := if startsPlain inFlow cursor.rest then scanner.plain? else none
  match cursor.rest with
  | [] => none
  | c :: rest =>
    if cursor.column == 0 && c == '%' then do
      let outside ← scanner.endBlocks?
      let (token, behind) ← directive? cursor
      pure ((outside.moveTo behind).emit token)
    else if cursor.atDocumentMark then
      scanner.endBlocks?.map fun outside =>
        outside.indicator (if c == '-' then .documentStart else .documentEnd) 3
    else
      match c with
      | '[' => scanner.openFlow? .flowSequenceStart
      | '\x7b' => scanner.openFlow? .flowMappingStart
      | ']' => scanner.closeFlow? .flowSequenceEnd
      | '\x7d' => scanner.closeFlow? .flowMappingEnd
      | ',' => scanner.flowEntry?
      | '-' => if endsWord rest then scanner.blockEntry? else plain
      | '?' => if inFlow || endsWord rest then scanner.key? else plain
      | ':' => if inFlow || endsWord rest then scanner.value? else plain
      | '*' => scanner.word? fun start => (anchorName? start).map fun (name, behind) =>
        (.alias name, behind)
      | '&' => scanner.word? fun start => (anchorName? start).map fun (name, behind) =>
        (.anchor name, behind)
      | '!' => scanner.word? fun start => (tag? inFlow start).map fun (handle, suffix, behind) =>
        (.tag handle suffix, behind)
      | '|' => if inFlow then none else scanner.block? false
      | '>' => if inFlow then none else scanner.block? true
      | '\'' => scanner.word? fun start => (quotedScalar? false start).map fun (text, behind) =>
        (.scalar .singleQuoted text, behind)
      | '"' => scanner.word? fun start => (quotedScalar? true start).map fun (text, behind) =>
        (.scalar .doubleQuoted text, behind)
      | _ => plain

/-- All tokens from the cursor on; every token takes a character. -/
def finishWithin? : Nat → Scanner → Option (Array Token)
  | 0, _ => none
  | fuel + 1, scanner => do
    let fresh ← scanner.skipBetween.dropStaleKeys?
    let here := fresh.leave fresh.cursor.column
    if here.cursor.rest.isEmpty then
      let outside ← here.endBlocks?
      pure outside.tokens
    else
      let after ← here.token?
      finishWithin? fuel after

end Scanner

/-- The tokens of a text. A single character that no text may hold refuses all of it. -/
def tokens? (text : String) : Option (List Token) :=
  let chars := text.toList
  if chars.all isPrintable then
    (Scanner.finishWithin? (chars.length + 1) { cursor := ⟨chars, 0, 0, 0⟩ }).map Array.toList
  else
    none

end BoundSql.Yaml
