import BoundSql.Text.Digits
import BoundSql.Yaml.Cursor

/-!
# Scalars

Plain and quoted scalars may go on over several lines: blanks at the line breaks
fall away, a single break becomes a space and of several breaks all but the first
are kept. Block scalars keep their lines, or fold them in the same way, below a
common indentation. Every reader returns the text and the cursor behind it, or
nothing if the scalar is malformed.
-/

namespace BoundSql.Yaml

/-- What lies between two words: blanks, or line breaks once there is one. Blanks around line
breaks are not kept. -/
structure Gap where
  blanks : List Char := []
  firstBreak : Option (List Char) := none
  moreBreaks : List Char := []

/-- A gap as it counts between two words. Only a newline folds; the separators of Unicode stay
and do not become a space. -/
def Gap.text (gap : Gap) : List Char :=
  match gap.firstBreak with
  | none => gap.blanks
  | some ['\n'] => if gap.moreBreaks.isEmpty then [' '] else gap.moreBreaks
  | some first => first ++ gap.moreBreaks

namespace Cursor

/-- The rest of a gap. Behind a line break, a tab before column `indent` is refused. -/
def gapWithin? (indent : Int) : Nat → Gap → Cursor → Option (Gap × Cursor)
  | 0, gap, cursor => some (gap, cursor)
  | fuel + 1, gap, cursor =>
    match cursor.rest with
    | [] => some (gap, cursor)
    | c :: _ =>
      if isBlank c then
        if gap.firstBreak.isSome then
          if c == '\t' && (cursor.column : Int) < indent then
            none
          else
            gapWithin? indent fuel gap (cursor.skip 1)
        else
          gapWithin? indent fuel { gap with blanks := gap.blanks ++ [c] } (cursor.skip 1)
      else if isBreak c then
        let (text, after) := cursor.takeBreak
        if gap.firstBreak.isSome then
          gapWithin? indent fuel { gap with moreBreaks := gap.moreBreaks ++ text } after
        else
          gapWithin? indent fuel { gap with blanks := [], firstBreak := some text } after
      else
        some (gap, cursor)

/-- The gap at the cursor, going on from a part of it. -/
def gap? (cursor : Cursor) (indent : Int) (start : Gap) : Option (Gap × Cursor) :=
  cursor.gapWithin? indent (cursor.rest.length + 1) start

end Cursor

/-! ## Plain scalars -/

/-- The characters that are indicators inside flow collections; outside of them they are text. -/
def isFlowIndicator (c : Char) : Bool :=
  [',', '[', ']', '\x7b', '\x7d'].contains c

/-- The word of a plain scalar at the start of a text. Inside flow collections a colon right before
another indicator is refused. -/
def plainWord? (inFlow : Bool) : List Char → Option (List Char)
  | [] => some []
  | c :: rest =>
    if isBlank c || isBreak c then
      some []
    else if inFlow && c == ':' &&
        rest.head?.any (fun next => next == '?' || isFlowIndicator next) then
      none
    else if (c == ':' && endsWord rest) || (inFlow && isFlowIndicator c) then
      some []
    else
      (plainWord? inFlow rest).map (c :: ·)

/-- A scalar, the cursor behind it, and whether line breaks lie between, in which case a key may
start there. -/
structure PlainScalar where
  text : List Char
  behind : Cursor
  brokeLine : Bool

/-- The rest of a plain scalar after some words and a gap. A comment, a mark of the document or
a line that is not deep enough ends it. -/
def plainWithin? (inFlow : Bool) (indent : Int) :
    Nat → List Char → Gap → Cursor → Option PlainScalar
  | 0, _, _, _ => none
  | fuel + 1, text, gap, cursor =>
    let finished : PlainScalar := ⟨text, cursor, gap.firstBreak.isSome⟩
    if cursor.atDocumentMark || cursor.rest.head? == some '#' then
      some finished
    else do
      let word ← plainWord? inFlow cursor.rest
      if word.isEmpty then
        pure finished
      else
        let text := text ++ gap.text ++ word
        let behind := cursor.skip word.length
        let (gap, next) ← behind.gap? indent {}
        if next.index == behind.index then
          pure ⟨text, behind, false⟩
        else if !inFlow && (next.column : Int) < indent then
          pure ⟨text, next, gap.firstBreak.isSome⟩
        else
          plainWithin? inFlow indent fuel text gap next

/-- The plain scalar at the cursor, in a block of a given indentation. -/
def plainScalar? (inFlow : Bool) (indent : Int) (cursor : Cursor) : Option PlainScalar :=
  plainWithin? inFlow (indent + 1) (cursor.rest.length + 1) [] {} cursor

/-! ## Quoted scalars -/

/-- A part of a quoted scalar without blanks and breaks: its text, the number of characters it
takes, and whether an escaped line break ends it. -/
structure QuotedWord where
  text : List Char
  length : Nat
  escapedBreak : Bool

/-- The word with a further character in front. -/
def QuotedWord.before (c : Char) (length : Nat) (word : QuotedWord) : QuotedWord :=
  { word with text := c :: word.text, length := word.length + length }

/-- A word between single quotes; a quote inside is written twice, and nothing else is an
escape. -/
def singleQuotedWord : List Char → QuotedWord
  | [] => ⟨[], 0, false⟩
  | '\'' :: '\'' :: rest => (singleQuotedWord rest).before '\'' 2
  | c :: rest =>
    if c == '\'' || isBlank c || isBreak c then
      ⟨[], 0, false⟩
    else
      (singleQuotedWord rest).before c 1

/-- The character that a letter behind a backslash means. Escapes with a code are read apart
from these. -/
def escapedChar? : Char → Option Char
  | '0' => some '\x00'
  | 'a' => some '\x07'
  | 'b' => some '\x08'
  | 't' | '\t' => some '\t'
  | 'n' => some '\n'
  | 'v' => some '\x0b'
  | 'f' => some '\x0c'
  | 'r' => some '\r'
  | 'e' => some '\x1b'
  | ' ' => some ' '
  | '"' => some '"'
  | '/' => some '/'
  | '\\' => some '\\'
  | 'N' => some '\u0085'
  | '_' => some '\u00a0'
  | 'L' => some '\u2028'
  | 'P' => some '\u2029'
  | _ => none

/-- A word between double quotes. An escape without a meaning and a backslash at the end of the
text are refused. -/
def doubleQuotedWithin? : Nat → List Char → Option QuotedWord
  | 0, _ => none
  | fuel + 1, text =>
    match text with
    | [] => some ⟨[], 0, false⟩
    | '\\' :: c :: rest =>
      if isBreak c then
        some ⟨[], 1, true⟩
      else
        match Text.codeLength? c with
        | some length =>
          let digits := rest.take length
          if digits.length < length then
            none
          else do
            let meant ← Text.charOfHex? digits
            let word ← doubleQuotedWithin? fuel (rest.drop length)
            pure (word.before meant (2 + length))
        | none => do
          let meant ← escapedChar? c
          let word ← doubleQuotedWithin? fuel rest
          pure (word.before meant 2)
    | c :: rest =>
      if c == '\\' then
        none
      else if c == '"' || isBlank c || isBreak c then
        some ⟨[], 0, false⟩
      else do
        let word ← doubleQuotedWithin? fuel rest
        pure (word.before c 1)

/-- A word between quotes, up to the first blank, break or closing quote. -/
def quotedWord? (double : Bool) (text : List Char) : Option QuotedWord :=
  if double then doubleQuotedWithin? (text.length + 1) text else some (singleQuotedWord text)

/-- The rest of a quoted scalar after some text, with the cursor behind its closing quote. The
end of the text and a mark of the document are refused inside of it. -/
def quotedWithin? (double : Bool) : Nat → List Char → Cursor → Option (List Char × Cursor)
  | 0, _, _ => none
  | fuel + 1, text, cursor =>
    if cursor.atDocumentMark then
      none
    else do
      let word ← quotedWord? double cursor.rest
      let text := text ++ word.text
      let behind := cursor.skip word.length
      let next := if word.escapedBreak then behind.takeBreak.2 else behind
      match next.rest with
      | [] => none
      | c :: _ =>
        if c == (if double then '"' else '\'') then
          pure (text, next.skip 1)
        else
          let start : Gap := if word.escapedBreak then { firstBreak := some [] } else {}
          let (gap, next) ← next.gap? 0 start
          quotedWithin? double fuel (text ++ gap.text) next

/-- The quoted scalar at the cursor, which stands on its opening quote. -/
def quotedScalar? (double : Bool) (cursor : Cursor) : Option (List Char × Cursor) :=
  quotedWithin? double (cursor.rest.length + 1) [] (cursor.skip 1)

/-! ## Block scalars -/

/-- What becomes of the line breaks at the end of a block scalar. -/
inductive Chomping
  | strip
  | clip
  | keep
deriving DecidableEq

/-- The chomping that a sign asks for; without a sign a block scalar keeps one break at its end. -/
def chomping? : Char → Option Chomping
  | '-' => some .strip
  | '+' => some .keep
  | _ => none

/-- The indentation that a digit asks for; there is none of zero. -/
def indentation? (c : Char) : Option Nat :=
  if '1' ≤ c ∧ c ≤ '9' then some (c.toNat - '0'.toNat) else none

/-- The header of a block scalar: a chomping sign and an indentation digit, in any order. -/
def blockHeader? (cursor : Cursor) : Option (Chomping × Option Nat × Cursor) :=
  match cursor.rest with
  | [] => some (.clip, none, cursor)
  | c :: rest =>
    match chomping? c with
    | some chomping =>
      match rest with
      | [] => some (chomping, none, cursor.skip 1)
      | d :: _ =>
        if d.isDigit then
          (indentation? d).map fun indent => (chomping, some indent, cursor.skip 2)
        else
          some (chomping, none, cursor.skip 1)
    | none =>
      if c.isDigit then do
        let indent ← indentation? c
        match rest.head?.bind chomping? with
        | some chomping => pure (chomping, some indent, cursor.skip 2)
        | none => pure (.clip, some indent, cursor.skip 1)
      else
        some (.clip, none, cursor)

/-- The breaks of empty lines, the cursor in the first line that is not empty, and the greatest
column reached. `indent` is the indentation if it is known; tabs may not stand in it. -/
def emptyLinesWithin? (indent : Option Nat) :
    Nat → List Char → Nat → Cursor → Option (List Char × Nat × Cursor)
  | 0, breaks, widest, cursor => some (breaks, widest, cursor)
  | fuel + 1, breaks, widest, cursor =>
    let spaces := (cursor.rest.takeWhile (· == ' ')).length
    let count := match indent with
      | none => spaces
      | some indent => min spaces (indent - cursor.column)
    let cursor := cursor.skip count
    let widest := max widest cursor.column
    let below := match indent with
      | none => true
      | some indent => cursor.column < indent
    match cursor.rest with
    | [] => some (breaks, widest, cursor)
    | c :: _ =>
      if below && c == '\t' then
        none
      else if isBreak c then
        let (text, after) := cursor.takeBreak
        emptyLinesWithin? indent fuel (breaks ++ text) widest after
      else
        some (breaks, widest, cursor)

/-- The breaks of empty lines and the cursor behind them, with the greatest column reached, from
which the indentation is told if none was asked for. -/
def emptyLines? (indent : Option Nat) (cursor : Cursor) : Option (List Char × Nat × Cursor) :=
  emptyLinesWithin? indent (cursor.rest.length + 1) [] 0 cursor

/-- The lines of a block scalar so far. The breaks behind the last line are kept apart, because
what becomes of them depends on the next line or on the end. -/
structure BlockText where
  text : List Char := []
  /-- The break of the last line. -/
  lastBreak : List Char := []
  /-- The breaks of the empty lines behind it. -/
  emptyBreaks : List Char := []
  /-- Whether the last line starts with a blank, so that it is not folded. -/
  indented : Bool := false

/-- What joins the last line with the next one. Lines that start with a blank keep the breaks
around them even in a folded scalar. -/
def BlockText.joint (block : BlockText) (folded nextIndented : Bool) : List Char :=
  if folded && block.lastBreak.head? == some '\n' && !block.indented && !nextIndented then
    if block.emptyBreaks.isEmpty then [' '] else block.emptyBreaks
  else
    block.lastBreak ++ block.emptyBreaks

/-- The further lines of a block scalar at an indentation; a line that is less deep ends it. -/
def blockLinesWithin? (folded : Bool) (indent : Nat) :
    Nat → BlockText → Cursor → Option (BlockText × Cursor)
  | 0, block, cursor => some (block, cursor)
  | fuel + 1, block, cursor =>
    if cursor.column != indent || cursor.rest.isEmpty then
      some (block, cursor)
    else do
      let indented := cursor.rest.head?.any isBlank
      let line := cursor.rest.takeWhile fun c => !isBreak c
      let (lastBreak, after) := (cursor.skip line.length).takeBreak
      let (emptyBreaks, _, next) ← emptyLines? (some indent) after
      let text := block.text ++ block.joint folded indented ++ line
      blockLinesWithin? folded indent fuel ⟨text, lastBreak, emptyBreaks, indented⟩ next

/-- The block scalar at the cursor, which stands on its indicator, in a block of a given
indentation. -/
def blockScalar? (folded : Bool) (outer : Int) (cursor : Cursor) :
    Option (List Char × Cursor) := do
  let (chomping, asked, header) ← blockHeader? (cursor.skip 1)
  let blanks := header.skipWhile isBlank
  let comment := if blanks.rest.head? == some '#' then blanks.skipToBreak else blanks
  if !endsLine comment.rest then
    none
  else
    let content := comment.takeBreak.2
    let known := asked.map fun indent => (max outer 0).toNat + indent
    let (breaks, widest, first) ← emptyLines? known content
    let indent := known.getD (max (max widest (outer + 1).toNat) 1)
    let start : BlockText := { emptyBreaks := breaks }
    let (block, behind) ← blockLinesWithin? folded indent (first.rest.length + 1) start first
    let ending := match chomping with
      | .strip => []
      | .clip => block.lastBreak
      | .keep => block.lastBreak ++ block.emptyBreaks
    pure (block.text ++ ending, behind)

end BoundSql.Yaml
