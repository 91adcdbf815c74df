import BoundSql.Text.Alphanumeric
import BoundSql.Text.Blank
import BoundSql.Text.Digits

/-!
# Patterns for field values

A pattern is a regular expression. No event is ever matched with one, so all
that counts is whether it is well formed. Classes of letters and the pairs of
small and capital letters are known for bytes only: among characters, what needs
them is refused, and among bytes, what could match a part of a character. A
pattern stands in front of a closing brace and cannot hold one, so that no brace
opens anything in it.
-/

namespace BoundSql.Log.Pattern

/-- How a part of a pattern is read. Only the switches that change what is well formed are kept. -/
structure Mode where
  /-- Whether small and capital letters are the same. -/
  foldsCase : Bool := false
  /-- Whether it is about characters, and not about bytes. -/
  unicode : Bool := true
  /-- Whether blanks and comments in it are passed over. -/
  spaced : Bool := false

/-- A text behind blanks and comments; a comment goes on to the end of its line, and one that is
never ended takes the rest of the text. -/
def skipSpaces (inComment : Bool) : List Char → List Char
  | [] => []
  | c :: rest =>
    if inComment then skipSpaces (c != '\n') rest
    else if Text.isBlank c then skipSpaces false rest
    else if c == '#' then skipSpaces true rest
    else c :: rest

/-- A text behind what a mode passes over. -/
def Mode.skip (mode : Mode) (text : List Char) : List Char :=
  if mode.spaced then skipSpaces false text else text

/-! ## Single characters -/

/-- What one character or one escape stands for. Atoms that are well formed in the same places
are not told apart. -/
inductive Atom
  /-- A character, or the byte with its number. -/
  | literal (c : Char) (isByte : Bool)
  /-- The digits, the blanks or the characters of words, or all others. -/
  | shorthand (negated : Bool)
  /-- The start or the end of the text. -/
  | edge
  /-- The start or the end of a word, or any other place. -/
  | wordEdge

/-- The controls with a letter of their own, which may be escaped by that letter. -/
def controls : List (Char × Char) :=
  [('a', '\x07'), ('f', '\x0c'), ('t', '\t'), ('n', '\n'), ('r', '\r'), ('v', '\x0b')]

/-- Whether a backslash makes a character mean itself. Letters and digits are excluded, since
their escapes have or may get another meaning. -/
def isEscapable (c : Char) : Bool :=
  c.toNat < 0x80 && !c.isAlphanum && c != '<' && c != '>'

/-- What stands behind a backslash, and the rest. An escape with a code must have all of its
digits, and they must name a character. -/
def escape? : List Char → Option (Atom × List Char)
  | [] => none
  | c :: rest =>
    match Text.codeLength? c with
    | some length =>
      let digits := rest.take length
      if digits.length < length then
        none
      else
        (Text.charOfHex? digits).map fun meant => (.literal meant (c == 'x'), rest.drop length)
    | none =>
      if isEscapable c then some (.literal c false, rest)
      else if ['d', 's', 'w'].contains c then some (.shorthand false, rest)
      else if ['D', 'S', 'W'].contains c then some (.shorthand true, rest)
      else if ['A', 'z'].contains c then some (.edge, rest)
      else if ['b', 'B', '<', '>'].contains c then some (.wordEdge, rest)
      else (controls.lookup c).map fun meant => (.literal meant false, rest)

/-- Whether a mode admits an atom outside of brackets. Among characters what needs a table of
letters is refused; among bytes what could match a part of a character is. -/
def Mode.admits (mode : Mode) : Atom → Bool
  | .literal c isByte =>
    if mode.unicode then !mode.foldsCase else c.toNat < 0x80 || !(isByte || mode.foldsCase)
  | .shorthand negated => !mode.unicode && !negated
  | .edge => true
  | .wordEdge => !mode.unicode

/-- Whether a mode admits an atom inside brackets, where an edge has no meaning and folding is
checked for the class as a whole. -/
def Mode.admitsInside (mode : Mode) : Atom → Bool
  | .literal c _ => mode.unicode || c.toNat < 0x80
  | .shorthand negated => !mode.unicode && !negated
  | _ => false

/-! ## Classes in brackets -/

/-- The classes with a name. -/
def classNames : List String :=
  ["alnum", "alpha", "ascii", "blank", "cntrl", "digit", "graph", "lower", "print", "punct",
    "space", "upper", "word", "xdigit"]

/-- Whether a class that is named behind a bracket is negated, and what follows it. -/
def namedClass? : List Char → Option (Bool × List Char)
  | ':' :: rest =>
    let negated := rest.head? == some '^'
    let start := if negated then rest.drop 1 else rest
    let name := start.takeWhile (· != ':')
    match start.drop name.length with
    | ':' :: ']' :: behind =>
      if classNames.contains (String.ofList name) then some (negated, behind) else none
    | _ => none
  | _ => none

/-- A class behind its bracket and the characters that mean themselves at its start: hyphens, or a
closing bracket. -/
def openClass? (mode : Mode) (text : List Char) : Option (List Char) :=
  let start := mode.skip text
  let negated := start.head? == some '^'
  if negated && !mode.unicode then
    none
  else
    let items := if negated then mode.skip (start.drop 1) else start
    if items.head? == some ']' then
      some (items.drop 1)
    else
      some (items.dropWhile fun c => c == '-' || (mode.spaced && Text.isBlank c))

/-- An item of a class, and the rest. Inside brackets every character but the backslash means
itself. -/
def classAtom? : List Char → Option (Atom × List Char)
  | [] => none
  | '\\' :: rest => escape? rest
  | c :: rest => some (.literal c false, rest)

/-- What follows an item of a class or a range of them. A hyphen makes a range unless a closing
bracket or another hyphen follows, and the ends of a range must be in order. -/
def behindItem? (mode : Mode) (text : List Char) : Option (List Char) := do
  let (first, behind) ← classAtom? text
  let next := mode.skip behind
  let last := mode.skip (next.drop 1)
  if !mode.admitsInside first then
    none
  else if next.head? == some '-' && last.head? != some ']' && last.head? != some '-' then
    match first, ← classAtom? last with
    | .literal low _, (.literal high isByte, after) =>
      if low ≤ high && mode.admitsInside (.literal high isByte) then some after else none
    | _, _ => none
  else
    some next

/-- What follows a class that is open, inside of `depth` others. Every step takes a character,
so that the length of the text is enough fuel. -/
def behindClassWithin? (mode : Mode) : Nat → Nat → List Char → Option (List Char)
  | 0, _, _ => none
  | fuel + 1, depth, text =>
    match mode.skip text with
    | [] => none
    | '[' :: rest =>
      match namedClass? rest with
      | some (negated, behind) =>
        if negated && !mode.unicode then none else behindClassWithin? mode fuel depth behind
      | none => (openClass? mode rest).bind (behindClassWithin? mode fuel (depth + 1))
    | ']' :: rest => if depth = 0 then some rest else behindClassWithin? mode fuel (depth - 1) rest
    | '&' :: '&' :: rest | '-' :: '-' :: rest | '~' :: '~' :: rest =>
      behindClassWithin? mode fuel depth rest
    | items => (behindItem? mode items).bind (behindClassWithin? mode fuel depth)

/-- What follows a class; the text starts behind its bracket. Folding among characters would
need a table of letters, so that a class is refused there. -/
def behindClass? (mode : Mode) (text : List Char) : Option (List Char) :=
  if mode.unicode && mode.foldsCase then
    none
  else
    (openClass? mode text).bind (behindClassWithin? mode (text.length + 1) 0)

/-! ## Groups -/

/-- Where a pattern is being read: the mode, what a closing parenthesis returns to, and what has
been seen that forbids something later. -/
structure Reading where
  mode : Mode := {}
  /-- The modes of the groups around, the innermost first. -/
  outer : List Mode := []
  /-- The names of groups so far. -/
  names : List (List Char) := []
  /-- Whether there is something that can be repeated. -/
  repeatable : Bool := false

/-- Whether a group may have a name. It starts with a letter or an underscore; behind that
digits, points and brackets are allowed too. -/
def isGroupName : List Char → Bool
  | [] => false
  | c :: rest =>
    (c == '_' || (Text.isAlphanumeric c && !c.isDigit)) &&
      rest.all fun c => ['_', '.', '[', ']'].contains c || Text.isAlphanumeric c

/-- The mode that letters ask for, those behind a hyphen for its contrary, and what follows. No
letter may occur twice, and something must follow a hyphen. -/
def Mode.switch? (mode : Mode) (text : List Char) : Option (Mode × List Char) :=
  let letters := text.takeWhile fun c => c != ':' && c != ')'
  let on := letters.takeWhile (· != '-')
  let off := letters.drop on.length
  let state (letter : Char) (before : Bool) : Bool :=
    on.contains letter || (before && !off.contains letter)
  if letters.all "imsUuRx-".toList.contains && letters.Nodup && letters.getLast? != some '-' then
    some (⟨state 'i' mode.foldsCase, state 'u' mode.unicode, state 'x' mode.spaced⟩,
      text.drop letters.length)
  else
    none

/-- The start of a group with a name, which may be given once, and what follows. -/
def Reading.named? (reading : Reading) (text : List Char) : Option (Reading × List Char) :=
  let name := text.takeWhile (· != '>')
  if isGroupName name && !reading.names.contains name && name.length < text.length then
    some ({ reading with names := name :: reading.names }, text.drop (name.length + 1))
  else
    none

/-- The start of a group, or a switch of the mode for the rest of the group around, and what
follows; the text starts behind the parenthesis. -/
def Reading.enter? (reading : Reading) (text : List Char) : Option (Reading × List Char) :=
  let here := { reading with repeatable := false }
  let inside := { here with outer := reading.mode :: reading.outer }
  match reading.mode.skip text with
  | '?' :: 'P' :: '<' :: rest | '?' :: '<' :: rest => inside.named? rest
  | '?' :: ')' :: _ => none
  | '?' :: rest => do
    let (mode, behind) ← reading.mode.switch? rest
    match behind with
    | ':' :: after => pure ({ inside with mode }, after)
    | ')' :: after => pure ({ here with mode }, after)
    | _ => none
  | start => some (inside, start)

/-- Whether the rest of a pattern is well formed. Every step takes a character, so that the
length of the text is enough fuel. -/
def isFormedWithin : Nat → Reading → List Char → Bool
  | 0, _, _ => false
  | fuel + 1, reading, text =>
    let mode := reading.mode
    let next := isFormedWithin fuel { reading with repeatable := true }
    match mode.skip text with
    | [] => reading.outer.isEmpty
    | c :: rest =>
      match c with
      | '(' => (reading.enter? rest).any fun (inside, behind) => isFormedWithin fuel inside behind
      | ')' =>
        match reading.outer with
        | [] => false
        | mode :: outer => isFormedWithin fuel { reading with mode, outer, repeatable := true } rest
      | '|' => isFormedWithin fuel { reading with repeatable := false } rest
      | '[' => (behindClass? mode rest).any next
      | '\\' => (escape? rest).any fun (atom, behind) => mode.admits atom && next behind
      | '\x7b' => false
      | '.' => mode.unicode && next rest
      | '^' | '$' => next rest
      | '?' | '*' | '+' =>
        reading.repeatable && next (if rest.head? == some '?' then rest.drop 1 else rest)
      | c => mode.admits (.literal c false) && next rest

/-- Whether a pattern is well formed, read from its start in the mode without any switch and
outside of all groups. -/
def isFormed (text : List Char) : Bool :=
  isFormedWithin (text.length + 1) {} text

end BoundSql.Log.Pattern
