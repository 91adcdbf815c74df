import BoundSql.Yaml.Node
import BoundSql.Yaml.Scan

/-!
# From tokens to a document

A text holds one document at most. Collections are read from a way to read their
nodes, with as many steps as there are tokens; a node that is left out, as the
value behind a colon at the end of a line may be, is an empty scalar.

An anchor gets its number where its node starts: the number of names that are
known by then. A name that is used again keeps its place among the names, so the
number after it may be given twice.
-/

namespace BoundSql.Yaml

/-- What is left to read, and the names of the anchors so far with their numbers. Names count
from the start of the document and are not limited to a collection. -/
structure Progress where
  tokens : List Token
  names : List (List Char × Nat) := []

/-- Reading from the tokens, which may fail. A failure says nothing about its place. -/
abbrev Reader := StateT Progress Option

/-- What the handles of tags stand for; a handle that was declared goes before one that every
document knows. -/
abbrev Handles := List (List Char × Uri)

/-- Where a node stands, which decides about the collections it may be. -/
inductive Place
  /-- In a document or in an item of a block sequence. -/
  | block
  /-- In a key or a value of a block mapping, whose sequence may be as deep as the mapping. -/
  | field
  /-- In a flow collection. -/
  | flow
deriving DecidableEq

namespace Reader

/-- The next token, which stays where it is. -/
def peek : Reader (Option Token) := do
  return (← get).tokens.head?

/-- Passes over the next token. -/
def advance : Reader Unit :=
  modify fun progress => { progress with tokens := progress.tokens.tail }

/-- Passes over the next token if it is the expected one, and otherwise leaves everything as it
is. -/
def accept (token : Token) : Reader Bool := do
  if (← peek) == some token then
    advance
    return true
  else
    return false

/-- Passes over the next token, which must be the expected one. -/
def expect (token : Token) : Reader Unit := do
  if !(← accept token) then
    failure

/-- Whether the next token is among the given ones; at the end of the tokens it is not. -/
def facing (tokens : List Token) : Reader Bool := do
  return (← peek).any tokens.contains

/-- A node that may be left out in front of the given tokens. The token in front of which it is
left out stays. -/
def orEmpty (ends : List Token) (node : Reader Node) : Reader Node := do
  if ← facing ends then
    return .empty
  else
    node

/-- The number of a name from here on. Aliases further on point to it, and those before keep the
number they got. -/
def number (name : List Char) : Reader Nat := do
  let progress ← get
  let number := progress.names.length
  let others := progress.names.filter (·.1 != name)
  set { progress with names := (name, number) :: others }
  return number

/-- The anchor at the next token, if there is one. -/
def anchor : Reader (Option Nat) := do
  match ← peek with
  | some (.anchor name) =>
    advance
    return some (← number name)
  | _ => return none

/-- The tag at the next token, if there is one. Its handle must be known. -/
def tag (handles : Handles) : Reader (Option Uri) := do
  match ← peek with
  | some (.tag [] suffix) =>
    advance
    return some suffix
  | some (.tag handle suffix) =>
    advance
    match handles.lookup handle with
    | some start => return some (start ++ suffix)
    | none => failure
  | _ => return none

/-- Anchor and tag of a node, each at most once and in either order. -/
def properties (handles : Handles) : Reader (Option Nat × Option Uri) := do
  match ← anchor with
  | some number => return (some number, ← tag handles)
  | none =>
    match ← tag handles with
    | some tag => return (← anchor, some tag)
    | none => return (none, none)

/-- The items of a block sequence up to its end. -/
def blockItems (node : Place → Reader Node) : Nat → Reader (List Node)
  | 0 => failure
  | fuel + 1 => do
    if ← accept .blockEnd then
      return []
    else
      expect .blockEntry
      let item ← orEmpty [.blockEntry, .blockEnd] (node .block)
      return item :: (← blockItems node fuel)

/-- The items of a block sequence that is as deep as the mapping around it. The first token that
starts no item ends it. -/
def fieldItems (node : Place → Reader Node) : Nat → Reader (List Node)
  | 0 => failure
  | fuel + 1 => do
    if ← accept .blockEntry then
      let item ← orEmpty [.blockEntry, .key, .value, .blockEnd] (node .block)
      return item :: (← fieldItems node fuel)
    else
      return []

/-- The value of a block mapping, if there is one; a key without a colon has an empty value. -/
def blockValue (node : Place → Reader Node) : Reader Node := do
  if ← accept .value then
    orEmpty [.key, .value, .blockEnd] (node .field)
  else
    return .empty

/-- The entries of a block mapping up to its end. Every entry must start with a key token, which
may come with an empty key. -/
def blockEntries (node : Place → Reader Node) : Nat → Reader (List (Node × Node))
  | 0 => failure
  | fuel + 1 => do
    if ← accept .blockEnd then
      return []
    else
      expect .key
      let key ← orEmpty [.key, .value, .blockEnd] (node .field)
      let value ← blockValue node
      return (key, value) :: (← blockEntries node fuel)

/-- The value of an entry in a flow collection, if there is one before the collection ends. -/
def flowValue (node : Place → Reader Node) (close : Token) : Reader Node := do
  if ← accept .value then
    orEmpty [.flowEntry, close] (node .flow)
  else
    return .empty

/-- The key of an entry that stands in a flow sequence. Where it is left out, the token in its
place goes with it. -/
def pairKey (node : Place → Reader Node) : Reader Node := do
  if ← facing [.value, .flowEntry, .flowSequenceEnd] then
    advance
    return .empty
  else
    node .flow

/-- An item of a flow sequence. An entry with a key is a mapping of its own. -/
def flowItem (node : Place → Reader Node) : Reader Node := do
  if ← accept .key then
    let key ← pairKey node
    let value ← flowValue node .flowSequenceEnd
    return .mapping none [(key, value)]
  else
    node .flow

/-- The items of a flow sequence up to its end, with a comma before each but the first. A comma
before the end is allowed and adds no item. -/
def flowItems (node : Place → Reader Node) : Nat → Bool → Reader (List Node)
  | 0, _ => failure
  | fuel + 1, isFirst => do
    let separated ← if isFirst then pure true else accept .flowEntry
    if ← accept .flowSequenceEnd then
      return []
    else if separated then
      let item ← flowItem node
      return item :: (← flowItems node fuel false)
    else
      failure

/-- An entry of a flow mapping. Without a key token in front it has no value. -/
def flowEntry (node : Place → Reader Node) : Reader (Node × Node) := do
  if ← accept .key then
    let key ← orEmpty [.value, .flowEntry, .flowMappingEnd] (node .flow)
    return (key, ← flowValue node .flowMappingEnd)
  else
    return (← node .flow, .empty)

/-- The entries of a flow mapping up to its end, with a comma before each but the first. A comma
before the end is allowed and adds no entry. -/
def flowEntries (node : Place → Reader Node) : Nat → Bool → Reader (List (Node × Node))
  | 0, _ => failure
  | fuel + 1, isFirst => do
    let separated ← if isFirst then pure true else accept .flowEntry
    if ← accept .flowMappingEnd then
      return []
    else if separated then
      let entry ← flowEntry node
      return entry :: (← flowEntries node fuel false)
    else
      failure

/-- The content of a node behind its anchor and tag. Without content one of these must be there. -/
def content (node : Place → Reader Node) (fuel : Nat) (place : Place) (anchor : Option Nat)
    (tag : Option Uri) : Reader Node := do
  match ← peek, place with
  | some .blockEntry, .field => return .sequence anchor (← fieldItems node fuel)
  | some (.scalar style text), _ =>
    advance
    return .scalar anchor tag style text
  | some .flowSequenceStart, _ =>
    advance
    return .sequence anchor (← flowItems node fuel true)
  | some .flowMappingStart, _ =>
    advance
    return .mapping anchor (← flowEntries node fuel true)
  | next, place =>
    if place != .flow && next == some .blockSequenceStart then
      advance
      return .sequence anchor (← blockItems node fuel)
    else if place != .flow && next == some .blockMappingStart then
      advance
      return .mapping anchor (← blockEntries node fuel)
    else if anchor.isNone && tag.isNone then
      failure
    else
      return .scalar anchor tag .plain []

/-- A node. Every node under it starts behind a token of its own, so the number of tokens bounds
the depth. -/
def node (handles : Handles) : Nat → Place → Reader Node
  | 0, _ => failure
  | fuel + 1, place => do
    match ← peek with
    | some (.alias name) =>
      advance
      match (← get).names.lookup name with
      | some target => return .alias target
      | none => failure
    | _ =>
      let (anchor, tag) ← properties handles
      content (node handles fuel) fuel place anchor tag

/-- The handles that are declared in front of a document. Neither a handle nor the version may be
declared twice, and the version must be a known one. -/
def directives (versionAllowed : Bool) : Nat → Handles → Reader Handles
  | 0, _ => failure
  | fuel + 1, handles => do
    match ← peek with
    | some (.version major minor) =>
      advance
      if versionAllowed && major == 1 && (minor == 1 || minor == 2) then
        directives false fuel handles
      else
        failure
    | some (.tagDirective handle start) =>
      advance
      if (handles.lookup handle).isSome then
        failure
      else
        directives versionAllowed fuel (handles ++ [(handle, start)])
    | _ => return handles

/-- The handles every document knows, if it does not declare them itself. -/
def knownHandles : Handles :=
  [(['!'], .ofText "!"), (['!', '!'], .ofText "tag:yaml.org,2002:")]

/-- Whether a document needs no line of hyphens in front: there is a token, and it is neither a
directive nor that line. -/
def startsBare (next : Option Token) : Bool :=
  match next with
  | none | some (.version _ _) | some (.tagDirective _ _) | some .documentStart => false
  | _ => true

/-- Whether a document has nothing behind its line of hyphens. -/
def endsBare (next : Option Token) : Bool :=
  match next with
  | none | some (.version _ _) | some (.tagDirective _ _) | some .documentStart
  | some .documentEnd => true
  | _ => false

/-- A document with what is in front of it. Directives are allowed only with a line of hyphens
behind them. -/
def document (fuel : Nat) : Reader Node := do
  if startsBare (← peek) then
    node knownHandles fuel .block
  else
    let handles ← directives true fuel []
    expect .documentStart
    if endsBare (← peek) then
      return .empty
    else
      node (handles ++ knownHandles) fuel .block

end Reader

/-- The tree of a text, which is an empty scalar if there is nothing in it. After the document only
lines of three points may follow. -/
def Node.ofText? (text : String) : Option Node := do
  let tokens ← tokens? text
  if tokens.isEmpty then
    return .empty
  else
    let (root, progress) ← (Reader.document (2 * tokens.length + 2)).run { tokens }
    if progress.tokens.all (· == .documentEnd) then
      return root
    else
      none

end BoundSql.Yaml
