import BoundSql.Binary64.Literal
import BoundSql.Json.Basic
import BoundSql.Json.Token

/-!
# JSON syntax trees

What a text says before its numerals and strings are read. A syntax tree exists
for every text of the JSON grammar, however deep and whatever its numbers.
Reading a syntax tree (`resolve?`) asks for more: numerals that fit a number,
strings without lone surrogates, and at most 127 arrays and objects inside each
other. A part of a text that nobody asks for is never read, so only its syntax
counts.
-/

namespace BoundSql.Json

/-- The text of a string, unless a surrogate stands alone in it. Only units written in
hexadecimal can be surrogates, and a high one with the low one behind it is a single character. -/
def stringOf? : List StringPiece → Option (List Char)
  | [] => some []
  | .char c :: rest => (stringOf? rest).map (c :: ·)
  | .unit code :: rest =>
    if 0xD800 ≤ code ∧ code < 0xDC00 then
      match rest with
      | .unit low :: behind =>
        if 0xDC00 ≤ low ∧ low < 0xE000 then
          (stringOf? behind).map
            (Char.ofNat (0x10000 + (code - 0xD800) * 0x400 + (low - 0xDC00)) :: ·)
        else
          none
      | _ => none
    else if 0xDC00 ≤ code ∧ code < 0xE000 then
      none
    else
      (stringOf? rest).map (Char.ofNat code :: ·)

/-- The integer a numeral stands for, if it has neither point nor exponent and fits a word: an
unsigned one without a sign, a negative signed one with it. A zero with a sign is no integer. -/
def Numeral.integer? (numeral : Numeral) : Option Json.Number := do
  if numeral.fraction.isSome || numeral.exponent.isSome then none
  let magnitude ← Text.naturalOf? 10 numeral.integer
  if numeral.negative then
    if fits : 0 < magnitude ∧ magnitude ≤ 0x8000000000000000 then
      some (.integer (-(magnitude : Int)) (by omega))
    else
      none
  else
    if fits : magnitude < 0x10000000000000000 then
      some (.integer magnitude (by omega))
    else
      none

/-- The number a numeral stands for: an integer if it can be one, a finite double otherwise. An
integer too large for a word is therefore read as a double, and a double too large is refused. -/
def Numeral.number? (numeral : Numeral) : Option Json.Number :=
  numeral.integer? <|> do
    let value (c : Char) : Nat := c.toNat - '0'.toNat
    let fraction := numeral.fraction.getD []
    let double ← Binary64.ofDecimal? numeral.negative (numeral.integer.map value)
      (fraction.map value) (numeral.exponent.getD 0)
    if finite : double.isFinite = true then some (.float double finite) else none

/-- A syntax tree. It keeps numerals and strings as they are written, since reading them may
fail where the syntax is right. -/
inductive Source
  | null
  | bool (value : Bool)
  | numeral (value : Numeral)
  | string (pieces : List StringPiece)
  | array (items : List Source)
  | object (members : List (List StringPiece × Source))

namespace Source

/-- A container whose end has not come yet, with what it holds so far, the latest first. In a
`member` the key has been read and its value has not. -/
inductive Frame
  | array (items : List Source)
  | object (members : List (List StringPiece × Source))
  | member (members : List (List StringPiece × Source)) (key : List StringPiece)

/-- What may come next in a text, inside the open containers. Behind an opening bracket the
closing one is allowed, behind a comma it is not, which is why the first item and the first key
have states of their own. -/
inductive State
  | value (frames : List Frame)
  | firstItem (frames : List Frame)
  | firstKey (frames : List Frame)
  | key (frames : List Frame)
  | colon (frames : List Frame)
  | behindValue (frames : List Frame)
  | complete (tree : Source)

/-- The state after a complete value inside the open containers. An object waits for a key and
not for a value, so that nothing can be placed in one directly. -/
def place (tree : Source) : List Frame → Option State
  | [] => some (.complete tree)
  | .array items :: frames => some (.behindValue (.array (tree :: items) :: frames))
  | .member members key :: frames =>
    some (.behindValue (.object ((key, tree) :: members) :: frames))
  | .object _ :: _ => none

/-- The state after a token with which a value starts. An opening bracket opens a container;
every other such token is a complete value. -/
def startValue (frames : List Frame) : Token → Option State
  | .openArray => some (.firstItem (.array [] :: frames))
  | .openObject => some (.firstKey (.object [] :: frames))
  | .null => place .null frames
  | .bool value => place (.bool value) frames
  | .numeral value => place (.numeral value) frames
  | .string pieces => place (.string pieces) frames
  | _ => none

/-- The state after a key of the innermost object; the key waits in the frame until its value is
complete. -/
def startMember (key : List StringPiece) : List Frame → Option State
  | .object members :: frames => some (.colon (.member members key :: frames))
  | _ => none

/-- The state after the end of the innermost container, which is a complete value of the
container around it. Its contents are put back into the order of the text. -/
def close : List Frame → Option State
  | .array items :: frames => place (.array items.reverse) frames
  | .object members :: frames => place (.object members.reverse) frames
  | _ => none

/-- The state after a further token, if the grammar allows the token here. Nothing may follow a
complete tree. -/
def step? : State → Token → Option State
  | .value frames, token => startValue frames token
  | .firstItem frames, .closeArray => close frames
  | .firstItem frames, token => startValue frames token
  | .firstKey frames, .closeObject => close frames
  | .firstKey frames, .string key => startMember key frames
  | .key frames, .string key => startMember key frames
  | .colon frames, .colon => some (.value frames)
  | .behindValue (.array items :: frames), .comma => some (.value (.array items :: frames))
  | .behindValue (.array items :: frames), .closeArray => close (.array items :: frames)
  | .behindValue (.object members :: frames), .comma => some (.key (.object members :: frames))
  | .behindValue (.object members :: frames), .closeObject => close (.object members :: frames)
  | _, _ => none

/-- The tree of a row of tokens, if they form exactly one value: containers left open and tokens
behind the value are both refused. -/
def ofTokens? (tokens : List Token) : Option Source :=
  match tokens.foldlM step? (.value []) with
  | some (.complete tree) => some tree
  | _ => none

/-- The syntax tree of a text. There is one for every text of the grammar, whatever its depth
and the size of its numbers. -/
def ofText? (text : String) : Option Source :=
  (tokens? text).bind ofTokens?

mutual

/-- The tree read as values, with room for `depth` more containers inside each other. It fails
if any numeral or string in it fails, however deep, and keeps repeated keys. -/
def resolveWithin? (depth : Nat) : Source → Option Json
  | .null => some .null
  | .bool value => some (.bool value)
  | .numeral value => value.number?.map .number
  | .string pieces => (stringOf? pieces).map fun chars => .string (String.ofList chars)
  | .array items =>
    match depth with
    | 0 => none
    | depth + 1 => (resolveItems? depth items).map .array
  | .object members =>
    match depth with
    | 0 => none
    | depth + 1 => (resolveMembers? depth members).map .object

/-- The items of an array read as values. One item that cannot be read is enough to refuse the
array. -/
def resolveItems? (depth : Nat) : List Source → Option (List Json)
  | [] => some []
  | item :: rest => do
    let value ← resolveWithin? depth item
    let values ← resolveItems? depth rest
    pure (value :: values)

/-- The members of an object read as values, in order and with repeated keys. -/
def resolveMembers? (depth : Nat) :
    List (List StringPiece × Source) → Option (List (String × Json))
  | [] => some []
  | (key, item) :: rest => do
    let name ← stringOf? key
    let value ← resolveWithin? depth item
    let values ← resolveMembers? depth rest
    pure ((String.ofList name, value) :: values)

end

/-- How many arrays and objects may stand inside each other. The bound protects the reader of a
value; the syntax has none. -/
def depthLimit : Nat := 127

/-- The tree read as values, unless it is deeper than the limit or holds a numeral or a string
that stands for nothing. -/
def resolve? (tree : Source) : Option Json :=
  resolveWithin? depthLimit tree

end Source

/-- A text read as a JSON value, each object as a mapping. Nothing is read if the syntax is
wrong or any part of the tree stands for nothing. -/
def ofText? (text : String) : Option Json :=
  ((Source.ofText? text).bind Source.resolve?).map distinct

end BoundSql.Json
