import BoundSql.Log.Event
import BoundSql.Log.Pattern
import BoundSql.Text.Bytes
import BoundSql.Text.Split

/-!
# Directives of log filters

A directive gives the most detailed level that is logged, either for all targets
or for those that start with a given text; a target alone asks for everything
from it. Brackets limit it to spans of work with a name, to events with a field,
or to a value of that field. No event here happens in a span and no value is
ever looked at, so a directive that asks for either selects nothing.

The parts of a directive are found in its text without the blanks at the ends,
but cut from the whole text, at the same distances from the start. So blanks in
front of a directive shift its parts, and blanks behind it belong to the last.
-/

namespace BoundSql.Log

/-- The detail of a level by its name, in small or capital letters, or by its number. Numbers
beyond the most detailed level are no levels. -/
def detailOf? (level : List Char) : Option Nat :=
  ((Text.unsigned? level).filter (· ≤ 5)) <|>
    [("error", 1), ("warn", 2), ("info", 3), ("debug", 4), ("trace", 5), ("off", 0)].lookup
      (String.ofList (level.map Text.lowerAscii))

/-- The detail behind an equals sign: everything if nothing stands there. -/
def assignedDetail? (level : List Char) : Option Nat :=
  if level.isEmpty then some 5 else detailOf? level

/-! ## Fields -/

/-- A field that a directive asks for. Only whether it has a value is kept and not the value,
because no event is matched with one. -/
structure Field where
  name : String
  /-- Whether it has to have a certain value. -/
  valued : Bool

/-- Whether a text is an exponent of ten, or nothing. The sign is optional and a digit is not. -/
def isExponent : List Char → Bool
  | [] => true
  | mark :: rest =>
    let digits := if rest.head? == some '+' || rest.head? == some '-' then rest.drop 1 else rest
    (mark == 'e' || mark == 'E') && !digits.isEmpty && digits.all Char.isDigit

/-- Whether a text is a decimal number without a sign, or a word for what is none. A point may
stand at either end, but not alone. -/
def isNumber (text : List Char) : Bool :=
  let mantissa := text.takeWhile fun c => c.isDigit || c == '.'
  let digits := mantissa.filter Char.isDigit
  ["inf", "infinity", "nan"].contains (String.ofList (text.map Text.lowerAscii)) ||
    (!digits.isEmpty && mantissa.length ≤ digits.length + 1 &&
      isExponent (text.drop mantissa.length))

/-- Whether a text is the value of a field: a number or a pattern. All numbers are patterns too but
those with a plus sign in front. -/
def isValue : List Char → Bool
  | '+' :: rest => isNumber rest
  | text => Pattern.isFormed text

/-- A field by its name, with a value behind an equals sign or without. A second such sign ends
the value, and what follows it is ignored. -/
def Field.ofChars? (text : List Char) : Option Field :=
  let name := text.takeWhile (· != '=')
  let field (valued : Bool) : Field := ⟨String.ofList name, valued⟩
  match text.drop name.length with
  | [] => if name.isEmpty then none else some (field false)
  | _ :: rest => if isValue (rest.takeWhile (· != '=')) then some (field true) else none

/-! ## Directives -/

/-- One directive of a filter. The parts are independent: a directive without any of them asks
for everything from all targets. -/
structure Directive where
  /-- With what the targets start that it holds for; all of them if nothing is given. -/
  target : Option String := none
  /-- The greatest detail that is logged; zero for nothing. -/
  detail : Nat := 5
  /-- The name of the spans it holds in. -/
  span : Option String := none
  /-- The field that an event or a span must have. -/
  field : Option Field := none

namespace Directive

/-- Whether a directive may start with a character. An opening bracket may start one too and is
handled apart from these. -/
def mayStart (c : Char) : Bool :=
  Text.isAlphanumeric c || c == '-' || c == ':' || c == '_'

/-- A directive with the level that starts at a distance and takes the rest of the text. It
fails if the distance is inside of a character or behind the end. -/
def withLevel? (directive : Directive) (text : List Char) (start : Nat) : Option Directive := do
  let level ← Text.dropBytes? start text
  let detail ← assignedDetail? level
  pure { directive with detail }

/-- A directive with what follows its brackets at a distance: nothing, or an equals sign and a
level. -/
def behindBrackets? (directive : Directive) (text : List Char) (distance : Nat) :
    List Char → Option Directive
  | [] => some directive
  | '=' :: _ => directive.withLevel? text (distance + 1)
  | _ => none

/-- A directive with the field that starts at a distance; a bracket must follow its brace. -/
def withField? (directive : Directive) (text : List Char) (start : Nat) (rest : List Char) :
    Option Directive :=
  let written := rest.takeWhile (· != '\x7d')
  let stop := start + Text.byteCount written
  match rest.drop written.length with
  | '\x7d' :: ']' :: behind => do
    let field ← Field.ofChars? (← Text.slice? start stop text)
    { directive with field := some field }.behindBrackets? text (stop + 2) behind
  | _ => none

/-- A directive with the span whose name starts at a distance, and with the field behind that name.
The name may be left out if a field follows. -/
def withSpan? (directive : Directive) (text : List Char) (start : Nat) (rest : List Char) :
    Option Directive := do
  let written := rest.takeWhile fun c => c != ']' && c != '\x7b'
  let stop := start + Text.byteCount written
  let name ← Text.slice? start stop text
  let spanned := { directive with span := some (String.ofList name) }
  match rest.drop written.length with
  | ']' :: behind => spanned.behindBrackets? text (stop + 1) behind
  | '\x7b' :: behind =>
    (if name.isEmpty then directive else spanned).withField? text (stop + 1) behind
  | _ => none

/-- A directive that is a single word: a level, or else a target. A target alone keeps the
default detail, which is everything. -/
def ofWord (word : List Char) : Directive :=
  match detailOf? word with
  | some detail => { detail }
  | none => { target := some (String.ofList word) }

/-- A directive from its text. Its shape is found in the trimmed text and its parts are cut from
the whole one, so that blanks in front of it shift what the parts are. -/
def ofChars? (text : List Char) : Option Directive :=
  let shape := Text.trimChars text
  match shape with
  | [] => none
  | '[' :: rest => withSpan? {} text 1 rest
  | first :: _ =>
    let written := shape.takeWhile fun c => c != '=' && c != '['
    let stop := Text.byteCount written
    if !mayStart first then
      none
    else
      match shape.drop written.length with
      | [] => some (ofWord text)
      | mark :: rest => do
        let target ← Text.slice? 0 stop text
        let directive : Directive := { target := some (String.ofList target) }
        if mark == '=' then
          directive.withLevel? text (stop + 1)
        else
          directive.withSpan? text (stop + 1) rest

/-- Whether a directive asks for no span and no value, so that it can hold for an event. A field
without a value does not stand in the way. -/
def isPlain (directive : Directive) : Bool :=
  directive.span.isNone && !directive.field.any (·.valued)

/-- Whether a directive holds for an event. The target is compared from its start, so that a
directive for one part also holds for the parts inside it. -/
def covers (directive : Directive) (event : Event) : Bool :=
  directive.isPlain &&
    directive.target.all (fun start => start.toList.isPrefixOf event.target.toList) &&
    directive.field.all fun field => event.fieldNames.contains field.name

/-- How far the target of a directive reaches into those it covers; not at all without one. -/
def reach (directive : Directive) : Nat :=
  match directive.target with
  | none => 0
  | some start => start.utf8ByteSize + 1

/-- Whether another directive is as specific as a given one: its target reaches farther, or equally
far and it asks for a field that is not before the other's. -/
def yieldsTo (directive other : Directive) : Bool :=
  directive.reach < other.reach ||
    (directive.reach == other.reach &&
      directive.field.all fun field => other.field.any fun its => field.name ≤ its.name)

end Directive

end BoundSql.Log
