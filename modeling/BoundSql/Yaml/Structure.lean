import BoundSql.Mapping
import BoundSql.Text.Digits
import BoundSql.Yaml.Node

/-!
# Reading structures from YAML trees

A structure is a mapping with its fields among the keys, or nothing at all. Keys
are texts, and every scalar is a text, however it is written. A number is a
plain scalar, or a literal one that is tagged as an integer. Wherever a node may
stand, so may an alias of one; `root` is the tree that holds them.
-/

namespace BoundSql.Yaml

/-- A text. Numbers and truth values are texts too, as they are written; collections are not. -/
def text? (root node : Node) : Option String :=
  match root.resolve? node with
  | some (.scalar _ _ _ text) => some (String.ofList text)
  | _ => none

/-- The entries of a structure. A plain scalar without text is a structure without entries. -/
def entries? (root node : Node) : Option (List (Node × Node)) :=
  match root.resolve? node with
  | some (.mapping _ entries) => some entries
  | some (.scalar _ _ .plain []) => some []
  | _ => none

/-- The fields with the given names, each of which may be missing but not occur twice. Other
keys may be repeated, but all keys must be texts. -/
def fields? (names : List String) (root node : Node) : Option (List (Option Node)) := do
  let entries ← entries? root node
  let members ← entries.mapM fun (key, value) => (text? root key).map (·, value)
  names.mapM (Mapping.unique? members)

/-- The bases that a numeral may name, with the characters that name them. -/
def numeralBases : List (List Char × Nat) :=
  [(['0', 'x'], 16), (['0', 'o'], 8), (['0', 'b'], 2)]

/-- A natural number behind an optional plus sign: in a base that it names, or decimal and without
zeros in front. -/
def naturalNumeral? (text : List Char) : Option Nat :=
  let digits := if text.head? == some '+' then text.drop 1 else text
  match numeralBases.lookup (digits.take 2) with
  | some base => Text.naturalOf? base (digits.drop 2)
  | none =>
    if digits.length > 1 && digits.head? == some '0' then none else Text.naturalOf? 10 digits

/-- Whether a scalar is read as a number: quotes and folding make it a text. -/
def isNumeric (tag : Option Uri) : Style → Bool
  | .plain => true
  | .literal => tag == some (.ofText "tag:yaml.org,2002:int")
  | _ => false

/-- A natural number. Signs other than a plus, points and exponents are refused. -/
def natural? (root node : Node) : Option Nat :=
  match root.resolve? node with
  | some (.scalar _ tag style text) => if isNumeric tag style then naturalNumeral? text else none
  | _ => none

/-- A field that may be missing. If it is there it must be readable: the null of YAML is no way
to leave it out. -/
def optional {α : Type} (decode? : Node → Option α) : Option Node → Option (Option α)
  | none => some none
  | some node => (decode? node).map some

end BoundSql.Yaml
