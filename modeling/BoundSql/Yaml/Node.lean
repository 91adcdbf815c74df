import BoundSql.Yaml.Token

/-!
# The tree a YAML text stands for

Scalars keep their text and their style, for what a plain scalar means is left
to whoever reads the tree. An anchor is a number and an alias the number it
points to. Numbers may be given twice; the node that comes last has the number.
-/

namespace BoundSql.Yaml

/-- A node. A mapping keeps its entries in their order, repeated keys among them, and its keys
may be nodes of any kind. -/
inductive Node
  | alias (target : Nat)
  | scalar (anchor : Option Nat) (tag : Option Uri) (style : Style) (text : List Char)
  | sequence (anchor : Option Nat) (items : List Node)
  | mapping (anchor : Option Nat) (entries : List (Node × Node))

namespace Node

/-- What stands where nothing is written: a plain scalar without text, which a structure takes
for one without fields. -/
def empty : Node :=
  .scalar none none .plain []

/-- The number of a node, if it has one; an alias has none of its own. -/
def anchor? : Node → Option Nat
  | .alias _ => none
  | .scalar anchor _ _ _ => anchor
  | .sequence anchor _ => anchor
  | .mapping anchor _ => anchor

mutual

/-- A node and all nodes under it, each before those under it. -/
def flatten : Node → List Node
  | .alias target => [.alias target]
  | .scalar anchor tag style text => [.scalar anchor tag style text]
  | .sequence anchor items => .sequence anchor items :: flattenItems items
  | .mapping anchor entries => .mapping anchor entries :: flattenEntries entries

/-- The nodes of a sequence and all under them, in the order of the text. -/
def flattenItems : List Node → List Node
  | [] => []
  | item :: rest => flatten item ++ flattenItems rest

/-- The nodes of a mapping and all under them, each key before its value. -/
def flattenEntries : List (Node × Node) → List Node
  | [] => []
  | (key, value) :: rest => flatten key ++ flatten value ++ flattenEntries rest

end

/-- The last node with a number, in the order of the text; a number given twice belongs to the
later node. -/
def anchored? (root : Node) (number : Nat) : Option Node :=
  root.flatten.reverse.find? fun node => node.anchor? == some number

/-- What stands at a node of a tree: the node itself, or what it is an alias of. Aliases have no
anchors, so one step is enough. -/
def resolve? (root : Node) : Node → Option Node
  | .alias target => root.anchored? target
  | node => some node

end Node

end BoundSql.Yaml
