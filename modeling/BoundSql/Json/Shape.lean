import BoundSql.Json.Source

/-!
# Which parts of a text are read

A structure reads the members it knows and passes over the others, which then
only need the right syntax: a number too large for any number, or a hundred
brackets more, is no fault there. A shape says which members a structure and its
parts know; restricting a syntax tree to a shape drops the rest before anything
is read.
-/

namespace BoundSql.Json

/-- What is read of a tree. A shape says nothing about the kinds of the values: a tree of
another kind than the shape expects is kept as it is, for its reader to refuse. -/
inductive Shape
  /-- All of it. -/
  | whole
  /-- Of an array, this of every item. -/
  | each (item : Shape)
  /-- Of an object, the members with these names; of an array, the items in their order. -/
  | fields (known : List (String × Shape))

namespace Shape

/-- The shape of a member whose key is known. An unreadable key is kept, so that reading fails. -/
def member? (known : List (String × Shape)) (key : List StringPiece) : Option Shape :=
  match stringOf? key with
  | none => some .whole
  | some name => known.lookup (String.ofList name)

mutual

/-- The parts of a tree that a shape reads. What is dropped was only ever checked for its
syntax, so it can no longer make the reading fail. -/
def restrict (shape : Shape) : Source → Source
  | .array items =>
    match shape with
    | .whole => .array items
    | .each item => .array (restrictItems item items)
    | .fields known => .array (restrictRow (known.map (·.2)) items)
  | .object members =>
    match shape with
    | .fields known => .object (restrictMembers known members)
    | _ => .object members
  | .null => .null
  | .bool value => .bool value
  | .numeral value => .numeral value
  | .string pieces => .string pieces

/-- The items of an array, each restricted to one shape; their number and order stay. -/
def restrictItems (shape : Shape) : List Source → List Source
  | [] => []
  | item :: rest => restrict shape item :: restrictItems shape rest

/-- The items of an array, restricted to shapes in their order. Items behind the last shape are
kept, because a structure refuses a row that is too long. -/
def restrictRow : List Shape → List Source → List Source
  | _, [] => []
  | [], items => items
  | shape :: shapes, item :: rest => restrict shape item :: restrictRow shapes rest

/-- The members of an object that are known, each restricted to its shape. -/
def restrictMembers (known : List (String × Shape)) :
    List (List StringPiece × Source) → List (List StringPiece × Source)
  | [] => []
  | (key, tree) :: rest =>
    match member? known key with
    | none => restrictMembers known rest
    | some shape => (key, restrict shape tree) :: restrictMembers known rest

end

/-- The parts of a text that a shape reads, as values. Nothing is read if the text is no JSON,
and the result may still be a tree that its reader refuses. -/
def read? (shape : Shape) (text : String) : Option Json :=
  (Source.ofText? text).bind fun tree => (restrict shape tree).resolve?

end Shape

end BoundSql.Json
