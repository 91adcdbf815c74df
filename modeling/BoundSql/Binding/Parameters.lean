import BoundSql.Binding.Token
import BoundSql.Mapping
import BoundSql.Value.Json

/-!
# Parameters

The values that travel beside a statement, each under the token of its
placeholders, in the order in which the tokens were assigned.
-/

namespace BoundSql

/-- Values under their tokens, in order. That no token occurs twice is not part of the type; it
holds of what registries make. -/
structure Parameters where
  entries : List (Token × Value)

namespace Parameters

/-- No values. -/
def empty : Parameters := ⟨[]⟩

/-- The value under a token's text. Of several entries under one token the first is found. -/
def get? (parameters : Parameters) (text : String) : Option Value :=
  (parameters.entries.find? (·.1.text == text)).map (·.2)

/-- Whether there is a value under a token's text. -/
def contains (parameters : Parameters) (text : String) : Bool :=
  (parameters.get? text).isSome

/-- The tokens in order. -/
def tokens (parameters : Parameters) : List Token :=
  parameters.entries.map (·.1)

/-- The number of values. -/
def size (parameters : Parameters) : Nat :=
  parameters.entries.length

/-- Whether there are no values. -/
def isEmpty (parameters : Parameters) : Bool :=
  parameters.entries.isEmpty

/-- The object of all values that drivers are handed. Were a token to occur twice, its last
value would stand at its first place. -/
def toJson (parameters : Parameters) : Json :=
  let member (entry : Token × Value) := (entry.1.text, entry.2.toJson)
  .object (Mapping.ofPairs (parameters.entries.map member))

/-- The stored form: an object of the values as they are stored. Unlike what drivers are handed
it keeps the kinds of the values that have one there. -/
def encode (parameters : Parameters) : Json :=
  .object (parameters.entries.map fun entry => (entry.1.text, entry.2.encode))

end Parameters

end BoundSql
