import BoundSql.Binary64.Layout
import BoundSql.Text.Quoted
import BoundSql.Value.Basic

/-!
# Values in messages

A message about a value shows its kind and its content, so that the number 1 and
the text "1" cannot be confused.
-/

namespace BoundSql.Value

/-- Doubles in messages are positional from 0.0001 up to sixteen digits before the point; of two
equally short decimals at the same distance the greater one is shown. -/
def messageLayout : Binary64.Layout where
  firstPositional := -4
  lastPositional := 15
  positiveExponent := ""
  tie := .up
  nan := "NaN"
  infinite := "inf"

mutual

/-- A value as a message shows it, with the name of its kind in front. Texts are quoted and
escaped, so that a message never runs on into a value. -/
def describe : Value → String
  | .null => "Null"
  | .bool value => "Bool(" ++ toString value ++ ")"
  | .int value => "Int(" ++ toString value.toInt ++ ")"
  | .uint value => "UInt(" ++ toString value.toNat ++ ")"
  | .float value => "Float(" ++ messageLayout.write value ++ ")"
  | .string value => "String(" ++ Text.quoted value ++ ")"
  | .date value => "Date(" ++ value.text ++ ")"
  | .dateTime value => "DateTime(" ++ value.text ++ ")"
  | .array items => "Array([" ++ ", ".intercalate (describeItems items) ++ "])"

/-- The items of an array as a message shows them, each with the name of its own kind. -/
def describeItems : List Value → List String
  | [] => []
  | item :: rest => describe item :: describeItems rest

end

end BoundSql.Value
