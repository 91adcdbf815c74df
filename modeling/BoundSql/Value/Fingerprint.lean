import BoundSql.Digest.Sha256
import BoundSql.Value.Basic

/-!
# Fingerprints

Two occurrences of a value in a statement share a placeholder when they have the
same fingerprint: the digest of a canonical text in which every value, items of
arrays included, starts with its kind. Text is preceded by its length in bytes
and arrays by their length, so neither can imitate what follows it. Doubles are
written by their bits.
-/

namespace BoundSql.Value

mutual

/-- The canonical text of a value. No rounding takes place in it, and values of different kinds
never share it, even if both stand for the same number. -/
def canonical : Value → String
  | .null => "null:"
  | .bool value => "bool:" ++ toString value
  | .int value => "int:" ++ toString value.toInt
  | .uint value => "uint:" ++ toString value.toNat
  | .float value => "float:" ++ Text.hexadecimal 16 value.bits.toNat
  | .string value => "string:" ++ toString value.utf8ByteSize ++ ":" ++ value
  | .date value => "date:" ++ value.text
  | .dateTime value => "datetime:" ++ value.text
  | .array items => "array:" ++ toString items.length ++ "[" ++ canonicalItems items ++ "]"

/-- The canonical texts of the items of an array, each with a semicolon behind it, so that the
last one ends like the others. -/
def canonicalItems : List Value → String
  | [] => ""
  | item :: rest => canonical item ++ ";" ++ canonicalItems rest

end

/-- The SHA-256 digest of the canonical text, in hexadecimal. That different values have
different fingerprints is therefore an assumption about the digest and not a fact about this
definition. -/
def fingerprint (value : Value) : String :=
  String.join ((Digest.sha256 value.canonical.toUTF8.toList).map fun word =>
    Text.hexadecimal 8 word.toNat)

end BoundSql.Value
