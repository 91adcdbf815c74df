import BoundSql.Mapping

/-!
# Environments

The named texts a program finds around it. Setting a name replaces its value;
adding values for missing names never does, so that of two such values the first
one counts, and none does for a name that was there before.
-/

namespace BoundSql

/-- Named texts, in the order in which they were set. A list that repeats a name is allowed; its
first value is the one that counts. -/
structure Environment where
  entries : List (String × String) := []

namespace Environment

/-- The value of a name, if it is set. -/
def value? (environment : Environment) (name : String) : Option String :=
  environment.entries.lookup name

/-- The value behind a name and an equals sign, each name and its value being written with such a
sign between them. A name that has an equals sign itself reaches into the value. -/
def written? (environment : Environment) (name : List Char) : Option (List Char) :=
  if name.isEmpty then
    none
  else
    environment.entries.findSome? fun (known, value) =>
      let entry := known.toList ++ '=' :: value.toList
      if (name ++ ['=']).isPrefixOf entry then some (entry.drop (name.length + 1)) else none

/-- The environment with a name set. If it was set before, its value is replaced where it
stands. -/
def set (environment : Environment) (name value : String) : Environment :=
  ⟨Mapping.assign name value environment.entries⟩

/-- The environment with a name set, unless it is set already. A name that is set to the empty
text is set. -/
def setMissing (environment : Environment) (name value : String) : Environment :=
  if (environment.value? name).isSome then environment else environment.set name value

/-- The environment with values for the names that are missing, the first of them for each name. -/
def addMissing (environment : Environment) (pairs : List (String × String)) : Environment :=
  pairs.foldl (fun known (name, value) => known.setMissing name value) environment

/-- The environment with names set one after the other. -/
def setAll (environment : Environment) (pairs : List (String × String)) : Environment :=
  pairs.foldl (fun known (name, value) => known.set name value) environment

end Environment

end BoundSql
