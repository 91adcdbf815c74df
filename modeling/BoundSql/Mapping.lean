/-!
# Mappings in insertion order

A list of named things read as a mapping: the place of a name is where it came
first, its thing the one that came last. Nothing here forbids a list that repeats
a name; looking up finds the first occurrence.
-/

namespace BoundSql.Mapping

variable {α : Type}

/-- The list with one name set: its first occurrence takes the new thing, and a new name goes to
the end. Later occurrences, if a list repeats the name, are left as they are. -/
def assign (name : String) (thing : α) : List (String × α) → List (String × α)
  | [] => [(name, thing)]
  | (known, old) :: rest =>
    if known = name then (name, thing) :: rest else (known, old) :: assign name thing rest

/-- Pairs gathered in their order: of each name the last thing at the place of the first.
Whatever the pairs are, the result repeats no name. -/
def ofPairs (pairs : List (String × α)) : List (String × α) :=
  pairs.foldl (fun mapping (name, thing) => assign name thing mapping) []

/-- The only thing of a name: none if the name does not occur, and refused if it occurs twice.
That two things of one name are equal makes no difference. -/
def unique? (pairs : List (String × α)) (name : String) : Option (Option α) :=
  match pairs.filter (·.1 == name) with
  | [] => some none
  | [(_, thing)] => some (some thing)
  | _ => none

/-- Setting a name makes it the name's thing, also in a list that repeats the name: the
occurrence that is found is the one that was set. -/
theorem lookup_assign_self (name : String) (thing : α) (mapping : List (String × α)) :
    (assign name thing mapping).lookup name = some thing := by
  induction mapping with
  | nil => simp [assign]
  | cons pair rest inductionHypothesis =>
    obtain ⟨known, old⟩ := pair
    by_cases same : known = name
    · simp [assign, same]
    · have differs : (name == known) = false := by simpa using Ne.symm same
      simp [assign, same, List.lookup_cons, differs, inductionHypothesis]

/-- Setting a name leaves the others alone. Neither their things nor which of several
occurrences is found changes. -/
theorem lookup_assign_of_ne {name other : String} (differs : other ≠ name) (thing : α)
    (mapping : List (String × α)) :
    (assign name thing mapping).lookup other = mapping.lookup other := by
  have apart : (other == name) = false := by simpa using differs
  induction mapping with
  | nil => simp [assign, List.lookup_cons, apart]
  | cons pair rest inductionHypothesis =>
    obtain ⟨known, old⟩ := pair
    by_cases same : known = name
    · simp [assign, same, List.lookup_cons, apart]
    · simp [assign, same, List.lookup_cons, inductionHypothesis]

end BoundSql.Mapping
