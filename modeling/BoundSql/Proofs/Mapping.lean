import BoundSql.Mapping
import Mathlib.Data.List.Induction

/-!
# Mappings that were gathered

A mapping that is gathered from pairs has each of their names once, at the place
where it came first, and under it what came last. Gathering changes nothing where
no name is repeated: each pair keeps its place and its thing. What is found under
a name is then what stands beside it, in whatever order the pairs are.
-/

namespace BoundSql.Mapping

variable {α : Type}

/-- A new name goes to the end, behind all pairs that are there, repeated names among them. -/
theorem assign_of_notMem {name : String} (thing : α) {mapping : List (String × α)}
    (absent : name ∉ mapping.map (·.1)) :
    assign name thing mapping = mapping ++ [(name, thing)] := by
  induction mapping with
  | nil => rfl
  | cons pair rest inductionHypothesis =>
    obtain ⟨known, old⟩ := pair
    rw [List.map_cons, List.mem_cons, not_or] at absent
    rw [assign, if_neg (Ne.symm absent.1), inductionHypothesis absent.2, List.cons_append]

/-- A name that is there keeps its place, so the names stay as they are, in their order. -/
theorem map_fst_assign_of_mem {name : String} (thing : α) {mapping : List (String × α)}
    (present : name ∈ mapping.map (·.1)) :
    (assign name thing mapping).map (·.1) = mapping.map (·.1) := by
  induction mapping with
  | nil => exact absurd present List.not_mem_nil
  | cons pair rest inductionHypothesis =>
    obtain ⟨known, old⟩ := pair
    rw [assign]
    split
    · rename_i same
      rw [List.map_cons, List.map_cons, same]
    · rename_i apart
      have later : name ∈ rest.map (·.1) := List.mem_of_ne_of_mem (Ne.symm apart) present
      rw [List.map_cons, List.map_cons, inductionHypothesis later]

/-- Setting a name neither repeats one nor takes a repetition away: only the first pair of a
name is ever changed. -/
theorem nodup_assign_iff (name : String) (thing : α) (mapping : List (String × α)) :
    ((assign name thing mapping).map (·.1)).Nodup ↔ (mapping.map (·.1)).Nodup := by
  by_cases present : name ∈ mapping.map (·.1)
  · rw [map_fst_assign_of_mem thing present]
  · rw [assign_of_notMem thing present, List.map_append, List.map_singleton]
    have turned : (mapping.map (·.1) ++ [name]).Perm (name :: mapping.map (·.1)) :=
      List.perm_append_singleton name _
    exact turned.nodup_iff.trans (List.nodup_cons.trans (and_iff_right present))

/-- Pairs with distinct names, none of which a mapping has, are put behind it as
they are. -/
theorem foldl_assign_of_nodup (mapping pairs : List (String × α))
    (distinct : ((mapping ++ pairs).map (·.1)).Nodup) :
    pairs.foldl (fun gathered (name, thing) => assign name thing gathered) mapping =
      mapping ++ pairs := by
  induction pairs generalizing mapping with
  | nil => simp
  | cons pair rest inductionHypothesis =>
    obtain ⟨name, thing⟩ := pair
    have absent : name ∉ mapping.map (·.1) := by
      intro member
      rw [List.map_append, List.nodup_append] at distinct
      exact distinct.2.2 name member name (by simp) rfl
    have regrouped : mapping ++ (name, thing) :: rest = (mapping ++ [(name, thing)]) ++ rest := by
      simp
    simp only [List.foldl_cons]
    rw [assign_of_notMem thing absent, regrouped]
    exact inductionHypothesis (mapping ++ [(name, thing)]) (regrouped ▸ distinct)

/-- Pairs with distinct names are a mapping as they stand. For others this fails, since a
repeated name is gathered into one pair. -/
theorem ofPairs_eq_self {pairs : List (String × α)} (distinct : (pairs.map (·.1)).Nodup) :
    ofPairs pairs = pairs :=
  foldl_assign_of_nodup [] pairs distinct

/-! ## Pairs that repeat names -/

/-- One more pair is set behind all others. -/
theorem ofPairs_concat (pairs : List (String × α)) (name : String) (thing : α) :
    ofPairs (pairs ++ [(name, thing)]) = assign name thing (ofPairs pairs) :=
  List.foldl_append

/-- What is gathered under a name is the last thing that came with it. Induct from the last
pair, which decides for its name and leaves the others alone. -/
theorem lookup_ofPairs (pairs : List (String × α)) (name : String) :
    (ofPairs pairs).lookup name = pairs.reverse.lookup name := by
  induction pairs using List.reverseRecOn with
  | nil => rfl
  | append_singleton earlier last inductionHypothesis =>
    obtain ⟨given, thing⟩ := last
    rw [ofPairs_concat, List.reverse_concat, List.lookup_cons]
    by_cases same : name = given
    · subst same
      rw [lookup_assign_self, beq_self_eq_true]
    · have differs : (name == given) = false := by simpa using same
      rw [lookup_assign_of_ne same, inductionHypothesis, differs]

/-- The names are gathered where each came first, each of them once. Induct from the last pair,
whose name is new or there already. -/
theorem map_fst_ofPairs (pairs : List (String × α)) :
    (ofPairs pairs).map (·.1) = (pairs.map (·.1)).eraseDups := by
  induction pairs using List.reverseRecOn with
  | nil => rfl
  | append_singleton earlier last inductionHypothesis =>
    obtain ⟨given, thing⟩ := last
    rw [ofPairs_concat, List.map_append, List.map_singleton, List.eraseDups_append,
      ← inductionHypothesis]
    by_cases present : given ∈ earlier.map (·.1)
    · have gathered : given ∈ (ofPairs earlier).map (·.1) := by
        rwa [inductionHypothesis, List.mem_eraseDups]
      have known : [given].removeAll (earlier.map (·.1)) = [] := by
        simpa [List.removeAll] using present
      rw [map_fst_assign_of_mem thing gathered, known, List.eraseDups_nil, List.append_nil]
    · have absent : given ∉ (ofPairs earlier).map (·.1) := by
        rwa [inductionHypothesis, List.mem_eraseDups]
      have new : [given].removeAll (earlier.map (·.1)) = [given] := by
        simpa [List.removeAll] using present
      rw [assign_of_notMem thing absent, List.map_append, new]
      rfl

/-! ## Looking up -/

/-- Where no name is repeated, what is found under a name is what is paired with
it. -/
theorem lookup_eq_some_iff_mem {name : String} {thing : α} {mapping : List (String × α)}
    (distinct : (mapping.map (·.1)).Nodup) :
    mapping.lookup name = some thing ↔ (name, thing) ∈ mapping := by
  induction mapping with
  | nil => simp
  | cons pair rest inductionHypothesis =>
    obtain ⟨known, held⟩ := pair
    obtain ⟨absent, distinctRest⟩ := List.nodup_cons.mp distinct
    rw [List.lookup_cons, List.mem_cons]
    by_cases same : name = known
    · subst same
      have unpaired : (name, thing) ∉ rest :=
        fun member => absent (List.mem_map.mpr ⟨(name, thing), member, rfl⟩)
      simp [unpaired, eq_comm]
    · have apart : (name == known) = false := by simpa using same
      simp [apart, same, inductionHypothesis distinctRest]

/-- Where no name is repeated, the order of the pairs does not matter to looking up. With a
repeated name it would decide which pair is found. -/
theorem lookup_eq_of_perm {first second : List (String × α)}
    (distinct : (first.map (·.1)).Nodup) (same : first.Perm second) (name : String) :
    first.lookup name = second.lookup name := by
  have alsoDistinct : (second.map (·.1)).Nodup := (same.map (·.1)).nodup_iff.mp distinct
  apply Option.ext
  intro thing
  rw [lookup_eq_some_iff_mem distinct, lookup_eq_some_iff_mem alsoDistinct, same.mem_iff]

/-- Where no name is repeated, the only thing of a name is what is found under
it. -/
theorem unique?_eq_lookup {mapping : List (String × α)} (distinct : (mapping.map (·.1)).Nodup)
    (name : String) : unique? mapping name = some (mapping.lookup name) := by
  induction mapping with
  | nil => rfl
  | cons pair rest inductionHypothesis =>
    obtain ⟨known, held⟩ := pair
    obtain ⟨absent, distinctRest⟩ := List.nodup_cons.mp distinct
    by_cases same : known = name
    · subst same
      have others : rest.filter (·.1 == known) = [] := by
        rw [List.filter_eq_nil_iff]
        intro other member found
        exact absent (List.mem_map.mpr ⟨other, member, by simpa using found⟩)
      simp [unique?, others]
    · have apart : (name == known) = false := by simpa using Ne.symm same
      rw [List.lookup_cons, apart]
      simpa [unique?, same] using inductionHypothesis distinctRest

end BoundSql.Mapping
