import BoundSql.Proofs.Statement.Placeholders
import BoundSql.Proofs.Statement.SelectReading
import BoundSql.Query.Builder

/-!
# Normal selects are unambiguous

A statement tells what was asked: a normal query can be read back from the text
of its select and the values that travel with it. So two normal queries have one
statement only if they are one query. Nothing is claimed of what is said in
several ways, such as an operator in capital letters, an empty group or a raw
text that looks like a name: one of these ways is what the others are rendered
as.
-/

namespace BoundSql

open Registry

/-- The values of a command that was compiled on a fresh registry are found under
their tokens, as far as their digests are apart. -/
theorem Command.resolves_fresh (command : Command) {filtered : List Value} {after : Registry}
    (complete : after = ((Registry.empty.withFilter filtered).assignAll command.assigned).2)
    (apart : Value.DigestsApart (command.assigned ++ filtered)) :
    ∀ value ∈ command.assigned ++ filtered,
      (command.carried after).Resolves after.tokenOf value := by
  intro value hole
  have grown := command.grown_of_complete complete
  have settled : after.Consistent := Grows.consistent ⟨_, grown⟩ consistent_empty
  have listed := grown.listed_of_apart settled apart
    (fun entry impossible => absurd impossible List.not_mem_nil)
    (fun _ taken => List.perm_append_comm.mem_iff.mp taken)
    (List.perm_append_comm.mem_iff.mp hole)
  exact ⟨get?_of_mem (command.carried_nodup settled) (command.carried_of_listed complete hole listed),
    Statement.bare_of_isWord (command.isWord_fresh complete value hole)⟩

namespace Query

/-- A normal query is read back from its statement: all of the text is read, and
the query is what was read. -/
theorem Normal.read_compiled {query : Query} (normal : query.Normal) {statement : Statement}
    (compiled : (query.compileSelect.runOn Registry.empty).1 = .ok statement)
    (apart : Value.DigestsApart (conditionValues query.conditions)) :
    readSelect statement.parameters statement.sql.toList.length statement.sql.toList =
      some (query, []) := by
  change ((Command.select query).compile.runOn Registry.empty).1 = _ at compiled
  obtain ⟨template, drafted⟩ := Command.template_of_compiled compiled
  obtain ⟨after, complete, done⟩ :=
    (Command.select query).completes_with_values drafted Registry.empty
  rw [done] at compiled
  obtain rfl := Except.ok.inj compiled
  have resolves := (Command.select query).resolves_fresh complete apart
  have written : (template.fill after.tokenOf).toList = query.spelling after.tokenOf :=
    normal.fill_template after.tokenOf template drafted
  have read := normal.reads resolves (length_conditionsSpelling_le after.tokenOf query) []
    (Or.inl rfl)
  rw [List.append_nil, ← written] at read
  exact read

/-- Two normal queries whose selects are one statement, in the text and in the
values that travel with it, are one query, as far as the digests of the values of
each are apart.

Proof: what is read from a statement depends on nothing but its text and its
values, and it is the query that was compiled. -/
theorem compileSelect_unambiguous (first second : Query) (normal : first.Normal)
    (alsoNormal : second.Normal) {statement other : Statement}
    (compiled : (first.compileSelect.runOn Registry.empty).1 = .ok statement)
    (alsoCompiled : (second.compileSelect.runOn Registry.empty).1 = .ok other)
    (apart : Value.DigestsApart (conditionValues first.conditions))
    (otherApart : Value.DigestsApart (conditionValues second.conditions))
    (sameText : statement.sql = other.sql) (sameValues : statement.parameters = other.parameters) :
    first = second := by
  have read := normal.read_compiled compiled apart
  have alsoRead := alsoNormal.read_compiled alsoCompiled otherApart
  rw [sameText, sameValues, alsoRead] at read
  exact (congrArg Prod.fst (Option.some.inj read)).symm

/-- A query as plain data and one put together clause by clause, with a group in a
group, a range before a connector, one token for two values and words that look
like functions. -/
theorem compileSelect_unambiguous_of_built :
    let written : Query :=
      { table := "visits", distinct := true, columns := [.name "user", .name "toDate"],
        joins := [⟨.cross, "on.off", none⟩,
          ⟨.left, "labels", some ⟨.name "labels.id", "<=>", .name "visits.label"⟩⟩],
        conditions := [⟨.and, .between (.name "at") (.bound (.int 3)) (.bound (.int 5)) true⟩,
          ⟨.and, .nested [⟨.and, .nested [⟨.and, .null (.name "isNull") false⟩,
              ⟨.or, .datePart (.name "at") .time "not like" (.bound (.string "x' or 1 = 1"))⟩]⟩,
            ⟨.or, .inList (.name "in_") [.bound (.string "3"), .bound (.int 3)] true⟩]⟩,
          ⟨.or, .inIntegers (.name "toDate") [-1, 3] false⟩,
          ⟨.and, .columns (.name "toDate") "ilike" (.name "isNull")⟩],
        groups := [.name "user"], orderings := [⟨.name "toDate", .desc⟩], limit := none,
        offset := some 20 }
    let built : Query :=
      ((((((((((ofTable "visits").select [.name "user", .name "toDate"]).distinctRows).crossJoin
        "on.off").joinOn .left "labels" (.name "labels.id") "<=>" (.name "visits.label")
        |>.whereNotBetween (.name "at") (.bound (.int 3)) (.bound (.int 5))).whereNested
          fun group => (group.whereNested fun inner =>
            (inner.whereNull (.name "isNull")).orWhere
              (.datePart (.name "at") .time "not like" (.bound (.string "x' or 1 = 1")))).orWhere
                (.inList (.name "in_") [.bound (.string "3"), .bound (.int 3)] true)).orWhere
        (.inIntegers (.name "toDate") [-1, 3] false)).whereColumn (.name "toDate") "ilike"
          (.name "isNull")).groupBy (.name "user")).orderBy (.name "toDate") .desc).startAt 20
    written.Normal ∧ built.Normal ∧
      ∃ statement, (written.compileSelect.runOn Registry.empty).1 = .ok statement ∧
        (built.compileSelect.runOn Registry.empty).1 = .ok statement ∧ written = built := by
  intro written built
  have normal : written.Normal := by decide +kernel
  have alsoNormal : built.Normal := by decide +kernel
  have succeeds : (written.compileSelect.runOn Registry.empty).1.isOk = true := by decide +kernel
  have values : conditionValues written.conditions =
      [.int 3, .int 5, .string "x' or 1 = 1", .string "3", .int 3] := rfl
  have apart : Value.DigestsApart (conditionValues written.conditions) := by
    rw [values]
    unfold Value.DigestsApart
    decide +kernel
  cases compiled : (written.compileSelect.runOn Registry.empty).1 with
  | error error =>
    rw [compiled] at succeeds
    cases succeeds
  | ok statement =>
    have alsoCompiled : (built.compileSelect.runOn Registry.empty).1 = .ok statement := compiled
    have same : written = built := compileSelect_unambiguous written built normal alsoNormal
      compiled alsoCompiled apart apart rfl rfl
    exact ⟨normal, alsoNormal, statement, rfl, alsoCompiled, same⟩

end Query

end BoundSql
