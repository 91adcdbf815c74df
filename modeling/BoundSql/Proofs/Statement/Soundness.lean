import BoundSql.Proofs.Statement.History
import BoundSql.Proofs.Value.Fingerprint

/-!
# Placeholders stand for the values that are meant

A statement shows tokens where values are meant. That a token leads back to the
value of its hole, and not to another one with the same fingerprint, rests on
the digests of the values at hand: those of the registry's earlier values and of
the holes. All the rest holds without that.
-/

namespace BoundSql

open Registry

/-- If digests tell the values at hand apart, a value that was taken is listed
under its token: the value that is listed there has the same fingerprint. -/
theorem Registry.GrowsBy.listed_of_apart {before after : Registry} {values atHand : List Value}
    (grown : GrowsBy before values after) (consistent : after.Consistent)
    (apart : Value.DigestsApart atHand) (earlier : ∀ entry ∈ before.values, entry.2 ∈ atHand)
    (taken : ∀ value ∈ values, value ∈ atHand) {value : Value} (member : value ∈ values) :
    (after.tokenOf value, value) ∈ after.values := by
  obtain ⟨other, listed, same⟩ :=
    (consistent.lookup_eq_some_iff value.fingerprint (after.tokenOf value)).mp
      (grown.known_of_mem member)
  have among : other ∈ atHand := (grown.listed listed).elim (earlier _) (taken other)
  have equal : other = value := Value.eq_of_fingerprint apart among (taken value member) same
  rw [equal] at listed
  exact listed

/-- A token that is recorded for the filter is needed by an update. -/
theorem Registry.boundForUpdate_of_filter {registry : Registry} {token : Token}
    (recorded : (Group.whereClause, token) ∈ registry.bindings) :
    registry.boundForUpdate token = true := by
  unfold boundForUpdate
  rw [List.any_eq_true]
  exact ⟨_, recorded, by simp [Group.excludedFromUpdate]⟩

namespace Command

/-- A command grows a registry by the values of its filter and then by those it
assigns. -/
theorem grown_of_complete (command : Command) {filtered : List Value} {registry after : Registry}
    (complete : after = ((registry.withFilter filtered).assignAll command.assigned).2) :
    GrowsBy registry (filtered ++ command.assigned) after := by
  rw [complete]
  exact (registry.growsBy_withFilter filtered).trans (growsBy_assignAll _ _)

/-- What a filter binds is recorded for it, under the token it has when the command is
complete. -/
theorem recorded_of_complete (command : Command) {filtered : List Value} {registry after : Registry}
    (complete : after = ((registry.withFilter filtered).assignAll command.assigned).2)
    {value : Value} (inFilter : value ∈ filtered) :
    (Group.whereClause, after.tokenOf value) ∈ after.bindings := by
  have grown := growsBy_assignAll command.assigned (registry.withFilter filtered)
  have known := (registry.growsBy_withFilter filtered).known_of_mem inFilter
  have recorded := recorded_of_mem_bindAll .whereClause registry inFilter
  rw [complete, grown.extends.tokenOf_eq known]
  exact grown.extends.bindings.subset recorded

/-- A statement carries every value of a hole that is listed under its token: an
update needs what is assigned and what is recorded for the filter. -/
theorem carried_of_listed (command : Command) {filtered : List Value} {registry after : Registry}
    (complete : after = ((registry.withFilter filtered).assignAll command.assigned).2)
    {value : Value} (hole : value ∈ command.assigned ++ filtered)
    (listed : (after.tokenOf value, value) ∈ after.values) :
    (after.tokenOf value, value) ∈ (command.carried after).entries := by
  cases command with
  | select query => exact listed
  | count query => exact listed
  | delete query => exact listed
  | update query assignments =>
    refine List.mem_filter.mpr ⟨listed, ?_⟩
    rw [Bool.or_eq_true]
    rcases List.mem_append.mp hole with assigned | inFilter
    · left
      exact List.contains_iff_mem.mpr (List.mem_map_of_mem assigned)
    · right
      exact boundForUpdate_of_filter ((Command.update query assignments).recorded_of_complete
        complete inFilter)

/-- A statement carries no token twice, since no registry with a history lists one twice. -/
theorem carried_nodup (command : Command) {after : Registry} (consistent : after.Consistent) :
    (command.carried after).tokens.Nodup := by
  cases command with
  | select query => exact consistent.tokens_nodup
  | count query => exact consistent.tokens_nodup
  | delete query => exact consistent.tokens_nodup
  | update query assignments =>
    exact consistent.tokens_nodup.sublist (List.filter_sublist.map _)

/-- Whatever happened to a registry before, compiling a command with it yields a
statement exactly if the statement that is meant exists, and fails with the same
error else. The text is the one that is meant with every hole replaced by a
token in braces, quoted exactly for textual values, and under the token in each
hole the statement carries the hole's own value, as far as the digests of the
values at hand are apart.

Proof: the command completes as its draft says, and the registry in which it is
complete is consistent. So the value of a hole has one token there, and the
token leads to one listed value. The two have one fingerprint, hence are equal;
and what is carried holds every token of a hole, each once. -/
theorem compile_refines_template (history : List Step) (command : Command) :
    let registry := run history Registry.empty
    match command.template with
    | .error error => (command.compile.runOn registry).1 = .error error
    | .ok template => ∃ (statement : Statement) (naming : Value → Token),
        (command.compile.runOn registry).1 = .ok statement ∧
          statement.sql = template.fill naming ∧
          (Value.DigestsApart (registry.values.map (·.2) ++ template.holes) →
            ∀ value ∈ template.holes,
              statement.parameters.get? (naming value).text = some value) := by
  intro registry
  have consistent : registry.Consistent := consistent_run history
  have ran := command.completes registry
  cases drafted : command.template with
  | error error =>
    rw [drafted] at ran
    obtain ⟨after, -, stopped⟩ := ran
    exact congrArg Prod.fst stopped
  | ok template =>
    rw [drafted] at ran
    obtain ⟨filtered, after, holes, complete, done⟩ := ran
    have grown := command.grown_of_complete complete
    have settled : after.Consistent := Grows.consistent ⟨_, grown⟩ consistent
    refine ⟨_, after.tokenOf, congrArg Prod.fst done, rfl, ?_⟩
    intro apart value hole
    rw [holes] at apart hole
    have taken : ∀ other ∈ filtered ++ command.assigned,
        other ∈ registry.values.map (·.2) ++ (command.assigned ++ filtered) := by
      intro other member
      exact List.mem_append_right _ (List.perm_append_comm.mem_iff.mp member)
    have listed := grown.listed_of_apart settled apart
      (fun entry member => List.mem_append_left _ (List.mem_map_of_mem member)) taken
      (List.perm_append_comm.mem_iff.mp hole)
    have carried := command.carried_of_listed complete hole listed
    exact get?_of_mem (command.carried_nodup settled) carried

/-- An update whose filter compares a status and a year, with a registry that
already holds a value for another clause. The status is meant twice, and the
year is given as text. -/
theorem compile_refines_template_of_update :
    let query : Query :=
      { table := "events", distinct := false, columns := [], joins := [],
        conditions := [⟨.and, .basic (.name "status") "=" (.bound (.int 200))⟩,
          ⟨.or, .datePart (.name "at") .year ">=" (.bound (.string " 2024 "))⟩],
        groups := [], orderings := [], limit := none, offset := none }
    let update := Command.update query ⟨[("status", .int 200), ("label", .string "visit")]⟩
    let template : Template :=
      [.text "alter table events update ", .text "status = ", .hole (.int 200), .text ", ",
        .text "label = ", .hole (.string "visit"), .text " ", .text "where ",
        .text "status = ", .hole (.int 200), .text " or ",
        .text "toYear(at) >= ", .hole (.int 2024)]
    update.template = .ok template ∧
      ∃ (statement : Statement) (naming : Value → Token),
        (update.compile.runOn (run [.bind .select (.string "unused")] Registry.empty)).1 =
            .ok statement ∧
          statement.sql = template.fill naming ∧
          ∀ value ∈ template.holes,
            statement.parameters.get? (naming value).text = some value := by
  intro query update template
  have drafted : update.template = .ok template := by
    subst template update query
    rfl
  have refined := compile_refines_template [.bind .select (.string "unused")] update
  rw [drafted] at refined
  obtain ⟨statement, naming, done, text, found⟩ := refined
  have apart : Value.DigestsApart
      [.string "unused", .int 200, .string "visit", .int 200, .int 2024] := by
    unfold Value.DigestsApart
    decide +kernel
  exact ⟨drafted, statement, naming, done, text, found apart⟩

end Command

end BoundSql
