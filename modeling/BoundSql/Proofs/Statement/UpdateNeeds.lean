import BoundSql.Proofs.Statement.Filter

/-!
# What an update needs

An update carries no value that it can do without. It needs the values it assigns
and those that were bound for a clause that an update has; columns to select and
joins are no such clauses. What is left out was bound for these at most, and its
token does not stand in the statement. That a value was bound for one of them, or
for none, before the statement meant it makes no difference.
-/

namespace BoundSql

namespace Registry

/-- An update with these assigned tokens needs a token: it is assigned, or it was
bound for a clause other than the selected columns and the joins. -/
def Needs (registry : Registry) (assigned : List Token) (token : Token) : Prop :=
  token ∈ assigned ∨ ∃ group, group ≠ .select ∧ group ≠ .join ∧ token ∈ registry.group group

/-- An update has all clauses but two: it selects nothing and joins nothing. -/
theorem excludedFromUpdate_eq_false_iff (group : Group) :
    group.excludedFromUpdate = false ↔ group ≠ .select ∧ group ≠ .join := by
  cases group <;> decide

/-- A token is bound for an update if one of the clauses that an update has holds it. -/
theorem boundForUpdate_iff {registry : Registry} {token : Token} :
    registry.boundForUpdate token = true ↔
      ∃ group, group ≠ .select ∧ group ≠ .join ∧ token ∈ registry.group group := by
  unfold boundForUpdate
  rw [List.any_eq_true]
  constructor
  · rintro ⟨⟨group, bound⟩, recorded, holds⟩
    rw [Bool.and_eq_true, beq_iff_eq, Bool.not_eq_true', excludedFromUpdate_eq_false_iff] at holds
    obtain ⟨rfl, included⟩ := holds
    exact ⟨group, included.1, included.2, mem_group_iff.mpr recorded⟩
  · rintro ⟨group, columns, joins, member⟩
    refine ⟨(group, token), mem_group_iff.mp member, ?_⟩
    rw [Bool.and_eq_true, beq_iff_eq, Bool.not_eq_true', excludedFromUpdate_eq_false_iff]
    exact ⟨rfl, columns, joins⟩

/-- The test for what is carried is the test for what is needed. The second is said without the
order of clauses or of bindings. -/
theorem needs_iff {registry : Registry} {assigned : List Token} {token : Token} :
    (assigned.contains token || registry.boundForUpdate token) = true ↔
      registry.Needs assigned token := by
  rw [Bool.or_eq_true, List.contains_iff_mem, boundForUpdate_iff]
  rfl

instance (registry : Registry) (assigned : List Token) (token : Token) :
    Decidable (registry.Needs assigned token) :=
  decidable_of_iff _ needs_iff

/-- The values that an update carries are those it needs, in the order of all. -/
theorem entries_parametersForUpdate (registry : Registry) (assigned : List Token) :
    (registry.parametersForUpdate assigned).entries =
      registry.parameters.entries.filter fun entry => registry.Needs assigned entry.1 := by
  refine List.filter_congr fun entry _ => ?_
  rw [Bool.eq_iff_iff, decide_eq_true_iff]
  exact needs_iff

/-- Only which of the given tokens are assigned matters, and not their order, their repetition
or tokens that no value has. -/
theorem parametersForUpdate_congr {registry : Registry} {assigned others : List Token}
    (same : ∀ token ∈ registry.parameters.tokens, token ∈ others ↔ token ∈ assigned) :
    registry.parametersForUpdate others = registry.parametersForUpdate assigned := by
  refine congrArg Parameters.mk (List.filter_congr fun entry listed => ?_)
  rw [Bool.eq_iff_iff, needs_iff, needs_iff]
  exact or_congr_left (same entry.1 (List.mem_map_of_mem listed))

/-! ## Clauses in any order -/

/-- The tokens gathered clause by clause behind those at hand, without the clauses
that an update does not have. -/
def gathered (registry : Registry) (clauses : List Group) (tokens : List Token) : List Token :=
  clauses.foldl (fun included group =>
    if group.excludedFromUpdate then included else included ++ registry.group group) tokens

/-- What is gathered was at hand or is held by one of the clauses. Induct over the clauses, with
the tokens at hand left arbitrary. -/
theorem mem_gathered {registry : Registry} {clauses : List Group} {tokens : List Token}
    {token : Token} : token ∈ registry.gathered clauses tokens ↔
      token ∈ tokens ∨
        ∃ group ∈ clauses, group.excludedFromUpdate = false ∧ token ∈ registry.group group := by
  induction clauses generalizing tokens with
  | nil => simp [gathered]
  | cons group rest inductionHypothesis =>
    rw [List.exists_mem_cons_iff, ← or_assoc]
    refine inductionHypothesis.trans (or_congr_left ?_)
    cases excluded : group.excludedFromUpdate <;> simp [excluded]

/-- In whatever order the clauses come up for which anything was bound, the values
under the tokens gathered from them are those that an update carries. -/
theorem parametersForUpdate_gathered {registry : Registry} {clauses : List Group}
    (complete : ∀ group, registry.group group ≠ [] → group ∈ clauses) (assigned : List Token) :
    registry.parametersForUpdate assigned =
      ⟨registry.values.filter fun entry => (registry.gathered clauses assigned).contains entry.1⟩ := by
  refine congrArg Parameters.mk (List.filter_congr fun entry _ => ?_)
  rw [Bool.eq_iff_iff, needs_iff, List.contains_iff_mem, mem_gathered]
  refine or_congr_right (exists_congr fun group => ?_)
  rw [excludedFromUpdate_eq_false_iff]
  constructor
  · rintro ⟨columns, joins, member⟩
    exact ⟨complete group (List.ne_nil_of_mem member), ⟨columns, joins⟩, member⟩
  · rintro ⟨-, ⟨columns, joins⟩, member⟩
    exact ⟨columns, joins, member⟩

/-! ## What a statement records -/

/-- What is recorded after a value was bound was recorded before or is its token. -/
theorem mem_bindings_bind {registry : Registry} {group : Group} {value : Value}
    {binding : Group × Token} (recorded : binding ∈ (registry.bind group value).2.bindings) :
    binding ∈ registry.bindings ∨ binding = (group, registry.tokenOf value) := by
  change binding ∈ ((registry.assign value).2.record group (registry.tokenOf value)).bindings
    at recorded
  have before := bindings_assign registry value
  unfold record at recorded
  split at recorded
  · exact Or.inl (before ▸ recorded)
  · rcases List.mem_append.mp recorded with earlier | last
    · exact Or.inl (before ▸ earlier)
    · exact Or.inr (List.mem_singleton.mp last)

/-- What is recorded after the values of a filter were bound was recorded before or
is the token of one of them, recorded for the filter. -/
theorem mem_bindings_withFilter {registry : Registry} {values : List Value}
    {binding : Group × Token} (recorded : binding ∈ (registry.withFilter values).bindings) :
    binding ∈ registry.bindings ∨
      ∃ value ∈ values, binding = (.whereClause, (registry.withFilter values).tokenOf value) := by
  induction values generalizing registry with
  | nil => exact Or.inl recorded
  | cons value rest inductionHypothesis =>
    change binding ∈ ((registry.bind .whereClause value).2.withFilter rest).bindings at recorded
    rcases inductionHypothesis recorded with
      earlier | ⟨other, member, rfl⟩
    · refine (mem_bindings_bind earlier).imp_right fun last => ?_
      have grown := growsBy_withFilter (registry.bind .whereClause value).2 rest
      refine ⟨value, List.mem_cons_self, last.trans ?_⟩
      rw [← grown.extends.tokenOf_eq (lookup_bind registry .whereClause value)]
      rfl
    · exact Or.inr ⟨other, List.mem_cons_of_mem value member, rfl⟩

/-- After the values of a filter were bound an update needs their tokens beside
what it needed before. -/
theorem needs_withFilter {registry after : Registry} {values assigned : List Value}
    (complete : after = ((registry.withFilter values).assignAll assigned).2) (token : Token) :
    after.Needs (assigned.map after.tokenOf) token ↔
      registry.Needs ((assigned ++ values).map after.tokenOf) token := by
  have finished := growsBy_assignAll assigned (registry.withFilter values)
  have started := registry.growsBy_withFilter values
  have bindings : after.bindings = (registry.withFilter values).bindings :=
    complete ▸ bindings_assignAll assigned _
  rw [← complete] at finished
  have tokens : ∀ value ∈ values, after.tokenOf value = (registry.withFilter values).tokenOf value :=
    fun value member => finished.extends.tokenOf_eq (started.known_of_mem member)
  rw [Needs, Needs, List.map_append, List.mem_append, or_assoc]
  refine or_congr_right ⟨?_, ?_⟩
  · rintro ⟨group, columns, joins, member⟩
    rw [mem_group_iff, bindings] at member
    rcases mem_bindings_withFilter member with earlier | ⟨value, inFilter, same⟩
    · exact Or.inr ⟨group, columns, joins, mem_group_iff.mpr earlier⟩
    · rw [(Prod.mk.inj same).2, ← tokens value inFilter]
      exact Or.inl (List.mem_map_of_mem inFilter)
  · rintro (written | ⟨group, columns, joins, member⟩)
    · obtain ⟨value, inFilter, rfl⟩ := List.mem_map.mp written
      have recorded := recorded_of_mem_bindAll .whereClause registry inFilter
      refine ⟨.whereClause, by decide, by decide, ?_⟩
      rw [mem_group_iff, bindings, tokens value inFilter]
      exact recorded
    · refine ⟨group, columns, joins, mem_group_iff.mpr ?_⟩
      rw [bindings]
      exact started.extends.bindings.subset (mem_group_iff.mp member)

end Registry

open Registry

namespace Command

/-- Whatever happened to a registry before, an update with given tokens carries,
of all values in their order and none twice, exactly those it needs. In which
order the clauses come up does not matter, and of the given tokens only which of
them are tokens of values. An update that is compiled is its text with holes,
filled; it carries a value under every token that fills a hole, and of all others
exactly those that were bound before for a clause that an update has. -/
theorem update_carries_what_it_needs (history : List Step) :
    let registry := run history Registry.empty
    (∀ assigned : List Token,
      (registry.parametersForUpdate assigned).entries =
          registry.parameters.entries.filter (fun entry => registry.Needs assigned entry.1) ∧
        (registry.parametersForUpdate assigned).tokens.Nodup ∧
        (∀ clauses : List Group, (∀ group, registry.group group ≠ [] → group ∈ clauses) →
          (registry.parametersForUpdate assigned).entries = registry.parameters.entries.filter
            fun entry => (registry.gathered clauses assigned).contains entry.1) ∧
        ∀ others : List Token,
          (∀ token ∈ registry.parameters.tokens, token ∈ others ↔ token ∈ assigned) →
            registry.parametersForUpdate others = registry.parametersForUpdate assigned) ∧
      ∀ (query : Query) (assignments : Record) (statement : Statement) (after : Registry),
        (Command.update query assignments).compile.runOn registry = (.ok statement, after) →
          ∃ template, (Command.update query assignments).template = .ok template ∧
            statement.sql = template.fill after.tokenOf ∧
            (∀ value ∈ template.holes, after.tokenOf value ∈ statement.parameters.tokens) ∧
            statement.parameters.entries = after.parameters.entries.filter
              fun entry => registry.Needs (template.holes.map after.tokenOf) entry.1 := by
  intro registry
  have consistent : registry.Consistent := consistent_run history
  constructor
  · intro assigned
    refine ⟨entries_parametersForUpdate registry assigned, ?_, ?_, ?_⟩
    · exact consistent.tokens_nodup.sublist (List.filter_sublist.map _)
    · intro clauses complete
      exact congrArg Parameters.entries (parametersForUpdate_gathered complete assigned)
    · exact fun others same => parametersForUpdate_congr same
  · intro query assignments statement after compiled
    obtain ⟨template, drafted⟩ := template_of_compiled (congrArg Prod.fst compiled)
    have holes := holes_template _ template drafted
    obtain ⟨final, complete, done⟩ := completes_with_values _ drafted registry
    rw [done] at compiled
    obtain ⟨same, rfl⟩ := Prod.mk.inj compiled
    obtain rfl := Except.ok.inj same
    have entries : ((Command.update query assignments).carried final).entries =
        final.parameters.entries.filter
          fun entry => registry.Needs (template.holes.map final.tokenOf) entry.1 := by
      refine (entries_parametersForUpdate final _).trans (List.filter_congr fun entry _ => ?_)
      rw [holes, decide_eq_decide]
      exact needs_withFilter complete entry.1
    refine ⟨template, drafted, rfl, ?_, entries⟩
    intro value hole
    have grown := (Command.update query assignments).grown_of_complete complete
    have settled : final.Consistent := Grows.consistent ⟨_, grown⟩ consistent
    rw [holes] at hole
    have known := grown.known_of_mem (List.perm_append_comm.mem_iff.mp hole)
    obtain ⟨entry, listed, token⟩ := List.mem_map.mp (settled.mem_tokens_of_lookup known)
    refine List.mem_map.mpr ⟨entry, ?_, token⟩
    rw [entries, List.mem_filter, decide_eq_true_iff]
    exact ⟨listed, Or.inl (token ▸ List.mem_map_of_mem (holes ▸ hole))⟩

/-- What was bound for a join or for no clause is carried where the update means it
as well, and what was bound for a column to select is left out. -/
example :
    let registry := run [.bind .select (.string "unused"), .bind .join (.int 200),
      .assign (.int 7), .bind .having (.int 9)] Registry.empty
    let query : Query :=
      { table := "events", distinct := false, columns := [], joins := [],
        conditions := [⟨.and, .basic (.name "status") "=" (.bound (.int 200))⟩],
        groups := [], orderings := [], limit := none, offset := none }
    let update := Command.update query ⟨[("label", .int 7)]⟩
    (update.compile.runOn registry).1.toOption.map
      (·.parameters.tokens.map Token.text) = some ["b", "c", "d"] := by
  decide +kernel

end Command

end BoundSql
