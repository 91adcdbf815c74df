import BoundSql.Proofs.Statement.Command

/-!
# Registries through whole histories

A registry serves many calls: values get tokens, are bound for clauses that may
not exist, statements are compiled or fail half way, and now and then all is
forgotten. Every step but the last kind is growth, so what holds of growth holds
of whole histories, and a registry that has any history at all is consistent.
-/

namespace BoundSql.Registry

/-- What can be asked of a registry. Looking values up is left out, since it changes nothing. -/
inductive Step
  /-- A token for a value, bound for no clause. -/
  | assign (value : Value)
  /-- A token for a value that is bound for a clause. -/
  | bind (group : Group) (value : Value)
  /-- The same, with the clause given by its name. -/
  | addBinding (value : Value) (name : String)
  /-- The same for several values. -/
  | addBindings (values : List Value) (name : String)
  /-- A statement. -/
  | compile (command : Command)
  /-- That all is forgotten. -/
  | reset

/-- The registry after a step, whether the step succeeds or fails. -/
def Step.apply : Step → Registry → Registry
  | .assign value, registry => (registry.assign value).2
  | .bind group value, registry => (registry.bind group value).2
  | .addBinding value name, registry => (registry.addBinding value name).2
  | .addBindings values name, registry => (registry.addBindings values name).2
  | .compile command, registry => (command.compile.runOn registry).2
  | .reset, _ => empty

/-- The registry after a history, one step after the other. -/
def run (steps : List Step) (registry : Registry) : Registry :=
  steps.foldl (fun before step => step.apply before) registry

/-- A history in which nothing is forgotten. Steps that fail are allowed in it, a
statement that stops half way among them. -/
def Lasting (steps : List Step) : Prop :=
  ∀ step ∈ steps, step ≠ .reset

/-- A registry is asked for the token of a value, in one of the four ways that answer with
tokens; the token is the answer, and another registry is left. Of several values that are
bound together each is given the token in its place. Statements are no such way: they
show tokens in their text and answer with none. -/
inductive Gives (before : Registry) : Value → Token → Registry → Prop
  | assign (value : Value) : Gives before value (before.assign value).1 (before.assign value).2
  | bind (group : Group) (value : Value) :
      Gives before value (before.bind group value).1 (before.bind group value).2
  | addBinding {value : Value} {name : String} {token : Token} {after : Registry}
      (added : before.addBinding value name = (.ok token, after)) : Gives before value token after
  | addBindings {values : List Value} {name : String} {tokens : List Token} {after : Registry}
      (added : before.addBindings values name = (.ok tokens, after)) {value : Value} {token : Token}
      (placed : (value, token) ∈ values.zip tokens) : Gives before value token after

/-! ## Steps grow the registry -/

/-- Compiling a statement is growth, also when it fails: what was bound before the error stays. -/
theorem grows_compile (command : Command) (registry : Registry) :
    Grows registry (command.compile.runOn registry).2 := by
  have ran := command.completes registry
  cases drafted : command.template with
  | error error =>
    rw [drafted] at ran
    obtain ⟨after, grown, stopped⟩ := ran
    rw [stopped]
    exact grown
  | ok template =>
    rw [drafted] at ran
    obtain ⟨filtered, after, -, rfl, done⟩ := ran
    rw [done]
    exact ⟨_, (registry.growsBy_withFilter filtered).trans (growsBy_assignAll _ _)⟩

/-- Binding a value for a named clause is growth; a name that no clause has
leaves everything as it is. -/
theorem grows_addBinding (value : Value) (name : String) (registry : Registry) :
    Grows registry (registry.addBinding value name).2 := by
  unfold addBinding
  cases groupNamed name with
  | error error => exact Grows.refl registry
  | ok group => exact ⟨_, GrowsBy.refl.bind group value⟩

/-- Binding several values for a named clause is growth. A name that no clause has binds none of
them. -/
theorem grows_addBindings (values : List Value) (name : String) (registry : Registry) :
    Grows registry (registry.addBindings values name).2 := by
  unfold addBindings
  cases groupNamed name with
  | error error => exact Grows.refl registry
  | ok group => exact ⟨values, growsBy_bindAll group values registry⟩

/-- Every step that does not forget is growth, whatever it answers. -/
theorem Step.grows {step : Step} (lasting : step ≠ .reset) (registry : Registry) :
    Grows registry (step.apply registry) := by
  cases step with
  | assign value => exact ⟨_, GrowsBy.refl.assign value⟩
  | bind group value => exact ⟨_, GrowsBy.refl.bind group value⟩
  | addBinding value name => exact grows_addBinding value name registry
  | addBindings values name => exact grows_addBindings values name registry
  | compile command => exact grows_compile command registry
  | reset => exact absurd rfl lasting

/-- A lasting history is growth. Induct over the history, with the registry left arbitrary. -/
theorem grows_run {steps : List Step} (lasting : Lasting steps) (registry : Registry) :
    Grows registry (run steps registry) := by
  induction steps generalizing registry with
  | nil => exact Grows.refl registry
  | cons step rest inductionHypothesis =>
    have first : Grows registry (step.apply registry) :=
      Step.grows (lasting step List.mem_cons_self) registry
    have others : Lasting rest :=
      fun other member => lasting other (List.mem_cons_of_mem step member)
    exact first.trans (inductionHypothesis others (step.apply registry))

/-- Every step keeps a registry consistent. -/
theorem Consistent.step {registry : Registry} (consistent : registry.Consistent) (step : Step) :
    (step.apply registry).Consistent := by
  by_cases forgets : step = .reset
  · rw [forgets]
    exact consistent_empty
  · exact (Step.grows forgets registry).consistent consistent

/-- Every registry with a history is consistent, resets included: a reset leaves the empty
registry, which is. -/
theorem consistent_run (steps : List Step) : (run steps empty).Consistent := by
  have general : ∀ registry : Registry, registry.Consistent → (run steps registry).Consistent := by
    induction steps with
    | nil => exact fun registry consistent => consistent
    | cons step rest inductionHypothesis =>
      exact fun registry consistent => inductionHypothesis _ (consistent.step step)
  exact general empty consistent_empty

/-! ## What a consistent registry promises -/

/-- A name that no clause has is refused, and the error shows it. -/
theorem groupNamed_of_unknown {name : String} (unknown : ∀ group : Group, group.name ≠ name) :
    groupNamed name = .error (.unknownGroup name) := by
  have none : Group.ofName? name = none := by
    unfold Group.ofName?
    rw [List.find?_eq_none]
    intro group member
    simpa using unknown group
  unfold groupNamed
  rw [none]

/-- A clause is found under its name. -/
theorem groupNamed_name (group : Group) : groupNamed group.name = .ok group := by
  unfold groupNamed
  rw [Group.ofName?_name]

/-- To bind a value for a clause given by its name is to bind it for that clause. -/
theorem addBinding_name (registry : Registry) (group : Group) (value : Value) :
    registry.addBinding value group.name =
      (.ok (registry.bind group value).1, (registry.bind group value).2) := by
  unfold addBinding
  rw [groupNamed_name]

/-- The same for several values, which are bound in their order. -/
theorem addBindings_name (registry : Registry) (group : Group) (values : List Value) :
    registry.addBindings values group.name =
      (.ok (registry.bindAll group values).1, (registry.bindAll group values).2) := by
  unfold addBindings
  rw [groupNamed_name]

/-- A value that was bound under a name was bound for a clause. -/
theorem exists_bind_of_addBinding {registry after : Registry} {value : Value} {name : String}
    {token : Token} (added : registry.addBinding value name = (.ok token, after)) :
    ∃ group, (registry.bind group value).1 = token ∧ (registry.bind group value).2 = after := by
  unfold addBinding at added
  cases named : groupNamed name with
  | error error =>
    rw [named] at added
    cases added
  | ok group =>
    rw [named] at added
    cases added
    exact ⟨group, rfl, rfl⟩

/-- Values that were bound under a name were bound for one clause. No name is refused half way. -/
theorem exists_bindAll_of_addBindings {registry after : Registry} {values : List Value}
    {name : String} {tokens : List Token}
    (added : registry.addBindings values name = (.ok tokens, after)) :
    ∃ group, (registry.bindAll group values).1 = tokens ∧
      (registry.bindAll group values).2 = after := by
  unfold addBindings at added
  cases named : groupNamed name with
  | error error =>
    rw [named] at added
    cases added
  | ok group =>
    rw [named] at added
    cases added
    exact ⟨group, rfl, rfl⟩

/-- Whichever way a value was given a token, the registry only grew and knows the value by
it. Nothing is assumed of the registry before: whether it knows another fingerprint by
that token as well is for consistency to say. -/
theorem Gives.known {before after : Registry} {value : Value} {token : Token}
    (given : Gives before value token after) :
    Grows before after ∧ after.known.lookup value.fingerprint = some token := by
  cases given with
  | assign => exact ⟨⟨_, GrowsBy.refl.assign value⟩, lookup_assign before value⟩
  | bind group => exact ⟨⟨_, GrowsBy.refl.bind group value⟩, lookup_bind before group value⟩
  | addBinding added =>
    obtain ⟨group, rfl, rfl⟩ := exists_bind_of_addBinding added
    exact ⟨⟨_, GrowsBy.refl.bind group value⟩, lookup_bind before group value⟩
  | @addBindings values _ _ _ added _ _ placed =>
    obtain ⟨group, rfl, rfl⟩ := exists_bindAll_of_addBindings added
    have grown := growsBy_bindAll group values before
    rw [tokens_bindAll, ← List.map_prod_left_eq_zip] at placed
    obtain ⟨_, member, same⟩ := List.mem_map.mp placed
    cases same
    exact ⟨⟨values, grown⟩, grown.known_of_mem member⟩

/-- Two tokens by which a consistent registry knows two values are equal exactly if the
fingerprints are. One direction is that a look-up has one result, the other that no two
fingerprints are known by one token. -/
theorem Consistent.token_eq_iff {registry : Registry} (consistent : registry.Consistent)
    {first second : String} {token other : Token}
    (known : registry.known.lookup first = some token)
    (alsoKnown : registry.known.lookup second = some other) : token = other ↔ first = second := by
  constructor
  · rintro rfl
    exact consistent.fingerprint_eq known alsoKnown
  · rintro rfl
    exact Option.some.inj (known.symm.trans alsoKnown)

/-- Tokens stay: what a value was given is what any value of its fingerprint is given after a
lasting history, and no value of another one is. -/
theorem Gives.token_eq_iff {before between after : Registry} (consistent : before.Consistent)
    {first second : Value} {token other : Token} (given : Gives before first token between)
    {steps : List Step} (lasting : Lasting steps)
    (later : Gives (run steps between) second other after) :
    token = other ↔ first.fingerprint = second.fingerprint := by
  obtain ⟨grown, known⟩ := given.known
  obtain ⟨last, alsoKnown⟩ := later.known
  have whole : Grows between after := (grows_run lasting between).trans last
  have still := lookup_of_continued whole.extends.known known
  exact (whole.consistent (grown.consistent consistent)).token_eq_iff still alsoKnown

/-- A registry with a history keeps its three lists in step: the place of a
value is the number of its token, the fingerprints known are those of the values
and all differ, and every clause holds tokens that were given, each once. So
each value is found under its token and stands at its place in what drivers are
handed. Names that no clause has change nothing, and under the name of a clause a
value is bound for that clause, which then holds its token.

However a value is given a token, by itself, for a clause, or with others under a
name, it is listed under the token from then on, or another value of its fingerprint
is. Until all is forgotten the values only get more, and two values that are given
tokens, each in any of these ways and with any steps between, get the same one
exactly if their fingerprints agree. That different values have different
fingerprints is not said here; it rests on the digest.

Proof: steps that do not forget are growth, and growth keeps what is known of a
fingerprint. Each way of giving a token ends in a registry that knows the value by it, so
two tokens are compared in the last registry, where a token is known for one
fingerprint. -/
theorem history_keeps_lists_in_step (history : List Step) :
    let registry := run history empty
    (∀ index, ∀ entry, registry.values[index]? = some entry → entry.1 = Token.nth index) ∧
      registry.known = (registry.values.map fun entry => (entry.2.fingerprint, entry.1)) ∧
      (registry.values.map fun entry => entry.2.fingerprint).Nodup ∧
      (∀ group, (registry.group group).Nodup ∧
        ∀ token ∈ registry.group group, token ∈ registry.parameters.tokens) ∧
      registry.parameters.tokens.Nodup ∧
      (∀ entry ∈ registry.parameters.entries,
        registry.parameters.get? entry.1.text = some entry.2) ∧
      registry.parameters.toJson = .object
        (registry.parameters.entries.map fun entry => (entry.1.text, entry.2.toJson)) ∧
      (∀ name, (∀ group : Group, group.name ≠ name) →
        (∀ value, registry.addBinding value name = (.error (.unknownGroup name), registry)) ∧
          ∀ values, registry.addBindings values name =
            (.error (.unknownGroup name), registry)) ∧
      (∀ group : Group,
        (∀ value, registry.addBinding value group.name =
            (.ok (registry.bind group value).1, (registry.bind group value).2) ∧
          (registry.bind group value).1 ∈ (registry.bind group value).2.group group) ∧
        ∀ values, registry.addBindings values group.name =
            (.ok (registry.bindAll group values).1, (registry.bindAll group values).2) ∧
          (registry.bindAll group values).1.length = values.length ∧
          ∀ token ∈ (registry.bindAll group values).1,
            token ∈ (registry.bindAll group values).2.group group) ∧
      (∀ first token between, Gives registry first token between →
        (∃ entry ∈ between.parameters.entries,
          entry.1 = token ∧ entry.2.fingerprint = first.fingerprint) ∧
        (∀ second other, Gives registry second other between →
          (token = other ↔ first.fingerprint = second.fingerprint)) ∧
        ∀ steps, Lasting steps → ∀ second other after,
          Gives (run steps between) second other after →
            (token = other ↔ first.fingerprint = second.fingerprint)) ∧
      ∀ steps, Lasting steps →
        registry.parameters.entries <+: (run steps registry).parameters.entries ∧
          (∀ group value, ((run steps registry).bind group value).1 =
            ((run steps registry).assign value).1) ∧
          ∀ entry ∈ registry.parameters.entries, ∀ value token after,
            Gives (run steps registry) value token after →
              (token = entry.1 ↔ value.fingerprint = entry.2.fingerprint) := by
  intro registry
  have consistent : registry.Consistent := consistent_run history
  refine ⟨?_, consistent.known_eq, consistent.distinct, ?_, consistent.tokens_nodup, ?_,
    toJson_of_nodup consistent.tokens_nodup, ?_, ?_, ?_, ?_⟩
  · intro index entry listed
    have token : registry.parameters.tokens[index]? = some entry.1 := by
      simp [Parameters.tokens, parameters, listed]
    have below : index < registry.size := (List.getElem?_eq_some_iff.mp listed).1
    rw [consistent.numbered, List.getElem?_map, List.getElem?_range below] at token
    exact (Option.some.inj token).symm
  · intro group
    exact ⟨consistent.group_nodup group, fun token member => consistent.group_assigned member⟩
  · intro entry member
    exact get?_of_mem consistent.tokens_nodup member
  · intro name unknown
    have refused := groupNamed_of_unknown unknown
    refine ⟨fun value => ?_, fun values => ?_⟩
    · rw [addBinding, refused]
    · rw [addBindings, refused]
  · intro group
    refine ⟨fun value => ⟨addBinding_name registry group value, ?_⟩, fun values =>
      ⟨addBindings_name registry group values, ?_, ?_⟩⟩
    · exact mem_group_iff.mpr (mem_bindings_record (registry.assign value).2 group _)
    · rw [tokens_bindAll, List.length_map]
    · intro token member
      rw [tokens_bindAll] at member
      obtain ⟨value, taken, rfl⟩ := List.mem_map.mp member
      exact mem_group_iff.mpr (recorded_of_mem_bindAll group registry taken)
  · intro first token between given
    obtain ⟨grown, known⟩ := given.known
    have settled : between.Consistent := grown.consistent consistent
    refine ⟨?_, ?_, fun steps lasting second other after => given.token_eq_iff consistent lasting⟩
    · obtain ⟨value, listed, same⟩ := (settled.lookup_eq_some_iff _ token).mp known
      exact ⟨(token, value), listed, rfl, same⟩
    · intro second other also
      exact settled.token_eq_iff known also.known.2
  · intro steps lasting
    have grown := grows_run lasting registry
    refine ⟨grown.extends.values, fun _ _ => rfl, ?_⟩
    intro entry member value token after given
    obtain ⟨last, known⟩ := given.known
    have whole : Grows registry after := grown.trans last
    have listed := lookup_of_continued whole.extends.known (consistent.lookup_of_mem member)
    exact (whole.consistent consistent).token_eq_iff known listed

end BoundSql.Registry
