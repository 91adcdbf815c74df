import BoundSql.Binding.Registry
import BoundSql.Proofs.Binding.Numbering
import BoundSql.Proofs.Mapping
import Mathlib.Data.List.Nodup

/-!
# How a registry grows

Everything that happens to a registry between two resets is a sequence of two
steps: a value gets its token, and a token is recorded for a clause. Growth by
such steps only ever appends, so a token once given stays, and it keeps the parts
of a registry consistent: tokens are numbered in the order of their values, the
fingerprints known are exactly those of the values, each once, and clauses hold
tokens that were given, each once.
-/

namespace BoundSql.Registry

/-- The parts of a registry say the same. The empty registry is consistent and every step keeps
it so; registries built in another way need not be. -/
structure Consistent (registry : Registry) : Prop where
  /-- The value at each place has the token with the place's number. -/
  numbered : registry.parameters.tokens = (List.range registry.size).map Token.nth
  /-- The known fingerprints are those of the values, with the values' tokens. -/
  known_eq : registry.known = registry.values.map fun entry => (entry.2.fingerprint, entry.1)
  /-- No two values have one fingerprint. -/
  distinct : (registry.values.map fun entry => entry.2.fingerprint).Nodup
  /-- A token is recorded for a clause once. -/
  recorded_once : registry.bindings.Nodup
  /-- Only tokens that were given are recorded. -/
  recorded_assigned : ∀ binding ∈ registry.bindings, binding.2 ∈ registry.parameters.tokens

/-- Nothing of the first registry was taken back in the second: each of its lists is the
beginning of the later one. -/
structure Extends (before after : Registry) : Prop where
  values : before.values <+: after.values
  known : before.known <+: after.known
  bindings : before.bindings <+: after.bindings

/-- The token that a registry gives to a value: the one it has already, or the one it would get
now. -/
def tokenOf (registry : Registry) (value : Value) : Token := (registry.assign value).1

/-- Growth by values that are taken one after the other, each in one of the two
ways a registry can take it. -/
inductive GrowsBy (before : Registry) : List Value → Registry → Prop
  | refl : GrowsBy before [] before
  | assign {values : List Value} {after : Registry} (grown : GrowsBy before values after)
      (value : Value) : GrowsBy before (values ++ [value]) (after.assign value).2
  | bind {values : List Value} {after : Registry} (grown : GrowsBy before values after)
      (group : Group) (value : Value) :
      GrowsBy before (values ++ [value]) (after.bind group value).2

/-- Growth by any values. Which they are is forgotten where it only matters that nothing was
taken back. -/
def Grows (before after : Registry) : Prop := ∃ values, GrowsBy before values after

/-- A value whose fingerprint is known changes nothing, and its token is the known one, whatever
value made it known. -/
theorem assign_of_known {registry : Registry} {value : Value} {token : Token}
    (known : registry.known.lookup value.fingerprint = some token) :
    registry.assign value = (token, registry) := by
  simp only [assign, known]

/-- A value whose fingerprint is new gets the next token, in both lists. -/
theorem assign_of_new {registry : Registry} {value : Value}
    (new : registry.known.lookup value.fingerprint = none) :
    registry.assign value = (Token.nth registry.size, { registry with
      known := registry.known ++ [(value.fingerprint, Token.nth registry.size)]
      values := registry.values ++ [(Token.nth registry.size, value)] }) := by
  simp only [assign, new]

/-! ## Nothing is taken back -/

/-- A registry extends itself. -/
theorem Extends.refl (registry : Registry) : Extends registry registry :=
  ⟨List.prefix_refl _, List.prefix_refl _, List.prefix_refl _⟩

/-- What extends an extension extends the first registry. -/
theorem Extends.trans {first second third : Registry} (start : Extends first second)
    (finish : Extends second third) : Extends first third :=
  ⟨start.values.trans finish.values, start.known.trans finish.known,
    start.bindings.trans finish.bindings⟩

/-- Giving a token only appends, and appends nothing for a known value. -/
theorem extends_assign (registry : Registry) (value : Value) :
    Extends registry (registry.assign value).2 := by
  cases known : registry.known.lookup value.fingerprint with
  | some token =>
    rw [assign_of_known known]
    exact Extends.refl registry
  | none =>
    rw [assign_of_new known]
    exact ⟨List.prefix_append _ _, List.prefix_append _ _, List.prefix_refl _⟩

/-- Recording a token only appends, and leaves values and fingerprints alone. -/
theorem extends_record (registry : Registry) (group : Group) (token : Token) :
    Extends registry (registry.record group token) := by
  unfold record
  split
  · exact Extends.refl registry
  · exact ⟨List.prefix_refl _, List.prefix_refl _, List.prefix_append _ _⟩

/-- Binding a value for a clause lists what giving it a token lists. The clause is recorded
elsewhere and adds no value. -/
theorem values_bind (registry : Registry) (group : Group) (value : Value) :
    (registry.bind group value).2.values = (registry.assign value).2.values := by
  change ((registry.assign value).2.record group (registry.tokenOf value)).values = _
  unfold record
  split <;> rfl

/-- A token that is recorded is among those recorded. -/
theorem mem_bindings_record (registry : Registry) (group : Group) (token : Token) :
    (group, token) ∈ (registry.record group token).bindings := by
  unfold record
  split
  · assumption
  · exact List.mem_append_right _ List.mem_cons_self

/-- The tokens recorded for a clause are those that are recorded with it. -/
theorem mem_group_iff {registry : Registry} {group : Group} {token : Token} :
    token ∈ registry.group group ↔ (group, token) ∈ registry.bindings := by
  unfold Registry.group
  simp

/-- Growth only appends. Induct over the steps: each of them extends what the steps before have
left. -/
theorem GrowsBy.extends {before after : Registry} {values : List Value}
    (grown : GrowsBy before values after) : Extends before after := by
  induction grown with
  | refl => exact Extends.refl before
  | assign grown value inductionHypothesis =>
    exact inductionHypothesis.trans (extends_assign _ value)
  | bind grown group value inductionHypothesis =>
    exact (inductionHypothesis.trans (extends_assign _ value)).trans (extends_record _ group _)

/-- What grows further has grown by all the values. -/
theorem GrowsBy.trans {first second third : Registry} {front back : List Value}
    (start : GrowsBy first front second) (finish : GrowsBy second back third) :
    GrowsBy first (front ++ back) third := by
  induction finish with
  | refl => exact (List.append_nil front).symm ▸ start
  | assign grown value inductionHypothesis =>
    exact List.append_assoc front _ _ ▸ inductionHypothesis.assign value
  | bind grown group value inductionHypothesis =>
    exact List.append_assoc front _ _ ▸ inductionHypothesis.bind group value

/-- Binding several values for a clause is growth by them, in their order and with repetitions. -/
theorem growsBy_bindAll (group : Group) (values : List Value) (registry : Registry) :
    GrowsBy registry values (registry.bindAll group values).2 := by
  induction values generalizing registry with
  | nil => exact GrowsBy.refl
  | cons value rest inductionHypothesis =>
    exact (GrowsBy.refl.bind group value).trans (inductionHypothesis (registry.bind group value).2)

/-- Giving tokens to several values is growth by them, in their order and with repetitions. -/
theorem growsBy_assignAll (values : List Value) (registry : Registry) :
    GrowsBy registry values (registry.assignAll values).2 := by
  induction values generalizing registry with
  | nil => exact GrowsBy.refl
  | cons value rest inductionHypothesis =>
    exact (GrowsBy.refl.assign value).trans (inductionHypothesis (registry.assign value).2)

/-- No growth is growth. -/
theorem Grows.refl (registry : Registry) : Grows registry registry := ⟨[], GrowsBy.refl⟩

/-- What grows further has grown from the start. -/
theorem Grows.trans {first second third : Registry} (start : Grows first second)
    (finish : Grows second third) : Grows first third := by
  obtain ⟨front, started⟩ := start
  obtain ⟨back, finished⟩ := finish
  exact ⟨front ++ back, started.trans finished⟩

/-- Growth only appends, whatever the values are. -/
theorem Grows.extends {before after : Registry} (grown : Grows before after) :
    Extends before after := by
  obtain ⟨values, grown⟩ := grown
  exact grown.extends

/-! ## Tokens stay -/

/-- What is found in a list is found in every list that continues it, since the first match
stays the first. -/
theorem lookup_of_continued {name : String} {token : Token} {known more : List (String × Token)}
    (continued : known <+: more) (found : known.lookup name = some token) :
    more.lookup name = some token := by
  obtain ⟨behind, rfl⟩ := continued
  rw [List.lookup_append, found, Option.some_or]

/-- A value that got a token is known by it, whether the token is new or was there before. -/
theorem lookup_assign (registry : Registry) (value : Value) :
    (registry.assign value).2.known.lookup value.fingerprint = some (registry.tokenOf value) := by
  unfold tokenOf
  cases known : registry.known.lookup value.fingerprint with
  | some token => rw [assign_of_known known, known]
  | none => simp [assign_of_new known, List.lookup_append, known]

/-- A value that was bound for a clause is known by its token. -/
theorem lookup_bind (registry : Registry) (group : Group) (value : Value) :
    (registry.bind group value).2.known.lookup value.fingerprint =
      some (registry.tokenOf value) :=
  lookup_of_continued (extends_record _ group _).known (lookup_assign registry value)

/-- A known value has the token it is known by, and looking it up changes nothing. -/
theorem tokenOf_of_known {registry : Registry} {value : Value} {token : Token}
    (known : registry.known.lookup value.fingerprint = some token) :
    registry.tokenOf value = token :=
  congrArg Prod.fst (assign_of_known known)

/-- A registry that extends another one knows its values by the same tokens. For values that
were not known before nothing is said. -/
theorem Extends.tokenOf_eq {before after : Registry} (continued : Extends before after)
    {value : Value} {token : Token}
    (known : before.known.lookup value.fingerprint = some token) :
    after.tokenOf value = token :=
  tokenOf_of_known (lookup_of_continued continued.known known)

/-- Growth makes its values known, each by the token it has in the end. -/
theorem GrowsBy.known_of_mem {before after : Registry} {values : List Value}
    (grown : GrowsBy before values after) {value : Value} (member : value ∈ values) :
    after.known.lookup value.fingerprint = some (after.tokenOf value) := by
  -- It is enough that some token is known: the value then has this one.
  suffices known : ∃ token, after.known.lookup value.fingerprint = some token by
    obtain ⟨token, known⟩ := known
    rw [known, tokenOf_of_known known]
  induction grown with
  | refl => cases member
  | @assign values between grown taken inductionHypothesis =>
    rcases List.mem_append.mp member with earlier | last
    · obtain ⟨token, known⟩ := inductionHypothesis earlier
      exact ⟨token, lookup_of_continued (extends_assign between taken).known known⟩
    · rw [List.mem_singleton.mp last]
      exact ⟨_, lookup_assign between taken⟩
  | @bind values between grown group taken inductionHypothesis =>
    have recorded := (extends_record (between.assign taken).2 group (between.tokenOf taken)).known
    rcases List.mem_append.mp member with earlier | last
    · obtain ⟨token, known⟩ := inductionHypothesis earlier
      have assigned := lookup_of_continued (extends_assign between taken).known known
      exact ⟨token, lookup_of_continued recorded assigned⟩
    · rw [List.mem_singleton.mp last]
      exact ⟨_, lookup_bind between group taken⟩

/-- The tokens of values that are bound together are those by which the registry knows them
in the end. Which of them were new is left open: an earlier one of the same call may
have made a later one known. -/
theorem tokens_bindAll (group : Group) (values : List Value) (registry : Registry) :
    (registry.bindAll group values).1 = values.map (registry.bindAll group values).2.tokenOf := by
  induction values generalizing registry with
  | nil => rfl
  | cons value rest inductionHypothesis =>
    have grown := (growsBy_bindAll group rest (registry.bind group value).2).extends
    have first : ((registry.bind group value).2.bindAll group rest).2.tokenOf value =
        registry.tokenOf value := grown.tokenOf_eq (lookup_bind registry group value)
    have others := inductionHypothesis (registry.bind group value).2
    exact congrArg₂ List.cons first.symm others

/-- Growth lists nothing but its values. Not all of them need be new entries, because an equal
value may have been listed before. -/
theorem GrowsBy.listed {before after : Registry} {values : List Value}
    (grown : GrowsBy before values after) {entry : Token × Value} (member : entry ∈ after.values) :
    entry ∈ before.values ∨ entry.2 ∈ values := by
  have assigned : ∀ (between : Registry) (taken : Value),
      entry ∈ (between.assign taken).2.values → entry ∈ between.values ∨ entry.2 = taken := by
    intro between taken listed
    cases known : between.known.lookup taken.fingerprint with
    | some token =>
      rw [assign_of_known known] at listed
      exact Or.inl listed
    | none =>
      rw [assign_of_new known] at listed
      rcases List.mem_append.mp listed with earlier | last
      · exact Or.inl earlier
      · exact Or.inr (congrArg Prod.snd (List.mem_singleton.mp last))
  induction grown with
  | refl => exact Or.inl member
  | @assign values between grown taken inductionHypothesis =>
    rcases assigned between taken member with earlier | same
    · exact (inductionHypothesis earlier).imp_right (List.mem_append_left _)
    · exact Or.inr (List.mem_append_right _ (List.mem_singleton.mpr same))
  | @bind values between grown group taken inductionHypothesis =>
    rw [values_bind] at member
    rcases assigned between taken member with earlier | same
    · exact (inductionHypothesis earlier).imp_right (List.mem_append_left _)
    · exact Or.inr (List.mem_append_right _ (List.mem_singleton.mpr same))

/-- Binding values for a clause records the tokens of them all for it. -/
theorem recorded_of_mem_bindAll (group : Group) {values : List Value} (registry : Registry)
    {value : Value} (member : value ∈ values) :
    (group, (registry.bindAll group values).2.tokenOf value) ∈
      (registry.bindAll group values).2.bindings := by
  induction values generalizing registry with
  | nil => cases member
  | cons first rest inductionHypothesis =>
    rcases List.mem_cons.mp member with rfl | later
    · have grown := (growsBy_bindAll group rest (registry.bind group value).2).extends
      have recorded : (group, registry.tokenOf value) ∈
          ((registry.bind group value).2.bindAll group rest).2.bindings :=
        grown.bindings.subset (mem_bindings_record (registry.assign value).2 group _)
      rw [← grown.tokenOf_eq (lookup_bind registry group value)] at recorded
      exact recorded
    · exact inductionHypothesis (registry.bind group first).2 later

/-! ## The parts stay consistent -/

/-- The registry in which nothing was bound is consistent. -/
theorem consistent_empty : empty.Consistent where
  numbered := rfl
  known_eq := rfl
  distinct := List.nodup_nil
  recorded_once := List.nodup_nil
  recorded_assigned := by simp [empty]

namespace Consistent

variable {registry : Registry}

/-- No token was given twice. The tokens are those with the numbers from zero on, and different
numbers have different words. -/
theorem tokens_nodup (consistent : registry.Consistent) : registry.parameters.tokens.Nodup := by
  rw [consistent.numbered]
  exact List.Nodup.map (fun _ _ same => Token.nth_injective same) List.nodup_range

/-- The next token was not given before: its number is the first that is not in use. -/
theorem next_notMem (consistent : registry.Consistent) :
    Token.nth registry.size ∉ registry.parameters.tokens := by
  rw [consistent.numbered]
  intro member
  obtain ⟨index, below, same⟩ := List.mem_map.mp member
  exact absurd (Token.nth_injective same) (Nat.ne_of_lt (List.mem_range.mp below))

/-- A fingerprint is known by a token exactly if a value with that fingerprint
has it. -/
theorem lookup_eq_some_iff (consistent : registry.Consistent) (fingerprint : String)
    (token : Token) :
    registry.known.lookup fingerprint = some token ↔
      ∃ value, (token, value) ∈ registry.values ∧ value.fingerprint = fingerprint := by
  have distinct := consistent.distinct
  rw [consistent.known_eq]
  generalize registry.values = values at distinct
  induction values with
  | nil => simp
  | cons entry rest inductionHypothesis =>
    obtain ⟨given, value⟩ := entry
    rw [List.map_cons, List.nodup_cons] at distinct
    by_cases same : value.fingerprint = fingerprint
    · -- A second value with this fingerprint would repeat it.
      have unique : ∀ other, (token, other) ∈ rest → other.fingerprint ≠ fingerprint := by
        intro other member repeated
        exact distinct.1 (List.mem_map.mpr ⟨(token, other), member, repeated.trans same.symm⟩)
      simp only [List.map_cons, same, List.lookup_cons_self, Option.some.injEq, List.mem_cons,
        Prod.mk.injEq]
      constructor
      · rintro rfl
        exact ⟨value, Or.inl ⟨rfl, rfl⟩, same⟩
      · rintro ⟨other, ⟨rfl, rfl⟩ | member, equal⟩
        · rfl
        · exact absurd equal (unique other member)
    · have apart : (fingerprint == value.fingerprint) = false := by simpa using Ne.symm same
      simp only [List.map_cons, List.lookup_cons, apart, inductionHypothesis distinct.2,
        List.mem_cons, Prod.mk.injEq]
      constructor
      · rintro ⟨other, member, equal⟩
        exact ⟨other, Or.inr member, equal⟩
      · rintro ⟨other, ⟨rfl, rfl⟩ | member, equal⟩
        · exact absurd equal same
        · exact ⟨other, member, equal⟩

/-- A listed value is known by its token. -/
theorem lookup_of_mem (consistent : registry.Consistent) {token : Token} {value : Value}
    (member : (token, value) ∈ registry.values) :
    registry.known.lookup value.fingerprint = some token :=
  (consistent.lookup_eq_some_iff value.fingerprint token).mpr ⟨value, member, rfl⟩

/-- A known token was given, so it stands for a value of the registry. -/
theorem mem_tokens_of_lookup (consistent : registry.Consistent) {fingerprint : String}
    {token : Token} (known : registry.known.lookup fingerprint = some token) :
    token ∈ registry.parameters.tokens := by
  obtain ⟨value, member, -⟩ := (consistent.lookup_eq_some_iff fingerprint token).mp known
  exact List.mem_map.mpr ⟨(token, value), member, rfl⟩

/-- No two fingerprints are known by one token. Tokens are distinct, so the token leads back to
one value and to its fingerprint. -/
theorem fingerprint_eq (consistent : registry.Consistent) {first second : String} {token : Token}
    (known : registry.known.lookup first = some token)
    (alsoKnown : registry.known.lookup second = some token) : first = second := by
  obtain ⟨value, member, rfl⟩ := (consistent.lookup_eq_some_iff first token).mp known
  obtain ⟨other, position, rfl⟩ := (consistent.lookup_eq_some_iff second token).mp alsoKnown
  have same := List.inj_on_of_nodup_map consistent.tokens_nodup member position rfl
  rw [(Prod.mk.inj same).2]

/-- Giving a token keeps the parts consistent. Only a new fingerprint changes
anything, and then both lists get the next number. -/
theorem assign (consistent : registry.Consistent) (value : Value) :
    (registry.assign value).2.Consistent := by
  cases known : registry.known.lookup value.fingerprint with
  | some token =>
    rw [assign_of_known known]
    exact consistent
  | none =>
    have new : value.fingerprint ∉ registry.values.map fun entry => entry.2.fingerprint := by
      intro member
      obtain ⟨⟨token, other⟩, listed, same⟩ := List.mem_map.mp member
      rw [← same, consistent.lookup_of_mem listed] at known
      cases known
    rw [assign_of_new known]
    refine ⟨?_, ?_, ?_, consistent.recorded_once, ?_⟩
    · have earlier := consistent.numbered
      simp only [parameters, Parameters.tokens, size] at earlier
      simp [parameters, Parameters.tokens, size, List.range_succ, earlier]
    · rw [consistent.known_eq, List.map_append, List.map_cons, List.map_nil]
    · rw [List.map_append, List.nodup_append]
      refine ⟨consistent.distinct, List.nodup_singleton _, ?_⟩
      rintro earlier member last position rfl
      have repeated : earlier = value.fingerprint := List.mem_singleton.mp position
      exact new (repeated ▸ member)
    · intro binding member
      have assigned := consistent.recorded_assigned binding member
      simp only [parameters, Parameters.tokens] at assigned ⊢
      rw [List.map_append]
      exact List.mem_append_left _ assigned

/-- Recording a token that was given keeps the parts consistent. A token that was never given
would make the clause point to no value. -/
theorem record (consistent : registry.Consistent) (group : Group) {token : Token}
    (assigned : token ∈ registry.parameters.tokens) :
    (registry.record group token).Consistent := by
  unfold Registry.record
  split
  · exact consistent
  · rename_i absent
    refine ⟨consistent.numbered, consistent.known_eq, consistent.distinct, ?_, ?_⟩
    · rw [List.nodup_append]
      refine ⟨consistent.recorded_once, List.nodup_singleton _, ?_⟩
      rintro earlier member last position rfl
      exact absent (List.mem_singleton.mp position ▸ member)
    · intro binding member
      rcases List.mem_append.mp member with earlier | last
      · exact consistent.recorded_assigned binding earlier
      · rw [List.mem_singleton.mp last]
        exact assigned

/-- A token just given is one of the tokens given. -/
theorem tokenOf_mem (consistent : registry.Consistent) (value : Value) :
    registry.tokenOf value ∈ (registry.assign value).2.parameters.tokens :=
  (consistent.assign value).mem_tokens_of_lookup (lookup_assign registry value)

/-- A value gets a token that is known already exactly if it has the fingerprint the token is
known for. A new value therefore gets a token that nothing else has. -/
theorem tokenOf_eq_iff (consistent : registry.Consistent) {fingerprint : String} {token : Token}
    (known : registry.known.lookup fingerprint = some token) (value : Value) :
    token = registry.tokenOf value ↔ fingerprint = value.fingerprint := by
  constructor
  · rintro rfl
    have still := lookup_of_continued (extends_assign registry value).known known
    exact (consistent.assign value).fingerprint_eq still (lookup_assign registry value)
  · rintro rfl
    exact (tokenOf_of_known known).symm

/-- Binding a value keeps the parts consistent. -/
theorem bind (consistent : registry.Consistent) (group : Group) (value : Value) :
    (registry.bind group value).2.Consistent :=
  (consistent.assign value).record group (consistent.tokenOf_mem value)

end Consistent

/-- Growth keeps the parts consistent. Induct over the steps, of which each keeps them so. -/
theorem Grows.consistent {before after : Registry} (grown : Grows before after)
    (consistent : before.Consistent) : after.Consistent := by
  obtain ⟨values, grown⟩ := grown
  induction grown with
  | refl => exact consistent
  | assign grown value inductionHypothesis => exact inductionHypothesis.assign value
  | bind grown group value inductionHypothesis => exact inductionHypothesis.bind group value

/-- The tokens recorded for a clause are no longer told by the clause, so a
token that is recorded once for each clause is once among them. -/
theorem Consistent.group_nodup {registry : Registry} (consistent : registry.Consistent)
    (group : Group) : (registry.group group).Nodup := by
  unfold Registry.group
  apply List.Nodup.map_on
  · rintro ⟨first, token⟩ member ⟨second, other⟩ position same
    have firstGroup : first = group := by simpa using (List.mem_filter.mp member).2
    have secondGroup : second = group := by simpa using (List.mem_filter.mp position).2
    rw [firstGroup, secondGroup, show token = other from same]
  · exact consistent.recorded_once.filter _

/-- The tokens recorded for a clause were given, so no clause holds a token without a value. -/
theorem Consistent.group_assigned {registry : Registry} (consistent : registry.Consistent)
    {group : Group} {token : Token} (member : token ∈ registry.group group) :
    token ∈ registry.parameters.tokens := by
  obtain ⟨binding, held, rfl⟩ := List.mem_map.mp member
  exact consistent.recorded_assigned binding (List.mem_filter.mp held).1

/-! ## Parameters with distinct tokens -/

/-- Under distinct tokens every value is found under its own. -/
theorem get?_of_mem {parameters : Parameters} (distinct : parameters.tokens.Nodup)
    {token : Token} {value : Value} (member : (token, value) ∈ parameters.entries) :
    parameters.get? token.text = some value := by
  obtain ⟨entries⟩ := parameters
  simp only [Parameters.tokens, Parameters.get?] at distinct member ⊢
  induction entries with
  | nil => simp at member
  | cons entry rest inductionHypothesis =>
    obtain ⟨first, held⟩ := entry
    rw [List.map_cons, List.nodup_cons] at distinct
    rcases List.mem_cons.mp member with same | later
    · obtain ⟨rfl, rfl⟩ := Prod.mk.inj same
      simp
    · have apart : (first.text == token.text) = false := by
        rw [beq_eq_false_iff_ne]
        intro same
        exact distinct.1 (List.mem_map.mpr ⟨(token, value), later, (Token.eq_of_text same).symm⟩)
      rw [List.find?_cons, apart]
      exact inductionHypothesis distinct.2 later

/-- Under distinct tokens the object handed to drivers has every value at its place. With a
repeated token one value would hide the other. -/
theorem toJson_of_nodup {parameters : Parameters} (distinct : parameters.tokens.Nodup) :
    parameters.toJson =
      .object (parameters.entries.map fun entry => (entry.1.text, entry.2.toJson)) := by
  have names : ((parameters.entries.map fun entry =>
      (entry.1.text, entry.2.toJson)).map (·.1)).Nodup := by
    have texts := List.Nodup.map (fun _ _ same => Token.eq_of_text same) distinct
    simpa [Parameters.tokens, Function.comp_def] using texts
  simp only [Parameters.toJson, Mapping.ofPairs_eq_self names]

end BoundSql.Registry
