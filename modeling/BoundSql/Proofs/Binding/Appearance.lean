import BoundSql.Proofs.Binding.Registry
import Mathlib.Data.List.Induction

/-!
# Tokens in the order of appearance

Values may be taken many times, and tokens appear with them many times. If each
token is kept where it appears first, what is kept are the tokens of the
registry, in its order: a new token is always the next one.
-/

namespace BoundSql

/-- The things found, and another one behind them unless it was found already. -/
def appear {α : Type} [BEq α] (found : List α) (thing : α) : List α :=
  if found.contains thing then found else found ++ [thing]

/-- What was found before stays in front, in its order, so nothing that appears later moves it. -/
theorem prefix_foldl_appear {α : Type} [BEq α] (found things : List α) :
    found <+: things.foldl appear found := by
  induction things generalizing found with
  | nil => exact List.prefix_refl found
  | cons first rest inductionHypothesis =>
    have step : found <+: appear found first := by
      unfold appear
      split
      · exact List.prefix_refl found
      · exact List.prefix_append found [first]
    exact step.trans (inductionHypothesis (appear found first))

section Appearance

variable {α β : Type} [BEq α] [LawfulBEq α] [BEq β] [LawfulBEq β] {found things : List α}

/-- What has appeared was found before or is one of the things. How often a thing came up does
not matter. -/
theorem mem_foldl_appear {thing : α} :
    thing ∈ things.foldl appear found ↔ thing ∈ found ∨ thing ∈ things := by
  induction things generalizing found with
  | nil => simp
  | cons first rest inductionHypothesis =>
    have step : thing ∈ appear found first ↔ thing ∈ found ∨ thing = first := by
      unfold appear
      split
      · rename_i known
        refine ⟨Or.inl, ?_⟩
        rintro (earlier | rfl)
        · exact earlier
        · exact List.contains_iff_mem.mp known
      · simp
    rw [List.foldl_cons, inductionHypothesis, step, List.mem_cons, or_assoc]

/-- What has appeared is kept once, if what was found before held nothing twice. -/
theorem nodup_foldl_appear (once : found.Nodup) : (things.foldl appear found).Nodup := by
  induction things generalizing found with
  | nil => exact once
  | cons first rest inductionHypothesis =>
    refine inductionHypothesis ?_
    unfold appear
    split
    · exact once
    · rename_i new
      rw [List.nodup_append]
      refine ⟨once, List.nodup_singleton _, ?_⟩
      rintro earlier member last position rfl
      exact new (List.contains_iff_mem.mpr (List.mem_singleton.mp position ▸ member))

/-- Of two things that have appeared, the one in front came up when the other had not. -/
theorem pairwise_foldl_appear (things : List α) :
    (things.foldl appear []).Pairwise fun first second =>
      ∃ front back, things = front ++ first :: back ∧ second ∉ front ++ [first] := by
  induction things using List.reverseRecOn with
  | nil => exact List.Pairwise.nil
  | append_singleton earlier last inductionHypothesis =>
    have kept : (earlier.foldl appear []).Pairwise fun first second =>
        ∃ front back, earlier ++ [last] = front ++ first :: back ∧ second ∉ front ++ [first] :=
      inductionHypothesis.imp fun ⟨front, back, parts, new⟩ =>
        ⟨front, back ++ [last], by simp [parts], new⟩
    rw [List.foldl_append, List.foldl_cons, List.foldl_nil, appear]
    split
    · exact kept
    · rename_i unknown
      have new : last ∉ earlier :=
        fun member => unknown (List.contains_iff_mem.mpr (mem_foldl_appear.mpr (Or.inr member)))
      rw [List.pairwise_append]
      refine ⟨kept, List.pairwise_singleton _ _, ?_⟩
      intro first found second position
      obtain rfl := List.mem_singleton.mp position
      have member : first ∈ earlier := (mem_foldl_appear.mp found).resolve_left List.not_mem_nil
      obtain ⟨front, back, rfl⟩ := List.append_of_mem member
      refine ⟨front, back ++ [second], by simp, fun among => new ?_⟩
      rw [List.append_cons]
      exact List.mem_append_left back among

/-- Things that are told apart appear in the order of their names. Names that two things share
would hide one of them. -/
theorem foldl_appear_map {name : α → β} (injective : Function.Injective name)
    (found things : List α) :
    (things.map name).foldl appear (found.map name) = (things.foldl appear found).map name := by
  induction things generalizing found with
  | nil => rfl
  | cons first rest inductionHypothesis =>
    have step : appear (found.map name) (name first) = (appear found first).map name := by
      have same : (found.map name).contains (name first) = found.contains first := by
        rw [Bool.eq_iff_iff, List.contains_iff_mem, List.contains_iff_mem,
          List.mem_map_of_injective injective]
      unfold appear
      rw [same]
      split <;> simp
    rw [List.map_cons, List.foldl_cons, List.foldl_cons, step, inductionHypothesis]

/-- What is the same in another order appears in another order: which things appear does not
depend on the order, only where they stand. -/
theorem foldl_appear_perm {others : List α} (same : things.Perm others) :
    (things.foldl appear []).Perm (others.foldl appear []) := by
  rw [List.perm_ext_iff_of_nodup (nodup_foldl_appear List.nodup_nil)
    (nodup_foldl_appear List.nodup_nil)]
  intro thing
  rw [mem_foldl_appear, mem_foldl_appear, same.mem_iff]

end Appearance

namespace Registry

/-- A value's token appears behind the tokens given before, if it is new. Consistency is needed
to tell that a new fingerprint gets a new token. -/
theorem Consistent.tokens_assign {registry : Registry} (consistent : registry.Consistent)
    (value : Value) : (registry.assign value).2.parameters.tokens =
      appear registry.parameters.tokens (registry.tokenOf value) := by
  unfold appear
  cases known : registry.known.lookup value.fingerprint with
  | some token =>
    have given := consistent.mem_tokens_of_lookup known
    rw [tokenOf_of_known known, assign_of_known known, if_pos (List.contains_iff_mem.mpr given)]
  | none =>
    have next : registry.tokenOf value = Token.nth registry.size :=
      congrArg Prod.fst (assign_of_new known)
    have new : ¬ registry.parameters.tokens.contains (Token.nth registry.size) = true :=
      fun given => consistent.next_notMem (List.contains_iff_mem.mp given)
    rw [next, if_neg new, assign_of_new known]
    simp [parameters, Parameters.tokens]

/-- One more value: no other token changes, and its own appears if it is new. -/
theorem GrowsBy.tokens_step {before between after : Registry} {values : List Value} {value : Value}
    (grown : GrowsBy before values between) (consistent : between.Consistent)
    (earlier : between.parameters.tokens =
      (values.map between.tokenOf).foldl appear before.parameters.tokens)
    (listed : after.values = (between.assign value).2.values)
    (extended : Extends (between.assign value).2 after) :
    after.parameters.tokens =
      ((values ++ [value]).map after.tokenOf).foldl appear before.parameters.tokens := by
  have last : after.tokenOf value = between.tokenOf value :=
    extended.tokenOf_eq (lookup_assign between value)
  have others : values.map after.tokenOf = values.map between.tokenOf := by
    refine List.map_congr_left fun other member => ?_
    have continued := (extends_assign between value).trans extended
    exact continued.tokenOf_eq (grown.known_of_mem member)
  have same : after.parameters.tokens = (between.assign value).2.parameters.tokens :=
    congrArg (List.map Prod.fst) listed
  rw [same, consistent.tokens_assign, earlier, List.map_append, others, List.foldl_append,
    List.map_singleton, last]
  rfl

/-- The tokens of a registry are those of its earlier values and, behind them,
those of the values it has grown by, where they appear first. -/
theorem GrowsBy.tokens_eq {before after : Registry} {values : List Value}
    (grown : GrowsBy before values after) (consistent : before.Consistent) :
    after.parameters.tokens =
      (values.map after.tokenOf).foldl appear before.parameters.tokens := by
  induction grown with
  | refl => rfl
  | @assign values between grown value inductionHypothesis =>
    exact grown.tokens_step (Grows.consistent ⟨values, grown⟩ consistent) inductionHypothesis rfl
      (Extends.refl _)
  | @bind values between grown group value inductionHypothesis =>
    exact grown.tokens_step (Grows.consistent ⟨values, grown⟩ consistent) inductionHypothesis
      (values_bind between group value) (extends_record _ group _)

end Registry

end BoundSql
