import BoundSql.Proofs.Statement.Realisation

/-!
# Runs side by side

Two compilations are compared from every registry. Where both leave it alike and
stop at the same error or not at all, only their results differ, and what is
known of these is carried through what follows them.
-/

namespace BoundSql.Compile

variable {α β γ δ : Type}

/-- Two actions leave every registry alike, with the same error or with related results. An
action that stops is never related to one that does not. -/
def Related (relation : α → β → Prop) (first : Compile α) (second : Compile β) : Prop :=
  ∀ registry : Registry,
    match first.runOn registry, second.runOn registry with
    | (.ok result, after), (.ok other, later) => relation result other ∧ after = later
    | (.error error, after), (.error other, later) => error = other ∧ after = later
    | _, _ => False

namespace Related

variable {relation : α → β → Prop} {between : γ → δ → Prop}

/-- What is there at once is related as it stands. -/
theorem of_pure {result : α} {other : β} (holds : relation result other) :
    Related relation (pure result) (pure other) :=
  fun _ => ⟨holds, rfl⟩

/-- Related actions may be followed by what is related behind related results. -/
theorem bind {first : Compile α} {second : Compile β} {next : α → Compile γ}
    {follow : β → Compile δ} (start : Related relation first second)
    (follows : ∀ result other, relation result other →
      Related between (next result) (follow other)) :
    Related between (first >>= next) (second >>= follow) := by
  intro registry
  have here := start registry
  rw [runOn_bind, runOn_bind]
  split at here
  · rename_i result after other later ran alsoRan
    obtain ⟨related, rfl⟩ := here
    rw [ran, alsoRan]
    dsimp only
    exact follows result other related after
  · rename_i error after other later ran alsoRan
    obtain ⟨rfl, rfl⟩ := here
    rw [ran, alsoRan]
    exact ⟨rfl, rfl⟩
  · exact absurd here id

/-- An action is related to itself, by equality of its results. -/
theorem refl (action : Compile α) : Related (fun result other => result = other) action action := by
  intro registry
  cases action.runOn registry with
  | mk result after => cases result <;> exact ⟨rfl, rfl⟩

/-- What holds of the results of the second action holds in the relation. -/
theorem with_right {first : Compile α} {second : Compile β} {property : β → Prop}
    (related : Related relation first second)
    (yields : ∀ registry result after,
      second.runOn registry = (.ok result, after) → property result) :
    Related (fun result other => relation result other ∧ property other) first second := by
  intro registry
  have here := related registry
  split at here
  · rename_i result after other later ran alsoRan
    exact ⟨⟨here.1, yields registry other later alsoRan⟩, here.2⟩
  · exact here
  · exact absurd here id

end Related

end BoundSql.Compile
