import BoundSql.Proofs.Statement.Reference

/-!
# What a draft yields

The statement that is meant may not exist: an operator may be illegal, a value
unusable. What holds of it where it exists is shown along the steps in which it
is drafted.
-/

namespace BoundSql

/-- What a draft yields, if it yields anything, has a property. Of a draft that fails nothing is
claimed. -/
def Yields {α : Type} (draft : Except CompileError α) (property : α → Prop) : Prop :=
  ∀ thing, draft = .ok thing → property thing

namespace Yields

variable {α β : Type} {property : β → Prop}

/-- What is there at once is what is yielded, and nothing else is. -/
theorem of_pure {thing : β} (holds : property thing) :
    Yields (pure thing) property := by
  rintro other ⟨⟩
  exact holds

/-- What follows has the property if it has it behind everything that comes
first. -/
theorem bind {first : Except CompileError α} {next : α → Except CompileError β}
    (follows : ∀ thing, first = .ok thing → Yields (next thing) property) :
    Yields (first >>= next) property := by
  cases first with
  | error error =>
    rintro thing ⟨⟩
  | ok thing => exact follows thing rfl

/-- A list of drafts yields things that have the property if each of them does. -/
theorem mapM {draft : α → Except CompileError β} {things : List α}
    (each : ∀ thing ∈ things, Yields (draft thing) property) :
    Yields (things.mapM draft) fun yielded => ∀ thing ∈ yielded, property thing := by
  induction things with
  | nil => exact of_pure fun thing member => absurd member List.not_mem_nil
  | cons first rest inductionHypothesis =>
    obtain ⟨here, others⟩ := List.forall_mem_cons.mp each
    rw [List.mapM_cons]
    refine bind fun thing yielded => bind fun remaining yieldedRest => of_pure ?_
    exact List.forall_mem_cons.mpr
      ⟨here thing yielded, inductionHypothesis others remaining yieldedRest⟩

end Yields

end BoundSql
