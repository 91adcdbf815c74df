import BoundSql.Proofs.Binding.Registry
import BoundSql.Proofs.Statement.Reference

/-!
# Compiling fills the holes

A compilation with a registry is followed step by step by what is meant without
one: it binds the values of the holes in reading order and yields the text with
the holes filled by the tokens these values have from then on. Tokens stay, so
a fragment that is filled early reads the same when the statement is complete.
-/

namespace BoundSql

/-! ## Running a compilation -/

namespace Compile

variable {α β : Type}

/-- What is there at once leaves the registry alone. -/
theorem runOn_pure (result : α) (registry : Registry) :
    (pure result : Compile α).runOn registry = (.ok result, registry) := rfl

/-- What follows an action starts from its result and from the registry it
leaves; an error is final. -/
theorem runOn_bind (action : Compile α) (next : α → Compile β) (registry : Registry) :
    (action >>= next).runOn registry =
      match action.runOn registry with
      | (.ok result, after) => (next result).runOn after
      | (.error error, after) => (.error error, after) := by
  change (match action.run registry with
    | (result, after) => ExceptT.bindCont next result after) = _
  unfold runOn
  cases action.run registry with
  | mk result after => cases result <;> rfl

/-- A result that does not depend on the registry leaves it alone. -/
theorem runOn_ofExcept (result : Except CompileError α) (registry : Registry) :
    (ofExcept result).runOn registry = (result, registry) := by
  cases result <;> rfl

end Compile

/-! ## Things with holes -/

/-- Things that hold texts with holes, and become things that hold texts. What an action yields
along the way is filled in the same manner as the text in the end. -/
class Fillable (τ : Type) (α : outParam Type) where
  /-- The values of the holes, in reading order. -/
  holes : τ → List Value
  /-- The thing with its holes filled. -/
  fill : (Value → Token) → τ → α

namespace Fillable

variable {τ α κ : Type} [Fillable τ α]

instance : Fillable Template String := ⟨Template.holes, Template.fill⟩
instance : Fillable (Option τ) (Option α) :=
  ⟨fun thing => thing.toList.flatMap holes, fun naming => Option.map (fill naming)⟩
instance : Fillable (κ × τ) (κ × α) :=
  ⟨fun thing => holes thing.2, fun naming thing => (thing.1, fill naming thing.2)⟩
instance (priority := low) : Fillable (List τ) (List α) :=
  ⟨List.flatMap holes, fun naming => List.map (fill naming)⟩

/-- What may be missing has the holes of what is there. -/
theorem holes_some (thing : τ) : holes (some thing) = holes thing :=
  List.flatMap_singleton _ _

end Fillable

open Fillable

namespace Registry

/-- The registry after the values of a filter were bound, in their order and for the where
clause. -/
def withFilter (registry : Registry) (values : List Value) : Registry :=
  (registry.bindAll .whereClause values).2

/-- A filter without values binds nothing. -/
theorem withFilter_nil (registry : Registry) : registry.withFilter [] = registry := rfl

/-- The values of a filter may be bound in two portions. -/
theorem withFilter_append (registry : Registry) (front back : List Value) :
    registry.withFilter (front ++ back) = (registry.withFilter front).withFilter back := by
  induction front generalizing registry with
  | nil => rfl
  | cons value rest inductionHypothesis => exact inductionHypothesis _

/-- Binding the values of a filter is growth by them. -/
theorem growsBy_withFilter (registry : Registry) (values : List Value) :
    GrowsBy registry values (registry.withFilter values) :=
  growsBy_bindAll .whereClause values registry

end Registry

/-- An action with a registry does what a draft without one says: it binds the
values of the draft's holes, and its result is the draft filled with the tokens
that every later registry has for them. It fails where the draft fails, with
the same error. -/
def Realises {τ α : Type} [Fillable τ α] (action : Compile α) (draft : Except CompileError τ) :
    Prop :=
  ∀ registry : Registry,
    match draft with
    | .ok shape => ∀ later : Registry, (registry.withFilter (holes shape)).Extends later →
        action.runOn registry =
          (.ok (fill later.tokenOf shape), registry.withFilter (holes shape))
    | .error error => ∃ values, action.runOn registry = (.error error, registry.withFilter values)

namespace Realises

variable {σ τ υ α β γ : Type} [Fillable σ α] [Fillable τ β] [Fillable υ γ]

/-- A result that is the same under every naming realises what has no holes. -/
theorem of_closed {shape : τ} {result : β} (closed : holes shape = [])
    (same : ∀ naming, fill naming shape = result) :
    Realises (pure result) (.ok shape) := by
  intro registry later extended
  rw [closed, Registry.withFilter_nil, same, Compile.runOn_pure]

/-- What is made of a result realises what is made of the draft, if it has the same holes.
Making it must commute with filling. -/
theorem map {action : Compile α} {draft : Except CompileError σ} (start : Realises action draft)
    (form : α → β) (shape : σ → τ) (sameHoles : ∀ thing, holes (shape thing) = holes thing)
    (sameFill : ∀ naming thing, fill naming (shape thing) = form (fill naming thing)) :
    Realises (do let result ← action; pure (form result))
      (do let thing ← draft; pure (shape thing)) := by
  intro registry
  have started := start registry
  cases draft with
  | error error =>
    obtain ⟨values, ran⟩ := started
    refine ⟨values, ?_⟩
    rw [Compile.runOn_bind, ran]
  | ok thing =>
    intro later extended
    rw [sameHoles] at extended ⊢
    rw [Compile.runOn_bind, started later extended, sameFill]
    rfl

/-- What is made of two results, one after the other, realises what is made of
the two drafts. The first result is not touched by what the second action binds,
since no token changes. -/
theorem map₂ {first : Compile α} {firstDraft : Except CompileError σ}
    {second : Compile β} {secondDraft : Except CompileError τ}
    (start : Realises first firstDraft) (finish : Realises second secondDraft)
    (form : α → β → γ) (shape : σ → τ → υ)
    (sameHoles : ∀ thing other, holes (shape thing other) = holes thing ++ holes other)
    (sameFill : ∀ naming thing other,
      fill naming (shape thing other) = form (fill naming thing) (fill naming other)) :
    Realises (do let result ← first; let next ← second; pure (form result next))
      (do let thing ← firstDraft; let other ← secondDraft; pure (shape thing other)) := by
  intro registry
  have started := start registry
  cases firstDraft with
  | error error =>
    obtain ⟨values, ran⟩ := started
    refine ⟨values, ?_⟩
    rw [Compile.runOn_bind, ran]
  | ok thing =>
    have finished := finish (registry.withFilter (holes thing))
    have grown := Registry.growsBy_withFilter (registry.withFilter (holes thing))
    cases secondDraft with
    | error error =>
      obtain ⟨values, ran⟩ := finished
      refine ⟨holes thing ++ values, ?_⟩
      rw [Compile.runOn_bind, started _ (Registry.Extends.refl _)]
      dsimp only
      rw [Compile.runOn_bind, ran, Registry.withFilter_append]
    | ok other =>
      intro later extended
      rw [sameHoles, Registry.withFilter_append] at extended ⊢
      have ran := started later ((grown (holes other)).extends.trans extended)
      rw [Compile.runOn_bind, ran]
      dsimp only
      rw [Compile.runOn_bind, finished later extended, sameFill]
      rfl

/-- What a result without a registry leads to realises what it leads to in the
draft. -/
theorem after {δ : Type} {result : Except CompileError δ} {next : δ → Compile β}
    {draft : δ → Except CompileError τ} (follows : ∀ thing, Realises (next thing) (draft thing)) :
    Realises (Compile.ofExcept result >>= next) (result >>= draft) := by
  intro registry
  cases result with
  | error error =>
    refine ⟨[], ?_⟩
    rw [Compile.runOn_bind, Compile.runOn_ofExcept, Registry.withFilter_nil]
  | ok thing => exact follows thing registry

/-- A list of actions realises the list of their drafts. Induct over the list: each result stays
as it is while the further values are bound. -/
theorem mapM {δ : Type} {action : δ → Compile β} {draft : δ → τ} (things : List δ)
    (each : ∀ thing, Realises (action thing) (.ok (draft thing))) :
    Realises (things.mapM action) (.ok (things.map draft)) := by
  induction things with
  | nil => exact of_closed rfl fun _ => rfl
  | cons thing rest inductionHypothesis =>
    rw [List.mapM_cons, List.map_cons]
    exact map₂ (each thing) inductionHypothesis List.cons List.cons
      (fun _ _ => List.flatMap_cons) (fun _ _ _ => rfl)

end Realises

end BoundSql
