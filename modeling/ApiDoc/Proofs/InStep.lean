/-
This file relates two works that go in step: from states that are related in some way they yield the
same and leave states that are related in the same way. Tables are built in step wherever enumerations
are resolved in step, since nothing else that building does depends on the state.
-/
import ApiDoc.Proofs.TableBuilding

namespace ApiDoc

variable {σ τ α β : Type}

/-- From related states two works yield the same, and they leave related states behind. -/
def InStep (related : σ → τ → Prop) (first : StateM σ α) (second : StateM τ α) : Prop :=
  ∀ before other, related before other →
    (first before).1 = (second other).1 ∧ related (first before).2 (second other).2

namespace InStep

variable {related : σ → τ → Prop}

theorem pure (value : α) :
    InStep related (Pure.pure value : StateM σ α) (Pure.pure value : StateM τ α) :=
  fun _ _ holds => ⟨rfl, holds⟩

theorem bind {first : StateM σ α} {second : StateM τ α} {firstNext : α → StateM σ β}
    {secondNext : α → StateM τ β} (inStep : InStep related first second)
    (inStepNext : ∀ value, InStep related (firstNext value) (secondNext value)) :
    InStep related (first >>= firstNext) (second >>= secondNext) := by
  intro before other holds
  obtain ⟨same, after⟩ := inStep before other holds
  show (firstNext (first before).1 (first before).2).1 =
      (secondNext (second other).1 (second other).2).1 ∧
    related (firstNext (first before).1 (first before).2).2
      (secondNext (second other).1 (second other).2).2
  rw [← same]
  exact inStepNext _ _ _ after

/-- Attempts go in step if both of their steps do. -/
theorem attempt_bind {first : Attempt σ α} {second : Attempt τ α} {firstNext : α → Attempt σ β}
    {secondNext : α → Attempt τ β} (inStep : InStep related first.perform second.perform)
    (inStepNext : ∀ value,
      InStep related (firstNext value).perform (secondNext value).perform) :
    InStep related (first >>= firstNext).perform (second >>= secondNext).perform := by
  show InStep related
    (first.perform >>= fun outcome => ExceptT.bindCont firstNext outcome :
      StateM σ (Except Failure β))
    (second.perform >>= fun outcome => ExceptT.bindCont secondNext outcome :
      StateM τ (Except Failure β))
  refine inStep.bind fun outcome => ?_
  cases outcome with
  | ok value => exact inStepNext value
  | error failure => exact InStep.pure (Except.error failure)

theorem ofWork {first : StateM σ α} {second : StateM τ α} (inStep : InStep related first second) :
    InStep related (Attempt.ofWork first).perform (Attempt.ofWork second).perform := by
  intro before other holds
  obtain ⟨same, after⟩ := inStep before other holds
  exact ⟨congrArg Except.ok same, after⟩

end InStep

/-! ### Caches -/

namespace Cached

/-- The caches are the same, and what stands beside them is related. -/
def Beside (related : σ → τ → Prop) (first : Cached σ) (second : Cached τ) : Prop :=
  first.cache = second.cache ∧ related first.rest second.rest

variable {related : σ → τ → Prop}

theorem inStep_beside {first : StateM σ α} {second : StateM τ α}
    (inStep : InStep related first second) :
    InStep (Beside related) (beside first) (beside second) := by
  rintro before other ⟨sameCache, holds⟩
  obtain ⟨same, after⟩ := inStep before.rest other.rest holds
  exact ⟨same, sameCache, after⟩

theorem inStep_fresh {first : Attempt (Cached σ) α} {second : Attempt (Cached τ) α}
    (inStep : InStep (Beside related) first.perform second.perform) :
    InStep related (fresh first).perform (fresh second).perform := by
  intro before other holds
  obtain ⟨same, -, after⟩ := inStep { cache := {}, rest := before } { cache := {}, rest := other }
    ⟨rfl, holds⟩
  exact ⟨same, after⟩

/-- A name is resolved in step if sources are asked for it in step. -/
theorem inStep_resolve {first : EnumSource σ} {second : EnumSource τ} {name : Text}
    (inStep : InStep related (first name).perform (second name).perform) :
    InStep (Beside related) (EnumCache.resolve first name).perform
      (EnumCache.resolve second name).perform := by
  rintro ⟨cache, before⟩ ⟨_, other⟩ ⟨rfl, holds⟩
  unfold EnumCache.resolve
  rw [Attempt.perform_ofFunction, Attempt.perform_ofFunction]
  cases cache.definitions.get? name with
  | some definition => exact ⟨rfl, rfl, holds⟩
  | none =>
    obtain ⟨same, after⟩ := inStep before other holds
    exact ⟨same, congrArg (cache.afterAnswer name) same, after⟩

end Cached

/-! ### Tables -/

namespace Table

variable {related : Cached σ → Cached τ → Prop} {first : EnumSource σ} {second : EnumSource τ}
  (resolves : ∀ name, InStep related (EnumCache.resolve first name).perform
    (EnumCache.resolve second name).perform)

include resolves

theorem inStep_finishColumn (column : Text) (draft : Column.Draft) :
    InStep related (finishColumn first column draft).perform
      (finishColumn second column draft).perform := by
  unfold finishColumn
  split
  · exact InStep.pure _
  · rename_i name _
    exact (resolves name).attempt_bind fun _ => InStep.pure _

theorem inStep_addColumn (table : Table) (column : Column) :
    InStep related (addColumn first table column).perform
      (addColumn second table column).perform := by
  cases skips : table.skips column.name with
  | true =>
    rw [addColumn_of_skips first skips, addColumn_of_skips second skips]
    exact InStep.pure _
  | false =>
    rcases read : Column.applyAttributes column.name (startColumn table column.name)
      column.attributes with ⟨outcome, draft⟩
    cases outcome with
    | error failure =>
      rw [addColumn_of_unreadable first skips read, addColumn_of_unreadable second skips read]
      exact InStep.pure _
    | ok =>
      rw [addColumn_of_readable first skips read, addColumn_of_readable second skips read]
      exact inStep_finishColumn resolves column.name draft

theorem inStep_addColumns (table : Table) (columns : List Column) :
    InStep related (addColumns first table columns).perform
      (addColumns second table columns).perform := by
  induction columns generalizing table with
  | nil => exact InStep.pure _
  | cons column rest inductionHypothesis =>
    exact (inStep_addColumn resolves table column).attempt_bind inductionHypothesis

theorem inStep_build (name : Text) (columns : Feed Column) :
    InStep related (build first name columns).perform (build second name columns).perform := by
  refine (inStep_addColumns resolves _ _).attempt_bind fun table => ?_
  cases columns.ending <;> exact InStep.pure _

end Table

end ApiDoc
