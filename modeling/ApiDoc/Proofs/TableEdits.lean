/-
This file proves that no sequence of edits brings a table out of order, whichever of them fail. An edit
does two things only, any number of times: it requires a name, which is taken if there is a property of
that name and it is not required yet, and it puts a property under the one name that it works on. So
names are required once and for all, all of them have properties, and properties keep the order in which
their names first came.
-/
import ApiDoc.Proofs.Columns
import ApiDoc.Table.Edit

namespace ApiDoc.Table

/-! ### Order -/

/-- A table is in order if it requires names once, and only those of its properties, each of which has a
name of its own. -/
structure IsOrderly (table : Table) : Prop where
  once : table.required.Nodup
  known : table.required ⊆ table.properties.keys
  distinct : table.properties.keys.Nodup

theorem isOrderly_empty (name : Text) : IsOrderly { name } where
  once := List.nodup_nil
  known := List.nil_subset _
  distinct := List.nodup_nil

namespace IsOrderly

variable {table : Table} (orderly : table.IsOrderly)

include orderly

theorem requireProperty (name : Text) : (table.requireProperty name).IsOrderly := by
  unfold Table.requireProperty
  split
  · rename_i takes
    rw [Bool.and_eq_true, Dict.hasKey_iff, Bool.not_eq_true', ← Bool.not_eq_true,
      List.contains_iff_mem] at takes
    refine ⟨?_, ?_, orderly.distinct⟩
    · rw [List.nodup_append_comm, List.singleton_append, List.nodup_cons]
      exact ⟨takes.2, orderly.once⟩
    · refine List.append_subset.mpr ⟨orderly.known, fun other member => ?_⟩
      exact List.mem_singleton.mp member ▸ takes.1
  · exact orderly

theorem putProperty (name : Text) (property : Property) :
    (table.putProperty name property).IsOrderly where
  once := orderly.once
  known _ member := (Dict.mem_keys_insert _ _ _ _).mpr (Or.inl (orderly.known member))
  distinct := Dict.nodup_keys_insert orderly.distinct name property

end IsOrderly

/-! ### What an edit does -/

namespace Edit

variable {edit : Edit} {table after : Table}

/-- What an edit can make of a table: it requires names, and it puts properties under the name that it
works on. -/
inductive Reaches (edit : Edit) (table : Table) : Table → Prop where
  | same : Reaches edit table table
  | requires {after : Table} (name : Text) (reaches : Reaches edit table after) :
    Reaches edit table (after.requireProperty name)
  | puts {after : Table} {name : Text} (place : edit.place? = some name) (property : Property)
    (reaches : Reaches edit table after) : Reaches edit table (after.putProperty name property)

/-- Attributes do nothing to a table but require the name of their column. -/
theorem reaches_applyAttributes (edit : Edit) (table : Table) (property : Property)
    (column : Column) :
    Reaches edit table
      (Column.applyAttributes column.name { table, property } column.attributes).2.table := by
  refine Column.applyAttributes_preserves (fun draft => Reaches edit table draft.table) _ ?_ .same
  intro entry _ draft next reaches applied
  cases applied with
  | same | typed | sized | nullable => exact reaches
  | required => exact .requires column.name reaches

theorem reaches_perform (edit : Edit) (table : Table) :
    Reaches edit table (edit.perform table).2 := by
  cases edit with
  | put name property => exact .puts rfl property .same
  | applyAttached name column =>
    rw [perform]
    split
    · exact .same
    · exact .puts rfl _ (reaches_applyAttributes _ _ _ _)
  | applyDetached property column => exact reaches_applyAttributes _ _ _ _
  | require name => exact .requires name .same

namespace Reaches

variable (reaches : Reaches edit table after)

include reaches

theorem isOrderly (orderly : table.IsOrderly) : after.IsOrderly := by
  induction reaches with
  | same => exact orderly
  | requires name reaches inductionHypothesis => exact inductionHypothesis.requireProperty name
  | puts place property reaches inductionHypothesis => exact inductionHypothesis.putProperty _ property

/-- Names that are required stay so, in their order. -/
theorem prefix_required : table.required <+: after.required := by
  induction reaches with
  | same => exact List.prefix_refl _
  | requires name reaches inductionHypothesis =>
    unfold requireProperty
    split
    · exact inductionHypothesis.trans (List.prefix_append _ _)
    · exact inductionHypothesis
  | puts place property reaches inductionHypothesis => exact inductionHypothesis

/-- The properties under other names than the one that the edit works on stay as they are. -/
theorem get?_eq {name : Text} (elsewhere : edit.place? ≠ some name) :
    after.properties.get? name = table.properties.get? name := by
  induction reaches with
  | same => rfl
  | requires other reaches inductionHypothesis =>
    unfold requireProperty
    split <;> exact inductionHypothesis
  | puts place property reaches inductionHypothesis =>
    have different : name ≠ _ := fun same => elsewhere (same ▸ place)
    exact (Dict.get?_insert_of_ne _ different property).trans inductionHypothesis

end Reaches

/-- A name that a property is put under comes last if it is new, and no other edit changes the names. -/
theorem keys_perform (edit : Edit) (table : Table) :
    (edit.perform table).2.properties.keys =
      table.properties.keys ++ edit.put?.toList.filter (· ∉ table.properties.keys) := by
  cases edit with
  | put name property =>
    show (table.properties.insert name property).keys = _ ++ [name].filter _
    by_cases known : name ∈ table.properties.keys
    · rw [Dict.keys_insert_of_mem known, List.filter_cons_of_neg (by simpa using known),
        List.filter_nil, List.append_nil]
    · rw [Dict.insert_of_not_mem known, Dict.keys_append,
        List.filter_cons_of_pos (by simpa using known), List.filter_nil]
      rfl
  | applyAttached name column =>
    rw [perform]
    split
    · exact (List.append_nil _).symm
    · rename_i property found
      have same := @Column.applyAttributes_table column.name { table, property } column.attributes
      show (Dict.insert _ name _).keys = _ ++ []
      rw [same.2, Dict.keys_insert_of_mem (Dict.mem_keys_of_get?_eq_some found), List.append_nil]
  | applyDetached property column =>
    have same := @Column.applyAttributes_table column.name { table, property } column.attributes
    exact (congrArg Dict.keys same.2).trans (List.append_nil _).symm
  | require name =>
    show (table.requireProperty name).properties.keys = _ ++ []
    rw [List.append_nil]
    unfold requireProperty
    split <;> rfl

/-- What an edit does, whether it fails or not: the name of the table stays, names are required and
properties are added only after those that are there, and no property changes but the one that the edit
works on. -/
structure Keeps (edit : Edit) (before after : Table) : Prop where
  required : before.required <+: after.required
  names : before.properties.keys <+: after.properties.keys
  others : ∀ name, edit.place? ≠ some name →
    after.properties.get? name = before.properties.get? name

theorem keeps_perform (edit : Edit) (table : Table) : edit.Keeps table (edit.perform table).2 where
  required := (reaches_perform edit table).prefix_required
  names := keys_perform edit table ▸ List.prefix_append _ _
  others _ := (reaches_perform edit table).get?_eq

end Edit

/-! ### Sequences of edits -/

theorem performAll_concat (table : Table) (edits : List Edit) (edit : Edit) :
    table.performAll (edits ++ [edit]) = (edit.perform (table.performAll edits)).2 := by
  rw [performAll, List.foldl_append]
  rfl

theorem performAll_append (table : Table) (edits later : List Edit) :
    table.performAll (edits ++ later) = (table.performAll edits).performAll later :=
  List.foldl_append

theorem isOrderly_performAll {table : Table} (orderly : table.IsOrderly) (edits : List Edit) :
    (table.performAll edits).IsOrderly := by
  induction edits using List.reverseRecOn with
  | nil => exact orderly
  | append_singleton edits edit inductionHypothesis =>
    rw [performAll_concat]
    exact (edit.reaches_perform _).isOrderly inductionHypothesis

theorem prefix_required_performAll (table : Table) (edits : List Edit) :
    table.required <+: (table.performAll edits).required := by
  induction edits using List.reverseRecOn with
  | nil => exact List.prefix_refl _
  | append_singleton edits edit inductionHypothesis =>
    rw [performAll_concat]
    exact inductionHypothesis.trans (edit.reaches_perform _).prefix_required

/-- One more name comes last where names that come again are left out, if it is new. -/
theorem eraseDups_append_toList (names : List Text) (name? : Option Text) :
    (names ++ name?.toList).eraseDups =
      names.eraseDups ++ name?.toList.filter (· ∉ names.eraseDups) := by
  cases name? with
  | none => simp
  | some name =>
    by_cases known : name ∈ names <;>
      simp [List.eraseDups_append, List.eraseDups_cons, List.removeAll, known]

/-- The properties stand in the order in which their names were first put. -/
theorem keys_performAll (name : Text) (edits : List Edit) :
    (performAll { name } edits).properties.keys = (edits.filterMap Edit.put?).eraseDups := by
  induction edits using List.reverseRecOn with
  | nil => rfl
  | append_singleton edits edit inductionHypothesis =>
    have last : [edit].filterMap Edit.put? = edit.put?.toList := by cases edit <;> rfl
    rw [performAll_concat, edit.keys_perform, inductionHypothesis, List.filterMap_append, last,
      eraseDups_append_toList]

/-- A name is required by asking for it exactly if there is a property of that name. -/
theorem IsOrderly.mem_required_requireProperty {table : Table} (orderly : table.IsOrderly)
    (name : Text) :
    name ∈ (table.requireProperty name).required ↔ name ∈ table.properties.keys := by
  unfold Table.requireProperty
  split
  · rename_i takes
    rw [Bool.and_eq_true, Dict.hasKey_iff] at takes
    exact iff_of_true (List.mem_append_right _ List.mem_cons_self) takes.1
  · rename_i leaves
    rw [Bool.and_eq_true, Dict.hasKey_iff, Bool.not_eq_true', ← Bool.not_eq_true,
      List.contains_iff_mem, not_and, not_not] at leaves
    exact ⟨fun member => orderly.known member, leaves⟩

/-- After any edits of an empty table, failed ones included, names are required once and only if they
have a property; each name has one property, and properties stand in the order in which their names
were first put. Every further edit keeps what is required and in which order, and the properties under
all names but its own; it requires a name that is asked for exactly if it has a property. -/
theorem performAll_orderly (name : Text) (edits : List Edit) :
    (performAll { name } edits).IsOrderly ∧
      (performAll { name } edits).properties.keys = (edits.filterMap Edit.put?).eraseDups ∧
      (∀ edit : Edit, edit.Keeps (performAll { name } edits)
        (edit.perform (performAll { name } edits)).2) ∧
      (∀ wanted, wanted ∈ (performAll { name } (edits ++ [.require wanted])).required ↔
        wanted ∈ (performAll { name } edits).properties.keys) ∧
      ∀ later, (performAll { name } edits).required <+:
        (performAll { name } (edits ++ later)).required := by
  have orderly := isOrderly_performAll (isOrderly_empty name) edits
  refine ⟨orderly, keys_performAll name edits, fun edit => edit.keeps_perform _, fun wanted => ?_,
    fun later => ?_⟩
  · rw [performAll_concat]
    exact orderly.mem_required_requireProperty wanted
  · rw [performAll_append]
    exact prefix_required_performAll _ later

/-- What is required before attributes fail stays required when the property is replaced. -/
example :
    performAll { name := "Room" }
        [.put "Beds" {},
          .applyAttached "Beds"
            { name := "Beds", attributes := [("required", "true"), ("size", "many")] },
          .put "Floor" {}, .put "Beds" { type := some "integer" },
          .applyDetached {} { name := "View", attributes := [("required", "true")] },
          .require "Floor"] =
      { name := "Room"
        properties := [("Beds", { type := some "integer" }), ("Floor", {})]
        required := ["Beds", "Floor"] } := by
  rfl

end ApiDoc.Table
