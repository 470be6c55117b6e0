/-
This file proves that a composed document does not depend on the order in which the schemas of the
tables are given. The schemas stand in the strictly ascending order of their names, which is one and
the same for every arrangement of them; and they take the place of the document's own schemas, so
that all else stands as it is written without them.
-/
import ApiDoc.Document.Composition
import ApiDoc.Proofs.Ordering
import Mathlib.Data.List.Lex

namespace ApiDoc

/-! ### The order of texts -/

namespace Text

/-- The numbers of the code points of a text. -/
def values (text : Text) : List Nat := text.map CodePoint.value

/-- The numbers of a text come before those of another exactly if the text comes before it. -/
theorem values_lt_iff {first second : Text} :
    values first < values second ↔ second.le first = false := by
  induction first generalizing second with
  | nil => cases second <;> simp [values, le]
  | cons point rest inductionHypothesis =>
    cases second with
    | nil => simp [values, le]
    | cons other others =>
      have later := @inductionHypothesis others
      have same : other = point ↔ point.value = other.value :=
        ⟨fun same => same ▸ rfl, fun same => CodePoint.value_injective same.symm⟩
      unfold values at later ⊢
      rw [← Bool.not_eq_true] at later ⊢
      rw [List.map_cons, List.map_cons, List.cons_lt_cons_iff, le_cons_iff, later, same]
      rcases lt_trichotomy point.value other.value with before | equal | after
      · simp [before, before.not_gt, before.ne]
      · simp [equal]
      · simp [after, after.not_gt, after.ne']

end Text

/-! ### Members in their places -/

namespace Json

/-- The value with another member under a key, if it is an object. A key that is there keeps its
place. -/
def withMember : Json → Text → Json → Json
  | .object members, key, member => .object (Dict.insert members key member)
  | value, _, _ => value

/-- The document with other schemas among its components, and all else as it is. -/
def withSchemas (document : Json) (schemas : Dict Json) : Json :=
  match document.member? "components" with
  | some components =>
    document.withMember "components" (components.withMember "schemas" (.object schemas))
  | none => document

end Json

namespace Components

/-- Other schemas of components take the place of the given ones where they are written. -/
theorem withMember_schemas_toJson (components : Components) (schemas : Dict Json) :
    components.toJson.withMember "schemas" (.object schemas) =
      ({ components with schemas } : Components).toJson := rfl

end Components

namespace Document

theorem member?_components_toJson (document : Document) :
    document.toJson.member? "components" = some document.components.toJson := by
  obtain ⟨openapi, info, servers, paths, components, security, extra⟩ := document
  cases info <;> rfl

/-- So do other components of a document. -/
theorem withMember_components_toJson (document : Document) (components : Components) :
    document.toJson.withMember "components" components.toJson =
      ({ document with components } : Document).toJson := by
  obtain ⟨openapi, info, servers, paths, own, security, extra⟩ := document
  cases info <;> rfl

/-- A composed document is the document as it is written, but for the sorted schemas in the place of
its own. -/
theorem compose_eq_withSchemas (document : Document) (schemas : Dict Json) :
    document.compose schemas = document.toJson.withSchemas schemas.sorted := by
  rw [Json.withSchemas, member?_components_toJson]
  dsimp only
  rw [Components.withMember_schemas_toJson, withMember_components_toJson]
  rfl

/-- The sorted schemas are those that it names. -/
theorem member?_schemas_compose (document : Document) (schemas : Dict Json) :
    ((document.compose schemas).member? "components").bind (·.member? "schemas") =
      some (.object schemas.sorted) := by
  rw [compose, member?_components_toJson]
  rfl

/-- The names of sorted schemas ascend by the numbers of their code points. -/
theorem ascending_values_keys_sorted {schemas : Dict Json} (distinct : schemas.keys.Nodup) :
    schemas.sorted.keys.Pairwise fun first second => Text.values first < Text.values second :=
  (Dict.ascending_keys_sorted distinct).imp Text.values_lt_iff.mpr

/-- Schemas that are the same but for their order compose to the same text. It names all of them
and no others, in strictly ascending order, and the rest is written as it is without them. -/
theorem compose_canonical (document : Document) {schemas reordered : Dict Json}
    (distinct : schemas.keys.Nodup) (same : reordered.Perm schemas) :
    serialize (document.compose reordered) = serialize (document.compose schemas) ∧
      ∃ named : Dict Json,
        ((document.compose schemas).member? "components").bind (·.member? "schemas") =
          some (.object named) ∧
        named.Perm schemas ∧
        (named.keys.Pairwise fun first second => Text.values first < Text.values second) ∧
        document.compose schemas = document.toJson.withSchemas named := by
  have distinctToo := Dict.nodup_keys_of_perm same distinct
  refine ⟨?_, schemas.sorted, member?_schemas_compose document schemas, schemas.perm_sorted,
    ascending_values_keys_sorted distinct, compose_eq_withSchemas document schemas⟩
  rw [compose_eq_withSchemas, compose_eq_withSchemas, Dict.sorted_eq_of_perm distinctToo same]

/-- A document with a schema of its own takes two others, of which the first has the name that
starts the second's. -/
theorem compose_canonical_rooms :
    let document : Document :=
      { components := { schemas := [("Legacy", .null)] }, extra := [("tags", .array [])] }
    let schemas : Dict Json := [("Room", .null), ("RoomSpace", .object [])]
    let reordered : Dict Json := [("RoomSpace", .object []), ("Room", .null)]
    schemas.keys.Nodup ∧ reordered.Perm schemas ∧
      serialize (document.compose reordered) = serialize (document.compose schemas) ∧
      ∃ named : Dict Json,
        ((document.compose schemas).member? "components").bind (·.member? "schemas") =
          some (.object named) ∧
        named.Perm schemas ∧
        (named.keys.Pairwise fun first second => Text.values first < Text.values second) ∧
        document.compose schemas = document.toJson.withSchemas named := by
  intro document schemas reordered
  have distinct : schemas.keys.Nodup := by decide
  have same : reordered.Perm schemas := List.Perm.swap _ _ _
  exact ⟨distinct, same, compose_canonical document distinct same⟩

end Document

end ApiDoc
