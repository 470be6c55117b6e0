/-
This file says what listing the values of an enumeration does to the property of a column. A column
that draws from no enumeration, or a property that lists values already, is left alone and nothing is
asked for. Otherwise identifiers and labels stand in turn, in the order of the values, with null after
them where it is allowed; and doing it again changes nothing.
-/
import ApiDoc.Enumeration.Apply
import ApiDoc.Enumeration.Known
import ApiDoc.Proofs.Attempts
import ApiDoc.Proofs.Cutting
import ApiDoc.Proofs.Dictionary

namespace ApiDoc

variable {σ : Type}

/-! ### Columns that draw from an enumeration -/

namespace Column

/-- The part of a name after its first underscore, or all of a name without one. -/
def IsAfterUnderscore (column part : Text) : Prop :=
  (∃ before, .char '_' ∉ before ∧ column = before ++ .char '_' :: part) ∨
    (.char '_' ∉ column ∧ part = column)

theorem isAfterUnderscore_suffix (column : Text) : IsAfterUnderscore column (suffix column) := by
  by_cases marked : .char '_' ∈ column
  · obtain ⟨before, part, rfl, unmarked⟩ := List.eq_append_cons_of_mem marked
    rw [suffix, Text.afterFirst?_append_cons unmarked, Option.getD_some]
    exact Or.inl ⟨before, unmarked, rfl⟩
  · rw [suffix, Text.afterFirst?_of_not_mem marked, Option.getD_none]
    exact Or.inr ⟨marked, rfl⟩

/-- The column draws from an enumeration: its part after the first underscore says so and is not
reserved, and nothing excludes the column. -/
def IsEnumerated (column : Text) : Prop :=
  (suffix column).mentions "Enum" = true ∧
    suffix column ≠ "PortalAuthLockedUserReasonEnum" ∧ column.mentions "OneTimeCode" = false

instance : DecidablePred IsEnumerated := fun _ => inferInstanceAs (Decidable (_ ∧ _ ∧ _))

theorem enumerationName?_eq (column : Text) :
    enumerationName? column = if IsEnumerated column then some (suffix column) else none := by
  unfold enumerationName? IsEnumerated reservedEnumerations excludedFragments
  grind

end Column

/-! ### Entries of the list -/

namespace Property

/-- The values of an enumeration are listed in a property as in a given one without values. -/
structure Lists (definition : Enumeration) (given property : Property) : Prop where
  oneOf : property.oneOf =
    some ([[("type", .string "integer")], [("type", .string "string")]] : List (Dict Json))
  type : property.type = none
  length : property.enum.length =
    2 * definition.values.length + if given.nullable then 1 else 0
  /-- The identifier of each value stands before its label, which has lost its spaces. -/
  entries : ∀ index value, definition.values[index]? = some value →
    property.enum[2 * index]? = some (.integer value.1) ∧
      property.enum[2 * index + 1]? = some (.string (value.2.filter (· ≠ .char ' ')))
  null : .null ∈ property.enum ↔ given.nullable = true
  last : given.nullable = true → property.enum.getLast? = some .null
  format : property.format = given.format
  description : property.description = given.description
  maxLength : property.maxLength = given.maxLength
  nullable : property.nullable = given.nullable

theorem length_flatMap_listed (values : List (Int × Text)) :
    (values.flatMap listed).length = 2 * values.length := by
  simp [listed, List.length_flatMap, Nat.mul_comm]

/-- The list gives the two entries of a value at twice its place. -/
theorem getElem?_flatMap_listed {values : List (Int × Text)} {index : Nat} {value : Int × Text}
    (found : values[index]? = some value) (rest : List Json) :
    (values.flatMap listed ++ rest)[2 * index]? = some (.integer value.1) ∧
      (values.flatMap listed ++ rest)[2 * index + 1]? =
        some (.string (value.2.filter (· ≠ .char ' '))) := by
  induction values generalizing index with
  | nil => cases found
  | cons first others inductionHypothesis =>
    cases index with
    | zero =>
      cases found
      exact ⟨rfl, rfl⟩
    | succ index =>
      rw [List.getElem?_cons_succ] at found
      exact inductionHypothesis found

theorem null_not_mem_flatMap_listed (values : List (Int × Text)) :
    Json.null ∉ values.flatMap listed := by
  simp [listed]

variable {definition : Enumeration} {property : Property}

theorem enum_withValues (empty : property.enum = []) (definition : Enumeration) :
    (property.asEnumerated.withValues definition).enum =
      definition.values.flatMap listed ++ if property.nullable then [.null] else [] := by
  unfold withValues asEnumerated
  dsimp only
  rw [empty, List.nil_append]
  split
  · rfl
  · rw [List.append_nil]

theorem lists_withValues (empty : property.enum = []) (definition : Enumeration) :
    Lists definition property (property.asEnumerated.withValues definition) where
  oneOf := rfl
  type := rfl
  length := by
    rw [enum_withValues empty, List.length_append, length_flatMap_listed]
    cases property.nullable <;> rfl
  entries index value found := by
    rw [enum_withValues empty]
    exact getElem?_flatMap_listed found _
  null := by
    rw [enum_withValues empty, List.mem_append, or_iff_right (null_not_mem_flatMap_listed _)]
    cases property.nullable <;> simp
  last nullable := by
    rw [enum_withValues empty, nullable, if_pos rfl, List.getLast?_concat]
  format := rfl
  description := rfl
  maxLength := rfl
  nullable := rfl

/-- Where listing values has left the list empty, listing them again leaves it so. -/
theorem withValues_withValues (empty : property.enum = [])
    (unlisted : (property.asEnumerated.withValues definition).enum = []) :
    (property.asEnumerated.withValues definition).asEnumerated.withValues definition =
      property.asEnumerated.withValues definition := by
  have same : ((property.asEnumerated.withValues definition).asEnumerated.withValues
      definition).enum = (property.asEnumerated.withValues definition).enum :=
    (enum_withValues unlisted definition).trans (enum_withValues empty definition).symm
  exact congrArg (fun enum : List Json => { property.asEnumerated with enum }) same

/-! ### Listing -/

variable {source : EnumSource σ} {column : Text} {state : Cached σ}

theorem wanted?_of_isEnumerated (enumerated : Column.IsEnumerated column)
    (empty : property.enum = []) : property.wanted? column = some (Column.suffix column) := by
  rw [wanted?, empty, Column.enumerationName?_eq, if_pos enumerated]
  rfl

theorem wanted?_eq_none (left : ¬ Column.IsEnumerated column ∨ property.enum ≠ []) :
    property.wanted? column = none := by
  rw [wanted?, Column.enumerationName?_eq]
  split
  · rename_i empty
    exact if_neg (left.resolve_right fun filled => filled (List.isEmpty_iff.mp empty))
  · rfl

/-- A property without a name to resolve stays as it is, and so does the cache. -/
theorem enumerate_of_not_wanted (source : EnumSource σ) (unwanted : property.wanted? column = none)
    (state : Cached σ) :
    property.enumerate source column state = (.ok false, property, state) := by
  rw [enumerate, unwanted]

/-- The values of an enumeration that can be had are listed. -/
theorem enumerate_of_ok {name : Text} {after : Cached σ} (wants : property.wanted? column = some name)
    (has : (EnumCache.resolve source name).perform state = (.ok definition, after)) :
    property.enumerate source column state =
      (.ok true, property.asEnumerated.withValues definition, after) := by
  rw [enumerate, wants]
  dsimp only
  rw [has]

/-- Listing values a second time adds nothing, even if there are none. -/
theorem enumerate_listed (source : EnumSource σ) (enumerated : Column.IsEnumerated column)
    (empty : property.enum = [])
    (known : state.cache.definitions.get? (Column.suffix column) = some definition) :
    ∃ changed, (property.asEnumerated.withValues definition).enumerate source column state =
      (.ok changed, property.asEnumerated.withValues definition, state) := by
  by_cases unlisted : (property.asEnumerated.withValues definition).enum = []
  · refine ⟨true, ?_⟩
    rw [enumerate_of_ok (wanted?_of_isEnumerated enumerated unlisted)
      (EnumCache.perform_resolve_of_some source known), withValues_withValues empty unlisted]
  · exact ⟨false, enumerate_of_not_wanted source (wanted?_eq_none (Or.inr unlisted)) state⟩

end Property

/-- Asked for a name the source gives its enumeration. -/
def EnumSource.Answers (source : EnumSource σ) (name : Text) (rest : σ) : Prop :=
  ∃ definition after, (source name).perform rest = (.ok definition, after)

/-- The enumeration of a name is in the cache already, or the source gives it and it is in the cache
after that. -/
def EnumSource.Provides (source : EnumSource σ) (name : Text) (definition : Enumeration)
    (state after : Cached σ) : Prop :=
  (state.cache.definitions.get? name = some definition ∧ after = state) ∨
    (state.cache.definitions.get? name = none ∧
      (source name).perform state.rest = (.ok definition, after.rest) ∧
      after.cache = state.cache.afterAnswer name (.ok definition))

namespace EnumSource

variable {source : EnumSource σ} {name : Text} {definition : Enumeration} {state after : Cached σ}

/-- An enumeration that has been provided is in the cache. -/
theorem Provides.known (provides : source.Provides name definition state after) :
    after.cache.definitions.get? name = some definition := by
  obtain ⟨found, rfl⟩ | ⟨-, -, kept⟩ := provides
  · exact found
  · rw [kept]
    exact Dict.get?_insert_self _ _ _

/-- A source that answers provides the enumeration, if the cache does not. -/
theorem Answers.provides (answers : source.Answers name state.rest) :
    ∃ definition after, (EnumCache.resolve source name).perform state = (.ok definition, after) ∧
      source.Provides name definition state after := by
  cases found : state.cache.definitions.get? name with
  | some definition =>
    exact ⟨definition, state, EnumCache.perform_resolve_of_some source found, Or.inl ⟨found, rfl⟩⟩
  | none =>
    obtain ⟨definition, rest, answered⟩ := answers
    have resolved := EnumCache.perform_resolve_of_none source found
    rw [answered] at resolved
    exact ⟨definition, _, resolved, Or.inr ⟨found, answered, rfl⟩⟩

end EnumSource

namespace Property

/-- Where a source answers, the values of the enumeration are listed in the property of a column that
draws from one, if none are listed there; nothing else changes, and nothing at all where a column draws
from none or values are listed already. Once more changes nothing more, whatever the source is. -/
theorem enumerate_lists {source : EnumSource σ} {column : Text} {state : Cached σ}
    (answers : source.Answers (Column.suffix column) state.rest) (property : Property) :
    Column.IsAfterUnderscore column (Column.suffix column) ∧
      (¬ Column.IsEnumerated column ∨ property.enum ≠ [] →
        property.enumerate source column state = (.ok false, property, state)) ∧
      (Column.IsEnumerated column → property.enum = [] → ∃ definition result after,
        property.enumerate source column state = (.ok true, result, after) ∧
          Lists definition property result ∧
          source.Provides (Column.suffix column) definition state after) ∧
      ∀ again : EnumSource σ, ∃ changed,
        (property.enumerate source column state).2.1.enumerate again column
            (property.enumerate source column state).2.2 =
          (.ok changed, (property.enumerate source column state).2) := by
  refine ⟨Column.isAfterUnderscore_suffix column, fun left => ?_, fun enumerated empty => ?_,
    fun again => ?_⟩
  · exact enumerate_of_not_wanted source (wanted?_eq_none left) state
  · obtain ⟨definition, after, resolved, provides⟩ := answers.provides
    exact ⟨definition, _, after,
      enumerate_of_ok (wanted?_of_isEnumerated enumerated empty) resolved,
      lists_withValues empty definition, provides⟩
  · by_cases draws : Column.IsEnumerated column ∧ property.enum = []
    · obtain ⟨enumerated, empty⟩ := draws
      obtain ⟨definition, after, resolved, provides⟩ := answers.provides
      rw [enumerate_of_ok (wanted?_of_isEnumerated enumerated empty) resolved]
      exact enumerate_listed again enumerated empty provides.known
    · have unwanted := wanted?_eq_none (not_and_or.mp draws)
      rw [enumerate_of_not_wanted source unwanted]
      exact ⟨false, enumerate_of_not_wanted again unwanted state⟩

/-- A nullable property of a name with two underscores gets the values of an enumeration that is
known to the source. -/
theorem enumerate_lists_nullable :
    let source := EnumSource.known [("Room_StatusEnum", [(1, "Single Room"), (2, "Suite")])]
    let state : Cached (List Text) := { cache := {}, rest := [] }
    let property : Property := { type := some "integer", format := some "uint16", nullable := true }
    source.Answers (Column.suffix "Entry_Room_StatusEnum") state.rest ∧
      Column.IsEnumerated "Entry_Room_StatusEnum" ∧
      (property.enumerate source "Entry_Room_StatusEnum" state).2.1 =
        { format := some "uint16"
          nullable := true
          enum := [.integer 1, .string "SingleRoom", .integer 2, .string "Suite", .null]
          oneOf := some identifierOrLabel } ∧
      ∃ definition result after,
        property.enumerate source "Entry_Room_StatusEnum" state = (.ok true, result, after) ∧
          Lists definition property result ∧
          source.Provides (Column.suffix "Entry_Room_StatusEnum") definition state after := by
  intro source state property
  have answers : source.Answers (Column.suffix "Entry_Room_StatusEnum") state.rest :=
    ⟨_, _, by rfl⟩
  have enumerated : Column.IsEnumerated "Entry_Room_StatusEnum" := by decide +kernel
  exact ⟨answers, enumerated, by rfl, (enumerate_lists answers property).2.2.1 enumerated rfl⟩

end Property

end ApiDoc
