/-
This file proves that the order of a column's attributes makes no difference. Each attribute that means
anything sets parts of the property that no other one sets, or requires the column, so attributes of
different names together come to what each of them says; and whether they can be read depends on each of
their values alone.
-/
import ApiDoc.Proofs.FirstOccurrences
import ApiDoc.Proofs.LowerCase
import ApiDoc.Proofs.Numerals

namespace ApiDoc

namespace Column

/-! ### Values that can be read -/

/-- The value is a boolean: `true` or `false`, with blanks around it and in any case. -/
def IsBoolean (value : Text) : Prop :=
  value.trimBlanks.asciiLowercase = "true" ∨ value.trimBlanks.asciiLowercase = "false"

/-- The value is an integer: a numeral of not too many digits, with blanks around it. -/
def IsInteger (value : Text) : Prop := ∃ integer, Numeral.Denotes value.trimBlanks integer

/-- An attribute, a key with a value, that is to be a boolean or an integer and is none. -/
def IsUnreadable (entry : Text × Text) : Prop :=
  (entry.1 = "required" ∨ entry.1 = "allowNull") ∧ ¬ IsBoolean entry.2 ∨
    entry.1 = "size" ∧ ¬ IsInteger entry.2

theorem isUnreadable_boolean_iff {key value : Text} (flag : key = "required" ∨ key = "allowNull") :
    IsUnreadable (key, value) ↔ ¬ IsBoolean value := by
  have other : key ≠ "size" := by
    rcases flag with rfl | rfl <;> decide
  exact (or_iff_left fun sized => other sized.1).trans (and_iff_right flag)

theorem isUnreadable_size_iff {value : Text} :
    IsUnreadable ("size", value) ↔ ¬ IsInteger value := by
  have others : ("size" : Text) ≠ "required" ∧ ("size" : Text) ≠ "allowNull" := by decide
  exact (or_iff_right fun flag => flag.1.elim others.1 others.2).trans (and_iff_right rfl)

theorem not_isUnreadable_of_ne {key value : Text} (required : key ≠ "required")
    (allowing : key ≠ "allowNull") (sized : key ≠ "size") : ¬ IsUnreadable (key, value) := by
  rintro (⟨same | same, -⟩ | ⟨same, -⟩)
  · exact required same
  · exact allowing same
  · exact sized same

theorem lowercase_eq_true_iff (text : Text) :
    text.lowercase = "true" ↔ text.asciiLowercase = "true" :=
  Text.lowercase_eq_iff (by decide) text

theorem lowercase_eq_false_iff (text : Text) :
    text.lowercase = "false" ↔ text.asciiLowercase = "false" :=
  Text.lowercase_eq_iff (by decide) text

theorem exists_readBoolean_iff {column key value : Text} :
    (∃ flag, readBoolean column key value = .ok flag) ↔ IsBoolean value := by
  unfold readBoolean IsBoolean
  rw [← lowercase_eq_true_iff, ← lowercase_eq_false_iff]
  dsimp only
  split
  · rename_i affirms
    exact iff_of_true ⟨true, rfl⟩ (Or.inl affirms)
  · rename_i affirms
    split
    · rename_i denies
      exact iff_of_true ⟨false, rfl⟩ (Or.inr denies)
    · rename_i denies
      exact iff_of_false nofun (not_or.mpr ⟨affirms, denies⟩)

theorem readInteger_eq_ok_iff {column key value : Text} {integer : Int} :
    readInteger column key value = .ok integer ↔ Numeral.read value.trimBlanks = .ok integer := by
  unfold readInteger
  split <;> rename_i read <;> rw [read]
  · rw [Except.ok.injEq, Except.ok.injEq]
  · exact iff_of_false nofun nofun

theorem exists_readInteger_iff {column key value : Text} :
    (∃ integer, readInteger column key value = .ok integer) ↔ IsInteger value :=
  exists_congr fun _ => readInteger_eq_ok_iff.trans Numeral.read_eq_ok_iff

/-! ### Attributes that can be read -/

variable {column : Text} {draft : Draft}

/-- An attribute can be applied exactly if it can be read. -/
theorem exists_applyAttribute_iff {entry : Text × Text} :
    (∃ next, applyAttribute column draft entry.1 entry.2 = .ok next) ↔ ¬ IsUnreadable entry := by
  obtain ⟨key, value⟩ := entry
  unfold applyAttribute
  dsimp only
  by_cases required : key = "required"
  · rw [if_pos required, exists_bind_pure_iff, exists_readBoolean_iff,
      isUnreadable_boolean_iff (Or.inl required), not_not]
  rw [if_neg required]
  by_cases typed : key = "type"
  · rw [if_pos typed]
    exact iff_of_true ⟨_, rfl⟩ (not_isUnreadable_of_ne required (by rw [typed]; decide)
      (by rw [typed]; decide))
  rw [if_neg typed]
  by_cases sized : key = "size"
  · rw [if_pos sized, exists_bind_pure_iff, exists_readInteger_iff, sized,
      isUnreadable_size_iff, not_not]
  rw [if_neg sized]
  by_cases allowing : key = "allowNull"
  · rw [if_pos allowing, exists_bind_pure_iff, exists_readBoolean_iff,
      isUnreadable_boolean_iff (Or.inr allowing), not_not]
  · rw [if_neg allowing]
    exact iff_of_true ⟨_, rfl⟩ (not_isUnreadable_of_ne required allowing sized)

/-- Attributes can be applied exactly if each of them can be read. -/
theorem applyAttributes_eq_ok_iff {attributes : Dict Text} :
    (applyAttributes column draft attributes).1 = .ok () ↔
      ∀ entry ∈ attributes, ¬ IsUnreadable entry := by
  induction attributes generalizing draft with
  | nil => exact iff_of_true rfl nofun
  | cons head rest inductionHypothesis =>
    rw [List.forall_mem_cons, ← @exists_applyAttribute_iff column draft]
    obtain ⟨key, value⟩ := head
    unfold applyAttributes
    dsimp only
    split
    · rename_i next applied
      rw [inductionHypothesis, and_iff_right ⟨next, applied⟩]
    · rename_i failure applied
      rw [applied]
      exact iff_of_false nofun fun readable => nomatch readable.1

/-- Where attributes cannot be applied, they are malformed. -/
theorem exists_malformed_iff {attributes : Dict Text} :
    (∃ cause, (applyAttributes column draft attributes).1 = .error (.malformed cause)) ↔
      ∃ entry ∈ attributes, IsUnreadable entry := by
  have readable := @applyAttributes_eq_ok_iff column draft attributes
  cases outcome : (applyAttributes column draft attributes).1 with
  | ok =>
    rw [outcome] at readable
    refine iff_of_false nofun fun ⟨entry, member, unreadable⟩ => ?_
    exact readable.mp rfl entry member unreadable
  | error failure =>
    obtain ⟨cause, rfl⟩ := applyAttributes_malformed outcome
    rw [outcome] at readable
    refine iff_of_true ⟨cause, rfl⟩ ?_
    by_contra none
    exact nomatch readable.mpr fun entry member unreadable => none ⟨entry, member, unreadable⟩

/-! ### What attributes come to -/

/-- The length that the value of a size sets, which is to be positive. -/
def length? (column value : Text) : Option Int :=
  match readInteger column "size" value with
  | .ok size => if 0 < size then some size else none
  | .error _ => none

/-- Whether the value of an attribute allows null, if it says so or not. -/
def allowing? (column value : Text) : Option Bool :=
  (readBoolean column "allowNull" value).toOption

/-- The property that attributes of different names make of one. Each of the names has parts of its
own. -/
def attributed (column : Text) (property : Property) (attributes : Dict Text) : Property :=
  let type? := (attributes.get? "type").map fun token => ColumnType.ofColumn token column
  { property with
    type := (type?.map (·.type)).or property.type
    format := (type?.map (·.format)).getD property.format
    description := (type?.bind (·.description)).or property.description
    maxLength := ((attributes.get? "size").bind (length? column)).or property.maxLength
    nullable := ((attributes.get? "allowNull").bind (allowing? column)).getD property.nullable }

/-- An attribute of another name has no part in that. -/
theorem attributed_cons_of_ne {key : Text} (typed : key ≠ "type") (sized : key ≠ "size")
    (allowing : key ≠ "allowNull") (property : Property) (value : Text) (rest : Dict Text) :
    attributed column property ((key, value) :: rest) = attributed column property rest := by
  unfold attributed
  rw [Dict.get?, if_neg typed, Dict.get?, if_neg sized, Dict.get?, if_neg allowing]

/-- The first attribute has its part before the others if none of them has its name. -/
theorem attributed_cons {key : Text} {rest : Dict Text} (new : key ∉ rest.keys)
    (property : Property) (value : Text) :
    attributed column property ((key, value) :: rest) =
      attributed column (reshaped column property (key, value)) rest := by
  -- The parts of this name are in the property already when the others are read, and none of them
  -- sets these parts again.
  have absent : rest.get? key = none := (Dict.get?_eq_none_iff _ _).mpr new
  unfold reshaped
  dsimp only
  by_cases typed : key = "type"
  · have others : key ≠ "size" ∧ key ≠ "allowNull" := by rw [typed]; decide
    rw [if_pos typed]
    unfold attributed
    rw [← typed, absent, Dict.get?, if_pos rfl, Dict.get?, if_neg others.1, Dict.get?,
      if_neg others.2]
    rfl
  rw [if_neg typed]
  by_cases sized : key = "size"
  · have other : key ≠ "allowNull" := by rw [sized]; decide
    rw [if_pos sized]
    unfold attributed length?
    rw [← sized, absent, Dict.get?, if_neg typed, Dict.get?, if_pos rfl, Dict.get?, if_neg other,
      Option.bind_some, Option.bind_none, Option.none_or]
    cases readInteger column key value with
    | error failure => rfl
    | ok size =>
      dsimp only
      split <;> rfl
  rw [if_neg sized]
  by_cases allowing : key = "allowNull"
  · rw [if_pos allowing]
    unfold attributed allowing?
    rw [← allowing, absent, Dict.get?, if_neg typed, Dict.get?, if_neg sized, Dict.get?, if_pos rfl,
      Option.bind_some, Option.bind_none, Option.getD_none]
    cases readBoolean column key value with
    | error failure => rfl
    | ok nullable => rfl
  · rw [if_neg allowing, attributed_cons_of_ne typed sized allowing]

theorem foldl_reshaped {attributes : Dict Text} (distinct : attributes.keys.Nodup)
    (property : Property) :
    attributes.foldl (reshaped column) property = attributed column property attributes := by
  induction attributes generalizing property with
  | nil => rfl
  | cons head rest inductionHypothesis =>
    obtain ⟨key, value⟩ := head
    rw [Dict.keys_cons, List.nodup_cons] at distinct
    rw [List.foldl_cons, inductionHypothesis distinct.2, attributed_cons distinct.1]

/-! ### Attributes in another order -/

/-- The names of the attributes that mean something. -/
def meaningful : List Text := ["required", "type", "size", "allowNull"]

theorem applyAttribute_of_not_mem {key : Text} (other : key ∉ meaningful) (value : Text) :
    applyAttribute column draft key value = .ok draft := by
  simp only [meaningful, List.mem_cons, List.not_mem_nil, or_false, not_or] at other
  unfold applyAttribute
  rw [if_neg other.1, if_neg other.2.1, if_neg other.2.2.1, if_neg other.2.2.2]

/-- Attributes of other names might as well be missing. -/
theorem applyAttributes_filter (attributes : Dict Text) :
    applyAttributes column draft (attributes.filter (·.1 ∈ meaningful)) =
      applyAttributes column draft attributes := by
  induction attributes generalizing draft with
  | nil => rfl
  | cons head rest inductionHypothesis =>
    obtain ⟨key, value⟩ := head
    by_cases means : key ∈ meaningful
    · rw [List.filter_cons_of_pos (by simpa using means), applyAttributes, applyAttributes]
      cases applyAttribute column draft key value with
      | ok next => exact inductionHypothesis
      | error failure => rfl
    · rw [List.filter_cons_of_neg (by simpa using means), applyAttributes,
        applyAttribute_of_not_mem means]
      exact inductionHypothesis

/-- Attributes that can be applied come to the same in any order. -/
theorem applyAttributes_of_perm {attributes permuted : Dict Text}
    (distinct : attributes.keys.Nodup) (same : permuted.Perm attributes)
    (applies : (applyAttributes column draft attributes).1 = .ok ()) :
    applyAttributes column draft permuted = applyAttributes column draft attributes := by
  have appliesToo : (applyAttributes column draft permuted).1 = .ok () :=
    applyAttributes_eq_ok_iff.mpr fun entry member =>
      applyAttributes_eq_ok_iff.mp applies entry (same.mem_iff.mp member)
  have distinctToo : permuted.keys.Nodup := (same.map Prod.fst).nodup_iff.mpr distinct
  have found := Dict.get?_of_perm distinct same
  refine Prod.ext (appliesToo.trans applies.symm) ?_
  rw [applyAttributes_of_ok appliesToo, applyAttributes_of_ok applies, foldl_reshaped distinctToo,
    foldl_reshaped distinct, same.any_eq]
  unfold attributed
  rw [found, found, found]

/-- Attributes of different names are malformed exactly if one of them cannot be read, and those of
other names than the known ones make no difference. In another order the attributes are malformed if
they are so in this one, and otherwise they come to the same table and the same property. -/
theorem applyAttributes_orderless (column : Text) (draft : Draft) {attributes : Dict Text}
    (distinct : attributes.keys.Nodup) :
    ((∃ cause, (applyAttributes column draft attributes).1 = .error (.malformed cause)) ↔
        ∃ entry ∈ attributes, IsUnreadable entry) ∧
      ((applyAttributes column draft attributes).1 = .ok () ↔
        ∀ entry ∈ attributes, ¬ IsUnreadable entry) ∧
      applyAttributes column draft (attributes.filter (·.1 ∈ meaningful)) =
        applyAttributes column draft attributes ∧
      ∀ permuted, permuted.Perm attributes →
        ((∃ cause, (applyAttributes column draft attributes).1 = .error (.malformed cause)) →
          ∃ cause, (applyAttributes column draft permuted).1 = .error (.malformed cause)) ∧
        ((applyAttributes column draft attributes).1 = .ok () →
          applyAttributes column draft permuted = applyAttributes column draft attributes) := by
  refine ⟨exists_malformed_iff, applyAttributes_eq_ok_iff, applyAttributes_filter attributes, ?_⟩
  refine fun permuted same => ⟨fun fails => ?_, applyAttributes_of_perm distinct same⟩
  obtain ⟨entry, member, unreadable⟩ := exists_malformed_iff.mp fails
  exact exists_malformed_iff.mpr ⟨entry, same.mem_iff.mpr member, unreadable⟩

/-- A size with a digit of another script and a flag in capitals are read in any order, with a caption
among them. -/
theorem applyAttributes_orderless_beds :
    let attributes : Dict Text := [("required", " TRUE "), ("caption", "Beds"), ("size", "1_\u0660"),
      ("allowNull", "False"), ("type", "Short")]
    let permuted : Dict Text := [("type", "Short"), ("size", "1_\u0660"), ("caption", "Beds"),
      ("allowNull", "False"), ("required", " TRUE ")]
    let draft : Draft :=
      { table := { name := "Room", properties := [("Beds", {})] }, property := {} }
    attributes.keys.Nodup ∧ permuted.Perm attributes ∧
      (applyAttributes "Beds" draft attributes).1 = .ok () ∧
      (applyAttributes "Beds" draft attributes).2.property.maxLength = some 10 ∧
      applyAttributes "Beds" draft permuted = applyAttributes "Beds" draft attributes := by
  intro attributes permuted draft
  have distinct : attributes.keys.Nodup := by decide
  have same : permuted.Perm attributes := by decide
  have applies : (applyAttributes "Beds" draft attributes).1 = .ok () := by rfl
  refine ⟨distinct, same, applies, by rfl, ?_⟩
  exact ((applyAttributes_orderless "Beds" draft distinct).2.2.2 permuted same).2 applies

end Column

end ApiDoc
