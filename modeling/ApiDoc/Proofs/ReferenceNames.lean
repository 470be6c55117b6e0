/-
This file says which table the description of a column names. A column refers to a table by the name of
the table and `ID` after it, and the description is to give the name back. All occurrences of `ID` are
removed to that end, so the name is given back exactly if it holds none itself.
-/
import ApiDoc.Column.Naming
import ApiDoc.Proofs.Cutting

namespace ApiDoc

namespace Column

/-- The description of a column that refers to a table. -/
def referenceTo (table : Text) : Text := Text.ofPieces ["References ", table, " table"]

/-- The description of the column that tells the entries of a table apart. -/
def primaryKeyOf (table : Text) : Text :=
  Text.ofPieces ["Primary identification key for ", table, " table"]

/-- The names of columns that refer to a table: the name of the table with `ID` after it, and with a
word and an underscore before it, or without these if it holds no underscore itself and is neither of
one letter nor the one that is described apart. -/
inductive RefersTo (table : Text) : Text → Prop where
  | prefixed (word : Text) (unmarked : .char '_' ∉ word) (nonempty : table ≠ []) :
    RefersTo table (word ++ .char '_' :: (table ++ ("ID" : Text)))
  | plain (unmarked : .char '_' ∉ table) (long : 1 < table.length) (other : table ≠ "Table") :
    RefersTo table (table ++ ("ID" : Text))

/-- The description that a column which refers to a table has among the columns of an owner. -/
def intended (owner column table : Text) : Text :=
  if column = owner ++ ("ID" : Text) then primaryKeyOf table else referenceTo table

theorem intended_injective (owner column : Text) :
    Function.Injective (intended owner column) := by
  intro first second same
  unfold intended primaryKeyOf referenceTo Text.ofPieces at same
  split at same <;> simpa using same

section Reference

variable {table column : Text} (refers : RefersTo table column)

include refers

/-- What follows the first underscore of such a name is the table and `ID`. -/
theorem suffix_of_refersTo : suffix column = table ++ ("ID" : Text) := by
  unfold suffix
  cases refers with
  | prefixed word unmarked nonempty =>
    rw [Text.afterFirst?_append_cons unmarked, Option.getD_some]
  | plain unmarked long other =>
    have still : .char '_' ∉ table ++ ("ID" : Text) := by
      rw [List.mem_append, not_or]
      exact ⟨unmarked, by decide⟩
    rw [Text.afterFirst?_of_not_mem still, Option.getD_none]

/-- Such a name is not one of the two that are described apart. -/
theorem ne_of_refersTo : column ≠ "TableID" ∧ column ≠ "TableName" := by
  cases refers with
  | prefixed word unmarked nonempty =>
    have apart (special : Text) (without : .char '_' ∉ special) :
        word ++ .char '_' :: (table ++ ("ID" : Text)) ≠ special := by
      rintro rfl
      exact without (List.mem_append_right _ List.mem_cons_self)
    exact ⟨apart _ (by decide), apart _ (by decide)⟩
  | plain unmarked long other =>
    constructor
    · intro same
      exact other (List.append_cancel_right (same.trans (by rfl : _ = ("Table" : Text) ++ "ID")))
    · intro same
      have ending : ("ID" : Text) <:+ "TableName" := same ▸ List.suffix_append table _
      exact absurd ending (by decide)

theorem isReference_of_refersTo (unguided : column.mentions "GUID" = false) :
    isReference column = true := by
  have ending : ("ID" : Text) <:+ column ∧ 3 < column.length := by
    cases refers with
    | prefixed word unmarked nonempty =>
      have length := List.length_pos_iff.mpr nonempty
      refine ⟨⟨word ++ .char '_' :: table, by simp⟩, ?_⟩
      simp only [List.length_append, List.length_cons]
      have two : (("ID" : Text)).length = 2 := rfl
      omega
    | plain unmarked long other =>
      refine ⟨List.suffix_append _ _, ?_⟩
      have two : (("ID" : Text)).length = 2 := rfl
      rw [List.length_append]
      omega
  unfold isReference
  rw [unguided, List.isSuffixOf_iff_suffix.mpr ending.1, decide_eq_true ending.2]
  rfl

/-- The table that such a name refers to is described without any `ID`. -/
theorem describe?_of_refersTo (unguided : column.mentions "GUID" = false) (owner : Text) :
    describe? owner column = some (intended owner column (table.replacing "ID" [])) := by
  obtain ⟨notTableId, notTableName⟩ := ne_of_refersTo refers
  have removed : (suffix column).replacing "ID" [] = table.replacing "ID" [] := by
    have unmarked : .char 'I' ∉ ([.char 'D'] : Text) := by decide
    rw [suffix_of_refersTo refers]
    exact (Text.replaceFrom_append_self unmarked [] 0 table (Nat.zero_le _)).trans
      (List.append_nil _)
  unfold describe?
  rw [if_neg notTableId, if_neg notTableName, if_pos (isReference_of_refersTo refers unguided)]
  dsimp only
  rw [removed]
  unfold intended primaryKeyOf referenceTo
  split <;> rfl

/-- The description of a column that refers to a table names the table, as the key of its own entries
or as one that others refer to, exactly if the name of the table mentions no `ID`. It always names
what is left of the table without them. -/
theorem describe?_reference_iff (unguided : column.mentions "GUID" = false) (owner : Text) :
    (describe? owner column = some (intended owner column table) ↔ table.mentions "ID" = false) ∧
      describe? owner column = some (intended owner column (table.replacing "ID" [])) := by
  have described := describe?_of_refersTo refers unguided owner
  refine ⟨?_, described⟩
  rw [described, Option.some_inj, (intended_injective owner column).eq_iff]
  exact Text.replacing_nil_eq_self_iff (by decide) table

end Reference

/-- The column of a booking that refers to a room space names it. -/
theorem describe?_reference_iff_roomSpace :
    RefersTo "RoomSpace" "Booking_RoomSpaceID" ∧
      Text.mentions "Booking_RoomSpaceID" "GUID" = false ∧
      describe? "Booking" "Booking_RoomSpaceID" = some "References RoomSpace table" := by
  have refers : RefersTo "RoomSpace" "Booking_RoomSpaceID" :=
    .prefixed "Booking" (by decide) (by decide)
  have unguided : Text.mentions "Booking_RoomSpaceID" "GUID" = false := by decide +kernel
  have whole : Text.mentions "RoomSpace" "ID" = false := by decide +kernel
  exact ⟨refers, unguided, (describe?_reference_iff refers unguided "Booking").1.mpr whole⟩

/-- A table whose name mentions `ID` is not named, neither by a column that refers to it nor by its own
key. -/
theorem idCard_misnamed :
    (RefersTo "IDCard" "Entry_IDCardID" ∧ Text.mentions "Entry_IDCardID" "GUID" = false ∧
        ("Entry_IDCardID" : Text) ≠ ("Booking" : Text) ++ ("ID" : Text) ∧
        describe? "Booking" "Entry_IDCardID" = some "References Card table" ∧
        describe? "Booking" "Entry_IDCardID" ≠ some "References IDCard table") ∧
      RefersTo "IDCard" "IDCardID" ∧ Text.mentions "IDCardID" "GUID" = false ∧
        describe? "IDCard" "IDCardID" = some "Primary identification key for Card table" ∧
        describe? "IDCard" "IDCardID" ≠ some "Primary identification key for IDCard table" := by
  have referring : RefersTo "IDCard" "Entry_IDCardID" := .prefixed "Entry" (by decide) (by decide)
  have own : RefersTo "IDCard" "IDCardID" := .plain (by decide) (by decide) (by decide)
  exact ⟨⟨referring, by decide +kernel, by decide +kernel, by decide +kernel, by decide +kernel⟩,
    own, by decide +kernel, by decide +kernel, by decide +kernel⟩

end Column

end ApiDoc
