/-
This file applies the attributes of a column to its property and its table, in the order in which the
column gives them. A value that cannot be read ends the work; what came before it stays applied.
-/
import ApiDoc.Attempt
import ApiDoc.Number.Numeral
import ApiDoc.Table.Basic

namespace ApiDoc

/-- A column of a table: its name and its attributes in document order. -/
structure Column where
  name : Text
  attributes : Dict Text
  deriving DecidableEq, Repr

namespace Column

/-! ### Attribute values -/

/-- The boolean that an attribute value denotes, with blanks around it and in any case. -/
def readBoolean (column key value : Text) : Except Failure Bool :=
  let word := value.trimBlanks.lowercase
  if word = "true" then .ok true
  else if word = "false" then .ok false
  else .error (.malformed (.boolean column key value))

/-- The integer that an attribute value denotes, with blanks around it. -/
def readInteger (column key value : Text) : Except Failure Int :=
  match Numeral.read value.trimBlanks with
  | .ok integer => .ok integer
  | .error _ => .error (.malformed (.integer column key value))

/-! ### Applying attributes -/

/-- A table and the property of one of its columns, which is worked on. -/
structure Draft where
  table : Table
  property : Property
  deriving DecidableEq, Repr

/-- The draft after one attribute of a column. An attribute of another name changes nothing. -/
def applyAttribute (column : Text) (draft : Draft) (key value : Text) :
    Except Failure Draft :=
  if key = "required" then do
    let required ← readBoolean column key value
    return if required then { draft with table := draft.table.requireProperty column } else draft
  else if key = "type" then
    .ok { draft with property := draft.property.withType (ColumnType.ofColumn value column) }
  else if key = "size" then do
    let size ← readInteger column key value
    return if 0 < size then
      { draft with property := { draft.property with maxLength := some size } }
    else draft
  else if key = "allowNull" then do
    let nullable ← readBoolean column key value
    return { draft with property := { draft.property with nullable } }
  else .ok draft

/-- The draft after the attributes of a column, up to the first that fails. -/
def applyAttributes (column : Text) (draft : Draft) : Dict Text → Except Failure Unit × Draft
  | [] => (.ok (), draft)
  | (key, value) :: rest => match applyAttribute column draft key value with
    | .ok next => applyAttributes column next rest
    | .error failure => (.error failure, draft)

end Column

end ApiDoc
