/-
This file defines what can be done with a table, edit by edit: a property is put under a name, the
attributes of a column are applied to a property of the table or to one that the table does not have,
and a name is required. Attributes may fail midway; what came before stays done.
-/
import ApiDoc.Column.Attribute

namespace ApiDoc.Table

/-- An edit of a table. A property that is put under a name belongs to that name alone. -/
inductive Edit where
  | put (name : Text) (property : Property)
  | applyAttached (name : Text) (column : Column)
  | applyDetached (property : Property) (column : Column)
  | require (name : Text)

namespace Edit

/-- The name that the edit puts a property under. -/
def put? : Edit → Option Text
  | put name _ => some name
  | applyAttached .. | applyDetached .. | require _ => none

/-- The name whose property the edit works on. -/
def place? : Edit → Option Text
  | put name _ | applyAttached name _ => some name
  | applyDetached .. | require _ => none

/-- How the edit ends, and the table after it. Where the table has no property that attributes could
be applied to, there is nothing to do. -/
def perform (table : Table) : Edit → Except Failure Unit × Table
  | put name property => (.ok (), table.putProperty name property)
  | applyAttached name column => match table.properties.get? name with
    | none => (.ok (), table)
    | some property =>
      let (outcome, draft) :=
        Column.applyAttributes column.name { table, property } column.attributes
      (outcome, draft.table.putProperty name draft.property)
  | applyDetached property column =>
    let (outcome, draft) :=
      Column.applyAttributes column.name { table, property } column.attributes
    (outcome, draft.table)
  | require name => (.ok (), table.requireProperty name)

end Edit

/-- The table after edits, one after the other, whether they fail or not. -/
def performAll (table : Table) (edits : List Edit) : Table :=
  edits.foldl (fun current edit => (edit.perform current).2) table

end ApiDoc.Table
