/-
This file says what the name of a column tells: which enumeration the column draws from, and which
table it refers to.
-/
import ApiDoc.Text.Search

namespace ApiDoc.Column

/-- What follows the first underscore of a name, or the whole name. -/
def suffix (column : Text) : Text := (column.afterFirst? (.char '_')).getD column

/-- Names that look like those of enumerations which cannot be queried. -/
def reservedEnumerations : List Text := ["PortalAuthLockedUserReasonEnum"]

/-- Fragments of columns that draw from no enumeration. -/
def excludedFragments : List Text := ["OneTimeCode"]

/-- The enumeration that a column draws from. -/
def enumerationName? (column : Text) : Option Text :=
  let suffix := suffix column
  if !suffix.mentions "Enum" || reservedEnumerations.contains suffix then none
  else if excludedFragments.any column.mentions then none
  else some suffix

/-- The name refers to a table: it ends in `ID` after more than one letter and is no `GUID`. -/
def isReference (column : Text) : Bool :=
  ("ID" : Text).isSuffixOf column && 3 < column.length && !column.mentions "GUID"

/-- The description that follows from the name of a column of a table. -/
def describe? (table column : Text) : Option Text :=
  if column = "TableID" then some "ID of element in Table specified in TableName"
  else if column = "TableName" then some "Name of table to be used for reference"
  else if isReference column then
    let referenced := (suffix column).replacing "ID" []
    if column = table ++ ("ID" : Text) then
      some (Text.ofPieces ["Primary identification key for ", referenced, " table"])
    else some (Text.ofPieces ["References ", referenced, " table"])
  else if (suffix column).mentions "Enum" then
    some (Text.ofPieces ["References ", column, " table"])
  else none

end ApiDoc.Column
