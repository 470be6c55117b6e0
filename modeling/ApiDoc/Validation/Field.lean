/-
This file finds the declared fields of a model among the members of a JSON object. A field has the key
it is written under and may have a second name; where an object gives both, the key wins and the other
member counts as unknown.
-/
import ApiDoc.Validation.Lenient

namespace ApiDoc

/-- A declared field: the key it is written under and the other name it is known by. -/
structure Field where
  key : Text
  name : Text
  deriving DecidableEq, Repr

namespace Field

/-- A field that has one name only. -/
def named (key : Text) : Field := { key, name := key }

/-- The name under which the members give the field. -/
def nameIn (members : Dict Json) (field : Field) : Text :=
  if members.hasKey field.key then field.key else field.name

/-- The value that the members give to the field. -/
def find? (members : Dict Json) (field : Field) : Option Json :=
  members.get? (field.nameIn members)

/-- The field as its kind reads it, or its default if it is not given. -/
def read {α : Type} (members : Dict Json) (field : Field) (kind : Json → Validated α)
    (default : α) : Validated α :=
  match field.find? members with
  | none => .valid default
  | some value => (kind value).within (.key (field.nameIn members))

/-- The field as its kind reads it; it has to be given. -/
def require {α : Type} (members : Dict Json) (field : Field) (kind : Json → Validated α) :
    Validated α :=
  match field.find? members with
  | none => .invalid [{ location := [.key field.key], kind := .missing }]
  | some value => (kind value).within (.key (field.nameIn members))

/-- The members that no declared field takes, in their order. -/
def unknown (members : Dict Json) (fields : List Field) : Dict Json :=
  members.without (fields.map fun field => field.nameIn members)

end Field

end ApiDoc
