/-
This file defines a source that knows its enumerations beforehand and keeps the names it is asked for.
-/
import ApiDoc.Enumeration.Cache

namespace ApiDoc.EnumSource

/-- The source of some enumerations, by name. Its state is the names it was asked for, in order. -/
def known (enumerations : Dict (List (Int × Text))) : EnumSource (List Text) :=
  fun name => .ofFunction fun asked =>
    let answer := match Dict.get? enumerations name with
      | some values => .ok { name, values }
      | none => .error (.malformed (.unknownEnumeration name))
    (answer, asked ++ [name])

end ApiDoc.EnumSource
