/-
This file defines JSON values. Members of an object keep their order, integers are exact and apart
from doubles, and strings are texts. Equality of values is decidable, member order included.
-/
import ApiDoc.Dict
import ApiDoc.Number.Double

namespace ApiDoc

/-- A JSON value. -/
inductive Json where
  | null
  | bool (value : Bool)
  | integer (value : Int)
  | double (value : Double)
  | string (value : Text)
  | array (items : List Json)
  | object (members : List (Text × Json))
  deriving Repr, Inhabited

namespace Json

mutual

/-- Decides the equality of two values. -/
def decideEq : (first second : Json) → Decidable (first = second)
  | .null, .null => isTrue rfl
  | .bool a, .bool b => decidable_of_iff (a = b) (by simp)
  | .integer a, .integer b => decidable_of_iff (a = b) (by simp)
  | .double a, .double b => decidable_of_iff (a = b) (by simp)
  | .string a, .string b => decidable_of_iff (a = b) (by simp)
  | .array a, .array b => match decideItemsEq a b with
    | isTrue same => isTrue (by rw [same])
    | isFalse differ => isFalse (by simpa using differ)
  | .object a, .object b => match decideMembersEq a b with
    | isTrue same => isTrue (by rw [same])
    | isFalse differ => isFalse (by simpa using differ)
  | .null, .bool _ | .null, .integer _ | .null, .double _ | .null, .string _ | .null, .array _
  | .null, .object _ | .bool _, .null | .bool _, .integer _ | .bool _, .double _
  | .bool _, .string _ | .bool _, .array _ | .bool _, .object _ | .integer _, .null
  | .integer _, .bool _ | .integer _, .double _ | .integer _, .string _ | .integer _, .array _
  | .integer _, .object _ | .double _, .null | .double _, .bool _ | .double _, .integer _
  | .double _, .string _ | .double _, .array _ | .double _, .object _ | .string _, .null
  | .string _, .bool _ | .string _, .integer _ | .string _, .double _ | .string _, .array _
  | .string _, .object _ | .array _, .null | .array _, .bool _ | .array _, .integer _
  | .array _, .double _ | .array _, .string _ | .array _, .object _ | .object _, .null
  | .object _, .bool _ | .object _, .integer _ | .object _, .double _ | .object _, .string _
  | .object _, .array _ => isFalse (by simp)

/-- Decides the equality of two lists of values. -/
def decideItemsEq : (first second : List Json) → Decidable (first = second)
  | [], [] => isTrue rfl
  | [], _ :: _ | _ :: _, [] => isFalse (by simp)
  | a :: as, b :: bs => match decideEq a b, decideItemsEq as bs with
    | isTrue head, isTrue tail => isTrue (by rw [head, tail])
    | isFalse differ, _ => isFalse (by simp [differ])
    | _, isFalse differ => isFalse (by simp [differ])

/-- Decides the equality of two lists of members. -/
def decideMembersEq : (first second : List (Text × Json)) → Decidable (first = second)
  | [], [] => isTrue rfl
  | [], _ :: _ | _ :: _, [] => isFalse (by simp)
  | (key, a) :: as, (other, b) :: bs =>
    match decEq key other, decideEq a b, decideMembersEq as bs with
    | isTrue keys, isTrue head, isTrue tail => isTrue (by rw [keys, head, tail])
    | isFalse differ, _, _ => isFalse (by simp [differ])
    | _, isFalse differ, _ => isFalse (by simp [differ])
    | _, _, isFalse differ => isFalse (by simp [differ])

end

instance : DecidableEq Json := decideEq

/-- The value is null. -/
def isNull : Json → Bool
  | .null => true
  | _ => false

/-- The member of an object under a key. -/
def member? : Json → Text → Option Json
  | .object members, key => Dict.get? members key
  | _, _ => none

end Json

end ApiDoc
