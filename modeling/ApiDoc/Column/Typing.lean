/-
This file types columns. The type token of a column, read without regard to case, gives a JSON Schema
type with a format and a description; the names of some columns overrule their tokens.
-/
import ApiDoc.Text.Lowercase
import ApiDoc.Text.Search
import ApiDoc.Dict

namespace ApiDoc

/-- What a column's type means in a schema. -/
structure ColumnType where
  type : Text
  format : Option Text
  description : Option Text
  deriving DecidableEq, Repr

namespace ColumnType

/-- A type with a format and a description. -/
def described (type format description : Text) : ColumnType :=
  { type, format := some format, description := some description }

def dateTime : ColumnType :=
  described "string" "date-time"
    "Date and time as defined by RFC 3339, section 5.6, for example, 2017-07-21T17:32:28Z"

def date : ColumnType :=
  described "string" "date"
    "Date as defined by RFC 3339, section 5.6, for example, 2017-07-21"

def time : ColumnType :=
  described "string" "time"
    "Time as defined by RFC 3339, section 5.6, for example, 17:32:28Z"

def decimal : ColumnType :=
  described "number" "decimal"
    "A fixed point decimal number of unspecified precision and range"

def binary : ColumnType := described "string" "binary" "Any sequence of octets"

def byte : ColumnType :=
  described "string" "byte" "Base64 encoded data as defined by RFC4648, section 6"

def guid : ColumnType :=
  described "string" "guid" <| Text.ofPieces
    ["A Globally Unique Identifier, defined as UUID by RFC 9562, section 4, ",
      "for example, f81d4fae-7dec-11d0-a765-00a0c91e6bf6"]

def unsignedShort : ColumnType := described "integer" "uint16" "Unsigned 16-bit integer"

def email : ColumnType :=
  described "string" "email" <| Text.ofPieces
    ["An email address, defined as Mailbox by RFC5321, section 2.3.11, ",
      "for example, example@domain.com"]

/-- A token that is mentioned in a column's token decides its type. -/
def mentioned : List (Text × ColumnType) := [("datetime", dateTime)]

/-- The tokens that decide a column's type alone. -/
def exact : Dict ColumnType :=
  [("date", date), ("timestamp", time), ("money", decimal), ("decimal", decimal),
    ("bigdecimal", decimal), ("binary", binary), ("longstring", binary), ("byte", byte),
    ("guid", guid), ("short", unsignedShort)]

/-- The columns that identify a user by an address without saying so. -/
def userIdentifiers : List Text := ["PortalAuthProviderUserID"]

/-- The type that a column has by its name, whatever its token. -/
def ofName? (column : Text) : Option ColumnType :=
  if column.mentions "Email" || userIdentifiers.contains column then some email
  else if column = "Password" then some byte
  else none

/-- The type that a column has by its token; an unknown token is a type of its own. -/
def ofToken (token : Text) : ColumnType :=
  let token := token.lowercase
  match mentioned.find? fun (fragment, _) => token.mentions fragment with
  | some (_, type) => type
  | none => (exact.get? token).getD { type := token, format := none, description := none }

/-- The type of a column. -/
def ofColumn (token column : Text) : ColumnType := (ofName? column).getD (ofToken token)

end ColumnType

end ApiDoc
