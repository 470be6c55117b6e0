/-
This file defines how a run can fail. Two kinds of failure are declared: something that the run asks
for does not answer, or an answer is of no use. The others are conditions that nothing handles.
-/
import ApiDoc.Json.Body
import ApiDoc.Validation.Issue
import ApiDoc.Text.Quoted

namespace ApiDoc

/-- Why the rows of an enumeration are of no use. -/
inductive RowDefect where
  | body (defect : Json.BodyDefect)
  | missingMember (key : Text)
  | wrongShape
  | notNumeral (text : Text)
  | numeralTooLong
  | notNumber
  deriving DecidableEq, Repr

/-- Why an answer is of no use. -/
inductive Malformation where
  | boolean (column key value : Text)
  | integer (column key value : Text)
  | markup (url : Text)
  | rows (enumeration : Text) (defect : RowDefect)
  | swagger (url : Text) (defect : Json.BodyDefect)
  | conversion (defect : Json.BodyDefect)
  | document (issues : List Issue)
  | unknownEnumeration (name : Text)
  deriving DecidableEq, Repr

/-- Why a run ends without a result. -/
inductive Failure where
  | unavailable (url : Text) (status : Option Int) (reason : Text)
  | malformed (cause : Malformation)
  | rejected (issues : List Issue)
  | tooDeep
  | infiniteIdentifier
  | infiniteNumber
  | unencodable
  | unknownCharset (name : Text)
  | wideCharset
  | undecodableContent (message : Text)
  | tooManyRedirects (message : Text)
  deriving DecidableEq, Repr

/-- What a row defect adds to the message; the others add nothing. -/
def RowDefect.detail : RowDefect → Text
  | .missingMember key => Text.ofPieces [": ", key.quoted]
  | .notNumeral text =>
    Text.ofPieces [": invalid literal for int() with base 10: ", text.quoted.take 200]
  | .notNumber => ": cannot convert float NaN to integer"
  | .body _ | .wrongShape | .numeralTooLong => []

/-- The message of a malformation. -/
def Malformation.message : Malformation → Text
  | .boolean column key value =>
    Text.ofPieces ["Column ", column, ": ", key, "=", value.quoted, " is not a boolean"]
  | .integer column key value =>
    Text.ofPieces ["Column ", column, ": ", key, "=", value.quoted, " is not an integer"]
  | .markup url => Text.ofPieces ["Could not parse XML from ", url]
  | .rows enumeration defect =>
    Text.ofPieces ["Unexpected enum data for ", enumeration, defect.detail]
  | .swagger url _ => Text.ofPieces ["Swagger document at ", url, " is not JSON"]
  | .conversion _ => "Converter returned invalid JSON"
  | .document _ => "Converted document is not valid OpenAPI"
  | .unknownEnumeration name => Text.ofPieces ["no enum ", name]

/-- The message of something that does not answer. -/
def unavailableMessage (url : Text) (status : Option Int) (reason : Text) : Text :=
  let outcome : Text := match status with
    | some code => Text.ofPieces ["HTTP ", Text.ofInt code]
    | none => "no response"
  let detail : Text := if reason.isEmpty then [] else Text.ofPieces [": ", reason]
  Text.ofPieces [url, " → ", outcome, detail]

/-- The message of a failure; empty where its kind says all. -/
def Failure.message : Failure → Text
  | .unavailable url status reason => unavailableMessage url status reason
  | .malformed cause => cause.message
  | .infiniteIdentifier => "cannot convert float infinity to integer"
  | .infiniteNumber => "Out of range float values are not JSON compliant"
  | .unknownCharset name => Text.ofPieces ["unknown encoding: ", name]
  | .wideCharset => "multi-byte encodings are not supported"
  | .undecodableContent message | .tooManyRedirects message => message
  | .rejected _ | .tooDeep | .unencodable => []

/-- The failure is one of the two declared kinds. -/
def Failure.isDeclared : Failure → Bool
  | .unavailable .. | .malformed _ => true
  | _ => false

end ApiDoc
