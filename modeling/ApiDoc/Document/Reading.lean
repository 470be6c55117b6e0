/-
This file reads documents from JSON. Every issue of a document is found, in the order of the declared
parts; members that no part takes are kept. A model takes no member under a key that cannot be encoded,
and where there is one nothing else counts.
-/
import ApiDoc.Document.Basic
import ApiDoc.Validation.Field

namespace ApiDoc

/-- Every key can be encoded. -/
def Dict.hasEncodableKeys {α : Type} (dict : Dict α) : Bool :=
  dict.all fun (key, _) => key.toChars?.isSome

/-- A model that a JSON object describes. -/
def Lenient.model {α : Type} (read : Dict Json → Validated α) : Json → Validated α
  | .object members => if Dict.hasEncodableKeys members then read members else .issue .unencodableKey
  | _ => .issue .notModel

namespace Parameter

def nameField : Field := .named "name"
def locationField : Field := { key := "in", name := "location" }
def descriptionField : Field := .named "description"
def requiredField : Field := .named "required"
def schemaField : Field := { key := "schema", name := "schema_" }

/-- The declared parts in order. -/
def fields : List Field :=
  [nameField, locationField, descriptionField, requiredField, schemaField]

/-- The parameter that members describe. -/
def ofMembers (members : Dict Json) : Validated Parameter :=
  Parameter.mk
    <$> nameField.read members (Lenient.optional Lenient.string) none
    <*> locationField.read members (Lenient.optional Lenient.string) none
    <*> descriptionField.read members (Lenient.optional Lenient.string) none
    <*> requiredField.read members (Lenient.optional Lenient.boolean) none
    <*> schemaField.read members (Lenient.optional Lenient.plainDictionary) none
    <*> pure (Field.unknown members fields)

end Parameter

namespace RequestBody

def descriptionField : Field := .named "description"
def contentField : Field := .named "content"
def requiredField : Field := .named "required"

/-- The declared parts in order. -/
def fields : List Field := [descriptionField, contentField, requiredField]

/-- The body that members describe. -/
def ofMembers (members : Dict Json) : Validated RequestBody :=
  RequestBody.mk
    <$> descriptionField.read members (Lenient.optional Lenient.string) none
    <*> contentField.read members (Lenient.dictionary Lenient.plainDictionary) []
    <*> requiredField.read members (Lenient.optional Lenient.boolean) none
    <*> pure (Field.unknown members fields)

end RequestBody

namespace Operation

def descriptionField : Field := .named "description"
def parametersField : Field := .named "parameters"
def requestBodyField : Field := { key := "requestBody", name := "request_body" }
def responsesField : Field := .named "responses"

/-- The declared parts in order. -/
def fields : List Field := [descriptionField, parametersField, requestBodyField, responsesField]

/-- The operation that members describe. -/
def ofMembers (members : Dict Json) : Validated Operation :=
  Operation.mk
    <$> descriptionField.read members (Lenient.optional Lenient.string) none
    <*> parametersField.read members (Lenient.list (Lenient.model Parameter.ofMembers)) []
    <*> requestBodyField.read members (Lenient.optional (Lenient.model RequestBody.ofMembers)) none
    <*> responsesField.read members (Lenient.dictionary Lenient.plainDictionary) []
    <*> pure (Field.unknown members fields)

end Operation

namespace PathItem

/-- The part that holds the operation of a method. -/
def methodField (method : Method) : Field := .named method.key

/-- The declared parts in order. -/
def fields : List Field := Method.all.map methodField

/-- The operation that members give to a method. -/
def operationOf (members : Dict Json) (method : Method) : Validated (Option Operation) :=
  (methodField method).read members (Lenient.optional (Lenient.model Operation.ofMembers)) none

/-- The path item that members describe. -/
def ofMembers (members : Dict Json) : Validated PathItem :=
  PathItem.mk
    <$> operationOf members .get
    <*> operationOf members .put
    <*> operationOf members .post
    <*> operationOf members .delete
    <*> operationOf members .options
    <*> operationOf members .head
    <*> operationOf members .patch
    <*> operationOf members .trace
    <*> pure (Field.unknown members fields)

end PathItem

namespace Components

def schemasField : Field := .named "schemas"
def securitySchemesField : Field := { key := "securitySchemes", name := "security_schemes" }

/-- The declared parts in order. -/
def fields : List Field := [schemasField, securitySchemesField]

/-- A schema, which is a dictionary. -/
def readSchema (value : Json) : Validated Json := .object <$> Lenient.plainDictionary value

/-- The components that members describe. -/
def ofMembers (members : Dict Json) : Validated Components :=
  Components.mk
    <$> schemasField.read members (Lenient.dictionary readSchema) []
    <*> securitySchemesField.read members (Lenient.dictionary Lenient.plainDictionary) []
    <*> pure (Field.unknown members fields)

end Components

namespace Document

def openapiField : Field := .named "openapi"
def infoField : Field := .named "info"
def serversField : Field := .named "servers"
def pathsField : Field := .named "paths"
def componentsField : Field := .named "components"
def securityField : Field := .named "security"

/-- The declared parts in order. -/
def fields : List Field :=
  [openapiField, infoField, serversField, pathsField, componentsField, securityField]

/-- A security requirement. -/
def readRequirement : Json → Validated (Dict (List Text)) :=
  Lenient.dictionary (Lenient.list Lenient.string)

/-- The document that members describe. -/
def ofMembers (members : Dict Json) : Validated Document :=
  Document.mk
    <$> openapiField.read members Lenient.string "3.0.1"
    <*> infoField.read members (Lenient.optional Lenient.plainDictionary) none
    <*> serversField.read members (Lenient.list Lenient.plainDictionary) []
    <*> pathsField.read members (Lenient.dictionary (Lenient.model PathItem.ofMembers)) []
    <*> componentsField.read members (Lenient.model Components.ofMembers) {}
    <*> securityField.read members (Lenient.list readRequirement) []
    <*> pure (Field.unknown members fields)

/-- The document that a JSON value describes. -/
def ofJson (value : Json) : Validated Document := Lenient.model ofMembers value

end Document

end ApiDoc
