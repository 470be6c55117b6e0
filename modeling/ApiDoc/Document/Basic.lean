/-
This file defines the documents that describe an HTTP interface. Each model has declared parts and
keeps every further member of the object it was read from, in order.
-/
import ApiDoc.Json.Basic

namespace ApiDoc

/-- The methods under which a path can have an operation. -/
inductive Method where
  | get
  | put
  | post
  | delete
  | options
  | head
  | patch
  | trace
  deriving DecidableEq, Repr

namespace Method

/-- All methods in the order in which they are written. -/
def all : List Method := [.get, .put, .post, .delete, .options, .head, .patch, .trace]

/-- The key of a method. -/
def key : Method → Text
  | .get => "get"
  | .put => "put"
  | .post => "post"
  | .delete => "delete"
  | .options => "options"
  | .head => "head"
  | .patch => "patch"
  | .trace => "trace"

end Method

/-- A parameter of an operation. -/
structure Parameter where
  name : Option Text := none
  location : Option Text := none
  description : Option Text := none
  required : Option Bool := none
  schema : Option (Dict Json) := none
  extra : Dict Json := []
  deriving DecidableEq, Repr, Inhabited

/-- What an operation expects to be sent. -/
structure RequestBody where
  description : Option Text := none
  content : Dict (Dict Json) := []
  required : Option Bool := none
  extra : Dict Json := []
  deriving DecidableEq, Repr, Inhabited

/-- An operation: what one method does on a path. -/
structure Operation where
  description : Option Text := none
  parameters : List Parameter := []
  requestBody : Option RequestBody := none
  responses : Dict (Dict Json) := []
  extra : Dict Json := []
  deriving DecidableEq, Repr, Inhabited

/-- The operations of a path. -/
structure PathItem where
  get : Option Operation := none
  put : Option Operation := none
  post : Option Operation := none
  delete : Option Operation := none
  options : Option Operation := none
  head : Option Operation := none
  patch : Option Operation := none
  trace : Option Operation := none
  extra : Dict Json := []
  deriving DecidableEq, Repr, Inhabited

/-- The schemas and the security schemes that a document names. -/
structure Components where
  schemas : Dict Json := []
  securitySchemes : Dict (Dict Json) := []
  extra : Dict Json := []
  deriving DecidableEq, Repr, Inhabited

/-- A document. A security requirement lists scopes under the names of schemes. -/
structure Document where
  openapi : Text := "3.0.1"
  info : Option (Dict Json) := none
  servers : List (Dict Json) := []
  paths : Dict PathItem := []
  components : Components := {}
  security : List (Dict (List Text)) := []
  extra : Dict Json := []
  deriving DecidableEq, Repr, Inhabited

namespace Operation

/-- The first parameter of a name, in a location if one is asked for. -/
def findParameter? (operation : Operation) (name : Text) (location : Option Text) :
    Option Parameter :=
  operation.parameters.find? fun parameter =>
    parameter.name = some name && (location.isNone || parameter.location = location)

/-- The operation has a parameter of a name in a location. -/
def hasParameter (operation : Operation) (name location : Text) : Bool :=
  (operation.findParameter? name (some location)).isSome

/-- The operation with one more parameter at the end. -/
def addParameter (operation : Operation) (parameter : Parameter) : Operation :=
  { operation with parameters := operation.parameters ++ [parameter] }

end Operation

namespace PathItem

/-- The operation under a method. -/
def operation? (item : PathItem) : Method → Option Operation
  | .get => item.get
  | .put => item.put
  | .post => item.post
  | .delete => item.delete
  | .options => item.options
  | .head => item.head
  | .patch => item.patch
  | .trace => item.trace

/-- The methods that have an operation, in the order of writing, with their operations. -/
def operations (item : PathItem) : List (Method × Operation) :=
  Method.all.filterMap fun method => (item.operation? method).map (method, ·)

/-- The item with every operation changed. -/
def mapOperations (change : Operation → Operation) (item : PathItem) : PathItem :=
  { item with
    get := item.get.map change
    put := item.put.map change
    post := item.post.map change
    delete := item.delete.map change
    options := item.options.map change
    head := item.head.map change
    patch := item.patch.map change
    trace := item.trace.map change }

end PathItem

namespace Document

/-- The document with every path item changed by a function of its path. -/
def mapItems (change : Text → PathItem → PathItem) (document : Document) : Document :=
  { document with paths := document.paths.mapEntries change }

end Document

end ApiDoc
