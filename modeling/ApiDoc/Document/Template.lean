/-
This file finds the templates of a path and says when a document declares them: every operation under
the path has a path parameter for each.
-/
import ApiDoc.Document.Basic
import ApiDoc.Text.Search

namespace ApiDoc

namespace Path

/-- The name of the template that a piece of a path starts with, if the template is closed. -/
def templateName? (piece : Text) : Option Text := (piece.cutFirst? (.char '\x7d')).map (·.1)

/-- The names of the templates in a path, in order. -/
def templates (path : Text) : List Text :=
  (path.splitAtMark (.char '\x7b')).tail.filterMap templateName?

example : templates "/update/\x7btableName\x7d/\x7bid\x7d.\x7bformat\x7d" =
    (["tableName", "id", "format"] : List Text) := by decide

end Path

/-- The location of the parameters that stand for templates. -/
def Parameter.pathLocation : Text := "path"

/-- Every operation of the item has a path parameter of the name. -/
def PathItem.declares (item : PathItem) (name : Text) : Bool :=
  item.operations.all fun (_, operation) => operation.hasParameter name Parameter.pathLocation

/-- Every template of every path is declared by the operations under the path. -/
def Document.declaresTemplates (document : Document) : Bool :=
  document.paths.all fun (path, item) => (Path.templates path).all item.declares

end ApiDoc
