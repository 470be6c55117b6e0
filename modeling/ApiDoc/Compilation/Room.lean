/-
This file says what there has to be room for when a document is compiled. Correction copies the
operations that it puts under a second method, with all that they hold, and in the end the composed
document is written down; both take a call wherever one part lies within another, so that what nests
too deep ends the run.
-/
import ApiDoc.Document.Composition
import ApiDoc.Document.Correction
import ApiDoc.Failure

namespace ApiDoc

/-- Which operations can be copied with all that they hold, and which documents can be written down. -/
structure Room where
  copies : Operation → Bool := fun _ => true
  writes : Json → Bool := fun _ => true

namespace PathItem

/-- The operation that is copied for the GET of a query. -/
def copiedForQuery? (path : Text) (item : PathItem) : Option Operation :=
  if Path.isQuery path then item.post.map Operation.asStarqlPost else none

/-- The operation that is copied for another method: a POST that updates is put under two, and one that
queries stays where it is. -/
def copiedForMethod? (path : Text) (item : PathItem) : Option Operation :=
  if Path.reads path && !item.hasBody then none
  else if path.mentions "delete" then none
  else if path.mentions "update" && !path.mentions "post" then item.post
  else if path.mentions "query" && item.get.isNone then item.post
  else none

end PathItem

namespace Document

/-- The operations that correction copies. -/
def copied (document : Document) : List Operation :=
  let renamed := document.renameTableTemplates
  renamed.paths.filterMap (fun (path, item) => item.copiedForQuery? path) ++
    renamed.addMissingParameters.paths.filterMap fun (path, item) => item.copiedForMethod? path

/-- The corrected document, if there is room for what correction copies. -/
def correctWithin (room : Room) (servers : List (Dict Json)) (document : Document) :
    Except Failure Document :=
  if document.copied.all room.copies then .ok (document.correct servers) else .error .tooDeep

/-- The text of a document, if there is room to write it. -/
def serializeWithin (room : Room) (document : Json) : Except Failure Text :=
  if room.writes document then .ok (serialize document) else .error .tooDeep

end Document

end ApiDoc
