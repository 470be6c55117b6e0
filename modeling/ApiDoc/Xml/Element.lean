/-
This file picks the elements below the root out of the events of a document, in the order in which
they start.
-/
import ApiDoc.Text.Search
import ApiDoc.Xml.Document

namespace ApiDoc.Xml

/-- An element: its name without a namespace, and its attributes. -/
structure Element where
  name : Text
  attributes : Dict Text
  deriving DecidableEq, Repr

namespace Element

/-- The name without the namespace in braces before it. -/
def localName (name : Text) : Text := name.afterLast (.char '\x7d')

/-- The elements that start below the root, where some number of elements are open before the events,
and the number that is open after them. -/
def belowRoot : Nat → List Event → List Element × Nat
  | depth, [] => ([], depth)
  | depth, .opened name attributes :: rest =>
    let (elements, depthAfter) := belowRoot (depth + 1) rest
    if depth = 0 then (elements, depthAfter)
    else ({ name := localName name, attributes } :: elements, depthAfter)
  | depth, .closed :: rest => belowRoot (depth - 1) rest

end Element

end ApiDoc.Xml
