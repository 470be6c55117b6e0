/-
This file defines element trees: what a document stands for once its names are resolved and its
text, comments and instructions are left out.
-/
import ApiDoc.Xml.Element

namespace ApiDoc.Xml

/-- A name and the namespace that it lies in, which is empty if it lies in none. -/
structure ExpandedName where
  uri : List Char
  localName : List Char
  deriving DecidableEq, Repr

/-- An element: its name, its attributes in order, and the elements right below it in order. -/
inductive Tree where
  | node (name : ExpandedName) (attributes : List (ExpandedName × List Char)) (children : List Tree)
  deriving Repr

namespace Tree

/-- The name of an element and its attributes, as they are delivered. -/
def element : Tree → Element
  | .node name attributes _ =>
    { name := name.localName.map .char
      attributes := attributes.map fun (name, value) =>
        ((Namespaces.resolved name.uri name.localName).map .char, value.map .char) }

mutual

/-- An element and all elements below it, each before those below it. -/
def preorder : Tree → List Tree
  | .node name attributes children => .node name attributes children :: preorderOfAll children

/-- Elements in a row and all elements below them. -/
def preorderOfAll : List Tree → List Tree
  | [] => []
  | tree :: others => tree.preorder ++ preorderOfAll others

end

/-- The elements below an element, in the order in which they start. -/
def descendants : Tree → List Tree
  | .node _ _ children => preorderOfAll children

end Tree

end ApiDoc.Xml
