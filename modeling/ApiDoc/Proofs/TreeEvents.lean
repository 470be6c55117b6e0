/-
This file proves that counting the elements that are open picks the elements below the root out of
the events of a tree: each of them once, in the order in which they start.
-/
import ApiDoc.Xml.Tree
import ApiDoc.Proofs.ChunkIndependence

namespace ApiDoc.Xml

namespace ExpandedName

/-- The name as it is reported, with its namespace in braces. -/
def resolved (name : ExpandedName) : List Char := Namespaces.resolved name.uri name.localName

theorem afterLast_of_not_mem {mark : CodePoint} {text : Text} (without : mark ∉ text) :
    text.afterLast mark = text := by
  induction text with
  | nil => rfl
  | cons point rest inductionHypothesis =>
    obtain ⟨differs, withoutRest⟩ := not_or.1 (mt List.mem_cons.2 without)
    rw [Text.afterLast, if_neg withoutRest, if_neg (Ne.symm differs)]

theorem afterLast_append {mark : CodePoint} {text : Text} (without : mark ∉ text) (before : Text) :
    Text.afterLast mark (before ++ mark :: text) = text := by
  induction before with
  | nil => rw [List.nil_append, Text.afterLast, if_neg without, if_pos rfl]
  | cons point rest inductionHypothesis =>
    rw [List.cons_append, Text.afterLast, if_pos (List.mem_append_right _ (List.mem_cons_self ..))]
    exact inductionHypothesis

/-- The part behind the braces is the name itself. -/
theorem localName_resolved {name : ExpandedName} (plain : '\x7d' ∉ name.localName) :
    Element.localName (name.resolved.map .char) = name.localName.map .char := by
  have without : CodePoint.char '\x7d' ∉ name.localName.map CodePoint.char := by simpa using plain
  unfold resolved Namespaces.resolved Element.localName
  split
  · exact afterLast_of_not_mem without
  · rw [List.map_append, List.map_cons]
    exact afterLast_append without _

end ExpandedName

namespace Tree

/-- What is reported when an element starts. -/
def opening (name : ExpandedName) (attributes : List (ExpandedName × List Char)) : Event :=
  .opened (name.resolved.map .char) (attributes.map fun (name, value) =>
    (name.resolved.map .char, value.map .char))

mutual

/-- What is reported of an element: that it starts, what lies within, and that it ends. -/
def events : Tree → List Event
  | .node name attributes children => opening name attributes :: eventsOfAll children ++ [.closed]

/-- What is reported of elements in a row. -/
def eventsOfAll : List Tree → List Event
  | [] => []
  | tree :: others => tree.events ++ eventsOfAll others

end

mutual

/-- No local name within an element holds the brace that closes a namespace. -/
def IsPlain : Tree → Prop
  | .node name _ children => '\x7d' ∉ name.localName ∧ ArePlain children

/-- No local name within elements in a row holds the brace that closes a namespace. -/
def ArePlain : List Tree → Prop
  | [] => True
  | tree :: others => tree.IsPlain ∧ ArePlain others

end

mutual

theorem belowRoot_events (depth : Nat) : ∀ tree : Tree, tree.IsPlain →
    Element.belowRoot (depth + 1) tree.events = (tree.preorder.map element, depth + 1)
  | .node name attributes children, plain => by
    rw [events, opening, preorder, List.cons_append, Element.belowRoot, Element.belowRoot_append,
      belowRoot_eventsOfAll (depth + 1) children plain.2, ExpandedName.localName_resolved plain.1]
    simp [Element.belowRoot, element, ExpandedName.resolved]

/-- Elements within the root are counted from one, and the count is the same after them. -/
theorem belowRoot_eventsOfAll (depth : Nat) : ∀ trees : List Tree, ArePlain trees →
    Element.belowRoot (depth + 1) (eventsOfAll trees) =
      ((preorderOfAll trees).map element, depth + 1)
  | [], _ => rfl
  | tree :: others, plain => by
    rw [eventsOfAll, preorderOfAll, Element.belowRoot_append, belowRoot_events depth tree plain.1,
      belowRoot_eventsOfAll depth others plain.2, List.map_append]

end

/-- The root itself is left out. -/
theorem belowRoot_root (tree : Tree) (plain : tree.IsPlain) :
    Element.belowRoot 0 tree.events = (tree.descendants.map element, 0) := by
  obtain ⟨name, attributes, children⟩ := tree
  rw [events, opening, descendants, List.cons_append, Element.belowRoot, Element.belowRoot_append,
    belowRoot_eventsOfAll 0 children plain.2]
  simp [Element.belowRoot]

end Tree

end ApiDoc.Xml
