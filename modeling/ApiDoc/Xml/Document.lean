/-
This file follows a document from piece to piece of its markup and reports where elements start and
end. An entity in content is followed as if its text stood in its place; the elements that start
within it also end within it.
-/
import ApiDoc.Xml.Markup
import ApiDoc.Dict

namespace ApiDoc.Xml

/-- What is reported of a document: an element starts, under its resolved name, or it ends. -/
inductive Event where
  | opened (name : Text) (attributes : Dict Text)
  | closed
  deriving DecidableEq, Repr

/-- An element that has started: its name as it is written and the bindings in force within. -/
structure OpenElement where
  name : List Char
  namespaces : Namespaces
  deriving DecidableEq, Repr

/-- How far a document has been followed. The elements that are open are listed from the innermost;
`floor` of them were open before the entity that is followed. -/
structure Progress where
  place : Place := .prolog false
  doctype : Doctype := {}
  ancestors : List OpenElement := []
  floor : Nat := 0
  deriving DecidableEq, Repr

namespace Progress

/-- The bindings in force. -/
def namespaces (progress : Progress) : Namespaces :=
  match progress.ancestors with
  | [] => .initial
  | element :: _ => element.namespaces

/-- The progress at another place. -/
def moved (progress : Progress) (place : Place) : Progress := { progress with place }

/-- Where a document stands between two tags. -/
def placeAmong (ancestors : List OpenElement) : Place :=
  if ancestors.isEmpty then .epilog else .content

/-- The report that an element starts. -/
def opening (tag : Tag) : Event :=
  .opened (tag.name.map .char) (tag.attributes.map fun (name, value) =>
    (name.map .char, value.map .char))

/-- The progress after a start tag. -/
def enter? (progress : Progress) (written : WrittenTag) : Option (List Event × Progress) := do
  let tag ← written.resolve? progress.doctype progress.namespaces
  if written.isEmpty then
    return ([opening tag, .closed], progress.moved (placeAmong progress.ancestors))
  else
    let element := { name := written.name, namespaces := tag.namespaces }
    return ([opening tag],
      { progress with place := .content, ancestors := element :: progress.ancestors })

/-- The progress after an end tag, which ends the innermost element. -/
def leave? (progress : Progress) (name : List Char) : Option (List Event × Progress) :=
  match progress.ancestors with
  | [] => none
  | element :: ancestors =>
    if element.name = name ∧ progress.floor ≤ ancestors.length then
      some ([.closed], { progress with place := placeAmong ancestors, ancestors })
    else none

/-- The progress after markup that reports nothing. -/
def silently (progress : Progress) : Option (List Event × Progress) := some ([], progress)

/-- The progress after a piece of markup, where `follow?` follows the text of an entity. -/
def step? (follow? : List Char → Progress → Option (List Event × Progress))
    (progress : Progress) : Markup → Option (List Event × Progress)
  | .passed => progress.silently
  | .header header =>
    silently { progress with
      place := if header.hasSubset then .subset else .prolog true
      doctype := { progress.doctype with hasExternal := header.hasExternal } }
  | .declaration declaration => do
    silently { progress with doctype := ← progress.doctype.declare? declaration }
  | .parameterReference =>
    silently { progress with
      doctype := { progress.doctype with hasParameterReference := true } }
  | .subsetEnd => (progress.moved .afterSubset).silently
  | .headerEnd => (progress.moved (.prolog true)).silently
  | .startTag tag => progress.enter? tag
  | .endTag name => progress.leave? name
  | .dataStart => (progress.moved .characterData).silently
  | .dataEnd => (progress.moved .content).silently
  | .reference (.number value) => (Reference.characterOf? value).bind fun _ => progress.silently
  | .reference (.name name) =>
    if (Reference.predefined? name).isSome then progress.silently
    else match progress.doctype.entity? name with
      | some (some text) => follow? text progress
      | _ => none

end Progress

/-- What following a text has led to: what was reported, how far it went, and the characters at the
end that make up no markup yet. -/
structure Followed where
  events : List Event
  progress : Progress
  pending : List Char
  deriving DecidableEq, Repr

namespace Progress

/-- Follows at most a number of pieces of markup. -/
def followUpTo? (follow? : List Char → Progress → Option (List Event × Progress)) :
    Nat → Progress → List Char → Option Followed
  | 0, progress, text => some { events := [], progress, pending := text }
  | limit + 1, progress, text => match Markup.scan progress.place text with
    | .unfinished => some { events := [], progress, pending := text }
    | .malformed => none
    | .found markup rest => do
      let (events, progress) ← progress.step? follow? markup
      let followed ← followUpTo? follow? limit progress rest
      return { followed with events := events ++ followed.events }

/-- Follows the text of an entity in which no more than a number of others lie within each other. At
its end the elements are open that were open before it. -/
def followEntity? : Nat → List Char → Progress → Option (List Event × Progress)
  | 0, _, _ => none
  | depth + 1, text, progress => do
    let inside := { progress with floor := progress.ancestors.length }
    let followed ← followUpTo? (followEntity? depth) text.length inside text
    if followed.pending.all (· = ']') ∧ followed.progress.place = .content
        ∧ followed.progress.ancestors.length = inside.floor then
      return (followed.events, { followed.progress with floor := progress.floor })
    else none

/-- Follows a text, in which every entity that is declared can lie within the others once. -/
def follow? (progress : Progress) (text : List Char) : Option Followed :=
  followUpTo? (fun entity progress => followEntity? progress.doctype.nesting entity progress)
    text.length progress text

/-- The document may end here. -/
def isComplete (progress : Progress) : Bool := progress.place = .epilog

end Progress

end ApiDoc.Xml
