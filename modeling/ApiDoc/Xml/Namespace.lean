/-
This file resolves the names of a tag. A prefix stands for the namespace that it was last bound to,
and a name without one lies in the default namespace if it names an element, and in none if it names
an attribute. A resolved name is its namespace in braces, if it has one, and the name itself.
-/
import ApiDoc.Xml.Doctype.Basic

namespace ApiDoc.Xml

/-- The bindings in force, the latest first. The default namespace is bound to the empty prefix, and
what is bound to the empty namespace lies in none. -/
abbrev Namespaces := List (List Char × List Char)

namespace Namespaces

/-- The namespace of the prefix that every document has. -/
def xmlNamespace : List Char := "http://www.w3.org/XML/1998/namespace".toList

/-- The namespace of declarations, which no prefix can be bound to. -/
def xmlnsNamespace : List Char := "http://www.w3.org/2000/xmlns/".toList

/-- The bindings that every document has. -/
def initial : Namespaces := [("xml".toList, xmlNamespace)]

/-- A name in its namespace. -/
def resolved (uri localName : List Char) : List Char :=
  if uri.isEmpty then localName else '\x7b' :: uri ++ '\x7d' :: localName

/-- The parts of a name before and after the colon; the first is missing if there is no colon. -/
def parts (name : List Char) : Option (List Char) × List Char :=
  match name.dropWhile (· ≠ ':') with
  | [] => (none, name)
  | _ :: localName => (some (name.takeWhile (· ≠ ':')), localName)

/-- The namespace that a prefix is bound to. -/
def find? (namespaces : Namespaces) (wanted : List Char) : Option (List Char) :=
  (List.find? (fun (bound, _) => bound = wanted) namespaces).map (·.2)

/-- The name of an attribute, if its prefix is bound. -/
def attributeName? (namespaces : Namespaces) (name : List Char) : Option (List Char) :=
  match parts name with
  | (none, _) => some name
  | (some bound, localName) => (namespaces.find? bound).map fun uri => resolved uri localName

/-- The name of an element, if its prefix is bound. -/
def elementName? (namespaces : Namespaces) (name : List Char) : Option (List Char) :=
  match parts name with
  | (none, _) => some (resolved ((namespaces.find? []).getD []) name)
  | (some bound, localName) => (namespaces.find? bound).map fun uri => resolved uri localName

/-- The prefix that an attribute binds, if it is a declaration. -/
def declares? (name : List Char) : Option (List Char) :=
  if name = "xmlns".toList then some []
  else match parts name with
    | (some first, bound) => if first = "xmlns".toList then some bound else none
    | (none, _) => none

/-- The bindings with one more. Only the default namespace can be empty, a namespace holds no brace
that closes a name, and what is reserved is bound to itself alone. -/
def bind? (namespaces : Namespaces) (bound uri : List Char) : Option Namespaces :=
  if bound ≠ [] ∧ uri = [] then none
  else if bound = "xmlns".toList ∨ uri = xmlnsNamespace ∨ '\x7d' ∈ uri then none
  else if (bound = "xml".toList) ≠ (uri = xmlNamespace) then none
  else some ((bound, uri) :: namespaces)

end Namespaces

/-- An attribute as it is written in a tag. -/
structure WrittenAttribute where
  name : List Char
  value : List Piece
  deriving DecidableEq, Repr

/-- A start tag as it is written. An empty element ends with it. -/
structure WrittenTag where
  name : List Char
  attributes : List WrittenAttribute
  isEmpty : Bool
  deriving DecidableEq, Repr

/-- A start tag with resolved names, the values of its attributes, and the bindings in force within
its element. -/
structure Tag where
  name : List Char
  attributes : List (List Char × List Char)
  namespaces : Namespaces
  deriving DecidableEq, Repr

namespace WrittenTag

/-- Spaces in the value of an attribute only separate, as the first rule for it says. -/
def isTokenized (rules : List Doctype.AttributeRule) (name : List Char) : Bool :=
  (rules.find? fun rule => rule.name = name).any (·.tokenized)

/-- The attributes that are given, with their values. -/
def given? (tag : WrittenTag) (doctype : Doctype) : Option (List (List Char × List Char)) :=
  tag.attributes.mapM fun written =>
    (doctype.value? (isTokenized (doctype.rulesOf tag.name) written.name) written.value).map
      (written.name, ·)

/-- The attributes that are not given and have a default. -/
def defaults (tag : WrittenTag) (doctype : Doctype) : List (List Char × List Char) :=
  (doctype.rulesOf tag.name).filterMap fun rule =>
    if tag.attributes.any fun written => written.name = rule.name then none
    else rule.default?.map (rule.name, ·)

/-- The bindings in force within the element. -/
def bindings? (namespaces : Namespaces) (attributes : List (List Char × List Char)) :
    Option Namespaces :=
  attributes.foldlM (fun namespaces (name, value) =>
    match Namespaces.declares? name with
    | some bound => namespaces.bind? bound value
    | none => some namespaces) namespaces

/-- The tag that is meant, if its names and values can be resolved and no attribute is there twice. -/
def resolve? (tag : WrittenTag) (doctype : Doctype) (outer : Namespaces) : Option Tag := do
  let given ← tag.given? doctype
  let all := given ++ tag.defaults doctype
  let namespaces ← bindings? outer all
  let name ← namespaces.elementName? tag.name
  let proper := all.filter fun (name, _) => (Namespaces.declares? name).isNone
  let attributes ← proper.mapM fun (name, value) =>
    (namespaces.attributeName? name).map (·, value)
  if (given.map (·.1)).Nodup ∧ (attributes.map (·.1)).Nodup then
    return { name, attributes, namespaces }
  else none

end WrittenTag

end ApiDoc.Xml
