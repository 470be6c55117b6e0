/-
This file keeps what the prolog of a document declares. Of several declarations of one name the first
counts. Declarations may also be kept elsewhere, where they are never looked for; a document that does
not claim to stand alone may then refer to entities that nothing here declares, and once it refers to
further declarations, those that follow are not read.
-/
import ApiDoc.Xml.Doctype.Declaration
import ApiDoc.Xml.Reference

namespace ApiDoc.Xml

/-- What a document declares. The text of an entity is missing if it is kept elsewhere. -/
structure Doctype where
  standalone : Bool := false
  hasExternal : Bool := false
  hasParameterReference : Bool := false
  entities : List (List Char × Option (List Char)) := []
  attributes : List (List Char × Doctype.AttributeRule) := []
  deriving DecidableEq, Repr

namespace Doctype

/-- Declarations that follow are read. -/
def readsOn (doctype : Doctype) : Bool := !doctype.hasParameterReference || doctype.standalone

/-- An entity that is not declared here may be declared elsewhere. -/
def allowsUndeclared (doctype : Doctype) : Bool :=
  (doctype.hasExternal || doctype.hasParameterReference) && !doctype.standalone

/-- What is declared of an entity: its text, if it is kept here. -/
def entity? (doctype : Doctype) (name : List Char) : Option (Option (List Char)) :=
  (doctype.entities.find? fun (declared, _) => declared = name).map (·.2)

/-- The rules for the attributes of an element, in order of declaration. -/
def rulesOf (doctype : Doctype) (element : List Char) : List AttributeRule :=
  (doctype.attributes.filter fun (declared, _) => declared = element).map (·.2)

/-! ### Values of attributes -/

/-- The text of pieces, for given texts of entities. White space turns into spaces, and a line end of
two characters into one; a character that is referred to stays as it is. -/
def expandPieces? (textOf? : List Char → Option (List Char)) : List Piece → Option (List Char)
  | [] => some []
  | .plain '\r' :: .plain '\n' :: rest => (expandPieces? textOf? rest).map (' ' :: ·)
  | .plain character :: rest =>
    let normal := if isSpace character then ' ' else character
    (expandPieces? textOf? rest).map (normal :: ·)
  | .referred (.number value) :: rest => do
    return (← Reference.characterOf? value) :: (← expandPieces? textOf? rest)
  | .referred (.name name) :: rest => match Reference.predefined? name with
    | some character => (expandPieces? textOf? rest).map (character :: ·)
    | none => do return (← textOf? name) ++ (← expandPieces? textOf? rest)

/-- The text of an entity in a value, if no more than a number of entities lie within each other. -/
def entityText? (doctype : Doctype) : Nat → List Char → Option (List Char)
  | 0, _ => none
  | depth + 1, name => match doctype.entity? name with
    | some (some text) => (Piece.ofText? text).bind (expandPieces? (entityText? doctype depth))
    | some none => none
    | none => if doctype.allowsUndeclared then some [] else none

/-- The entities that can lie within each other: each at most once, and one that is undeclared. -/
def nesting (doctype : Doctype) : Nat := doctype.entities.length + 1

/-- The text without spaces at its ends, and with one where several stand. -/
def collapseFrom (begun waiting : Bool) : List Char → List Char
  | [] => []
  | character :: rest =>
    if character = ' ' then collapseFrom begun begun rest
    else (if waiting then [' '] else []) ++ character :: collapseFrom true false rest

/-- The value that pieces make up. -/
def value? (doctype : Doctype) (tokenized : Bool) (pieces : List Piece) : Option (List Char) :=
  let text? := expandPieces? (doctype.entityText? doctype.nesting) pieces
  if tokenized then text?.map (collapseFrom false false) else text?

/-! ### Declarations -/

/-- The text with a line feed for every line end. -/
def normalLines : List Char → List Char
  | [] => []
  | '\r' :: '\n' :: rest => '\n' :: normalLines rest
  | character :: rest => (if character = '\r' then '\n' else character) :: normalLines rest

/-- What is kept of the text of an entity: references to characters are replaced, at most a number. -/
def keptUpTo? : Nat → List Char → Option (List Char)
  | _, [] => some []
  | 0, _ :: _ => none
  | limit + 1, character :: rest =>
    if character = '%' then none
    else if character = '&' then match Reference.scan rest with
      | .found (.number value) rest => do
        return (← Reference.characterOf? value) :: (← keptUpTo? limit rest)
      | .found (.name name) rest =>
        (keptUpTo? limit rest).map fun kept => '&' :: name ++ ';' :: kept
      | _ => none
    else (keptUpTo? limit rest).map (character :: ·)

/-- What is kept of the text of an entity as it is written. -/
def kept? (text : List Char) : Option (List Char) := keptUpTo? text.length (normalLines text)

/-- The doctype with one more entity. -/
def addEntity (doctype : Doctype) (name : List Char) (text? : Option (List Char)) : Doctype :=
  if (Reference.predefined? name).isSome then doctype
  else { doctype with entities := doctype.entities ++ [(name, text?)] }

/-- The doctype with one more rule for the attributes of an element; its default is a value. -/
def addRule? (doctype : Doctype) (element : List Char) (rule : AttributeRule) : Option Doctype := do
  let default? ← match rule.default? with
    | none => some none
    | some text =>
      (Piece.ofText? text).bind fun pieces => (doctype.value? rule.tokenized pieces).map some
  if (doctype.rulesOf element).any fun known => known.name = rule.name then return doctype
  else
    let entry := (element, { rule with default? })
    return { doctype with attributes := doctype.attributes ++ [entry] }

/-- The doctype after a declaration; a text that nothing can be made of is malformed. -/
def declare? (doctype : Doctype) : Declaration → Option Doctype
  | .other | .parameterEntity none => some doctype
  | .parameterEntity (some text) =>
    if doctype.readsOn then (kept? text).map fun _ => doctype else some doctype
  | .entity name none => some (if doctype.readsOn then doctype.addEntity name none else doctype)
  | .entity name (some text) =>
    if doctype.readsOn then (kept? text).map fun kept => doctype.addEntity name (some kept)
    else some doctype
  | .attributes element rules =>
    if doctype.readsOn then rules.foldlM (fun doctype rule => doctype.addRule? element rule) doctype
    else some doctype

end Doctype

end ApiDoc.Xml
