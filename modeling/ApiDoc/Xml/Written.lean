/-
This file defines how element trees are written out as documents: what stands for a tree, what its
writer is free to choose, and which rules of XML 1.0 and of namespaces hold of it. A document here
has no declaration of its type, so no entities but the predefined ones are referred to.
-/
import ApiDoc.Xml.Preamble
import ApiDoc.Xml.Tree
import Mathlib.Tactic.MkIffOfInductiveProp

namespace ApiDoc.Xml.Written

/-! ### Names -/

/-- The text is a name in which no colon stands. -/
def isName : List Char → Bool
  | [] => false
  | first :: rest => isNameStart first && rest.all isNameCharacter

/-- A name of an element or of an attribute; the part before the colon tells its namespace. -/
structure Label where
  qualifier? : Option (List Char)
  localName : List Char
  deriving DecidableEq, Repr

namespace Label

/-- The name as it is written. -/
def text (label : Label) : List Char :=
  match label.qualifier? with
  | none => label.localName
  | some qualifier => qualifier ++ ':' :: label.localName

/-- The parts of the name are names. -/
def isProper (label : Label) : Bool := label.qualifier?.all isName && isName label.localName

/-- The namespace of the name is bound. -/
def isBound (label : Label) (scope : Namespaces) : Bool :=
  label.qualifier?.all fun qualifier => (scope.find? qualifier).isSome

/-- The name that is meant where some namespaces are bound; the default is that of a single name. -/
def expand (label : Label) (scope : Namespaces) (default : List Char) : ExpandedName :=
  match label.qualifier? with
  | none => { uri := default, localName := label.localName }
  | some qualifier => { uri := (scope.find? qualifier).getD [], localName := label.localName }

end Label

/-! ### Characters -/

/-- A character as it is written: itself, by its number in base ten or sixteen, or by its name. -/
inductive Sign where
  | plain (character : Char)
  | decimal (digits : List Char)
  | hexadecimal (digits : List Char)
  | named (name : List Char)
  deriving DecidableEq, Repr

namespace Sign

/-- The sign as it is written. -/
def text : Sign → List Char
  | .plain character => [character]
  | .decimal digits => "&#".toList ++ digits ++ [';']
  | .hexadecimal digits => "&#x".toList ++ digits ++ [';']
  | .named name => '&' :: name ++ [';']

/-- The digits of a number. -/
def areDigits (base : Nat) (digits : List Char) : Bool :=
  !digits.isEmpty && digits.all fun digit => (Reference.digit? base digit).isSome

/-- The character that is meant, if there is one. -/
def character? : Sign → Option Char
  | .plain character => some character
  | .decimal digits => Reference.characterOf? (Reference.valueOf 10 digits)
  | .hexadecimal digits => Reference.characterOf? (Reference.valueOf 16 digits)
  | .named name => Reference.predefined? name

/-- The sign stands for a character, and where it is the character itself, no markup begins with it.
-/
def isProper (sign : Sign) : Bool :=
  sign.character?.isSome && match sign with
    | .plain character => character ≠ '<' && character ≠ '&'
    | .decimal digits => areDigits 10 digits
    | .hexadecimal digits => areDigits 16 digits
    | .named _ => true

/-- The value that signs make up in an attribute, where white space turns into spaces and a line end
of two characters into one. -/
def value : List Sign → List Char
  | [] => []
  | .plain '\r' :: .plain '\n' :: rest => ' ' :: value rest
  | .plain character :: rest => (if isSpace character then ' ' else character) :: value rest
  | sign :: rest => sign.character?.toList ++ value rest

end Sign

/-! ### Tags -/

/-- The text is white space. -/
def areSpaces (text : List Char) : Bool := text.all isSpace

/-- The character can enclose a value. -/
def isMark (character : Char) : Bool := character = '"' || character = '\x27'

/-- An attribute with the white space before it and around its sign of equality. -/
structure Attribution where
  gap : List Char
  label : Label
  before : List Char
  behind : List Char
  mark : Char
  signs : List Sign
  deriving DecidableEq, Repr

namespace Attribution

/-- The attribute as it is written. -/
def text (attribution : Attribution) : List Char :=
  attribution.gap ++ attribution.label.text ++ attribution.before ++ '=' :: attribution.behind ++
    attribution.mark :: attribution.signs.flatMap Sign.text ++ [attribution.mark]

/-- The value of the attribute. -/
def value (attribution : Attribution) : List Char := Sign.value attribution.signs

/-- The attribute is written as it should be. -/
def isProper (attribution : Attribution) : Bool :=
  !attribution.gap.isEmpty && areSpaces attribution.gap && attribution.label.isProper &&
    areSpaces attribution.before && areSpaces attribution.behind && isMark attribution.mark &&
    attribution.signs.all fun sign => sign.isProper && sign ≠ .plain attribution.mark

/-- What the attribute binds a namespace to, if it is a declaration: nothing for the default. -/
def binds? (attribution : Attribution) : Option (List Char) :=
  match attribution.label.qualifier? with
  | none => if attribution.label.localName = "xmlns".toList then some [] else none
  | some qualifier =>
    if qualifier = "xmlns".toList then some attribution.label.localName else none

end Attribution

/-- What may be bound to a namespace. Only the default can be bound to none, and what is reserved is
bound to itself alone. -/
def mayBind (bound uri : List Char) : Bool :=
  (bound.isEmpty || !uri.isEmpty) && bound ≠ "xmlns".toList && uri ≠ Namespaces.xmlnsNamespace &&
    !uri.contains '\x7d' && (bound = "xml".toList) = (uri = Namespaces.xmlNamespace)

/-- A start tag up to its end. -/
structure StartTag where
  label : Label
  attributions : List Attribution
  spaces : List Char
  deriving DecidableEq, Repr

namespace StartTag

/-- The tag as it is written. -/
def text (tag : StartTag) : List Char :=
  '<' :: tag.label.text ++ tag.attributions.flatMap Attribution.text ++ tag.spaces

/-- The namespaces that are bound within the element. -/
def scope (tag : StartTag) (outer : Namespaces) : Namespaces :=
  tag.attributions.foldl (fun scope attribution => match attribution.binds? with
    | some bound => (bound, attribution.value) :: scope
    | none => scope) outer

/-- The name of the element. -/
def name (tag : StartTag) (outer : Namespaces) : ExpandedName :=
  tag.label.expand (tag.scope outer) (((tag.scope outer).find? []).getD [])

/-- The attributes that are no declarations. -/
def proper (tag : StartTag) : List Attribution :=
  tag.attributions.filter fun attribution => attribution.binds?.isNone

/-- The attributes of the element. -/
def attributes (tag : StartTag) (outer : Namespaces) : List (ExpandedName × List Char) :=
  tag.proper.map fun attribution =>
    (attribution.label.expand (tag.scope outer) [], attribution.value)

/-- The rules for a start tag. -/
@[mk_iff]
structure WellFormed (tag : StartTag) (outer : Namespaces) : Prop where
  label : tag.label.isProper = true
  attributions : ∀ attribution ∈ tag.attributions, attribution.isProper = true
  spaces : areSpaces tag.spaces = true
  bindings : ∀ attribution ∈ tag.attributions, ∀ bound ∈ attribution.binds?,
    mayBind bound attribution.value = true
  labelBound : tag.label.isBound (tag.scope outer) = true
  properBound : ∀ attribution ∈ tag.proper, attribution.label.isBound (tag.scope outer) = true
  labelsDistinct : (tag.attributions.map fun attribution => attribution.label.text).Nodup
  namesDistinct : ((tag.attributes outer).map (·.1)).Nodup

instance (tag : StartTag) (outer : Namespaces) : Decidable (tag.WellFormed outer) :=
  decidable_of_iff' _ (wellFormed_iff tag outer)

end StartTag

/-! ### Content -/

/-- What stands in a document beside tags. -/
inductive Silent where
  | sign (written : Sign)
  | data (characters : List Char)
  | comment (characters : List Char)
  | instruction (target rest : List Char)
  deriving DecidableEq, Repr

namespace Silent

/-- Characters between what opens and what closes them. -/
def between (opening closing : String) (characters : List Char) : List Char :=
  opening.toList ++ characters ++ closing.toList

/-- The item as it is written. -/
def text : Silent → List Char
  | .sign written => written.text
  | .data characters => between "<![CDATA[" "]]>" characters
  | .comment characters => between "<!--" "-->" characters
  | .instruction target rest => between "<?" "?>" (target ++ rest)

/-- The item is written as it should be: what ends it does not occur within. -/
def WellFormed : Silent → Prop
  | .sign written => written.isProper = true
  | .data characters => ¬"]]>".toList <:+: characters
  | .comment characters => ¬"--".toList <:+: characters ++ ['-']
  | .instruction target rest =>
    isName target = true ∧ target.map Char.toLower ≠ "xml".toList ∧
      rest.head?.all isSpace = true ∧ ¬"?>".toList <:+: rest

instance (item : Silent) : Decidable item.WellFormed :=
  match item with
  | .sign written => inferInstanceAs (Decidable (written.isProper = true))
  | .data characters => inferInstanceAs (Decidable (¬"]]>".toList <:+: characters))
  | .comment characters => inferInstanceAs (Decidable (¬"--".toList <:+: characters ++ ['-']))
  | .instruction target rest =>
    inferInstanceAs (Decidable (isName target = true ∧ target.map Char.toLower ≠ "xml".toList ∧
      rest.head?.all isSpace = true ∧ ¬"?>".toList <:+: rest))

/-- The item may stand outside of the root element. -/
def isMarginal : Silent → Bool
  | .sign (.plain character) => isSpace character
  | .sign _ | .data _ => false
  | .comment _ | .instruction _ _ => true

end Silent

/-- What stands between the tags of an element: items beside tags, elements that end with their
start tag, and elements with content of their own and an end tag, before whose end white space may
stand. -/
inductive Content where
  | nothing
  | silent (item : Silent) (rest : Content)
  | empty (tag : StartTag) (rest : Content)
  | nested (tag : StartTag) (inner : Content) (spaces : List Char) (rest : Content)
  deriving Repr

namespace Content

/-- The content as it is written. -/
def text : Content → List Char
  | .nothing => []
  | .silent item rest => item.text ++ rest.text
  | .empty tag rest => tag.text ++ "/>".toList ++ rest.text
  | .nested tag inner spaces rest =>
    tag.text ++ '>' :: inner.text ++ "</".toList ++ tag.label.text ++ spaces ++ '>' :: rest.text

/-- The elements of the content, where some namespaces are bound. -/
def trees (outer : Namespaces) : Content → List Tree
  | .nothing => []
  | .silent _ rest => rest.trees outer
  | .empty tag rest => .node (tag.name outer) (tag.attributes outer) [] :: rest.trees outer
  | .nested tag inner _ rest =>
    .node (tag.name outer) (tag.attributes outer) (inner.trees (tag.scope outer)) ::
      rest.trees outer

/-- The rules for content. What ends a section of character data does not occur in text either. -/
def WellFormed (outer : Namespaces) : Content → Prop
  | .nothing => True
  | .silent item rest =>
    item.WellFormed ∧ ¬"]]>".toList <+: item.text ++ rest.text ∧ rest.WellFormed outer
  | .empty tag rest => tag.WellFormed outer ∧ rest.WellFormed outer
  | .nested tag inner spaces rest =>
    tag.WellFormed outer ∧ inner.WellFormed (tag.scope outer) ∧ areSpaces spaces = true ∧
      rest.WellFormed outer

/-- Whether the rules hold is decided item by item. -/
def decideWellFormed (outer : Namespaces) :
    (content : Content) → Decidable (content.WellFormed outer)
  | .nothing => inferInstanceAs (Decidable True)
  | .silent item rest =>
    have := rest.decideWellFormed outer
    inferInstanceAs (Decidable (item.WellFormed ∧ ¬"]]>".toList <+: item.text ++ rest.text ∧
      rest.WellFormed outer))
  | .empty tag rest =>
    have := rest.decideWellFormed outer
    inferInstanceAs (Decidable (tag.WellFormed outer ∧ rest.WellFormed outer))
  | .nested tag inner spaces rest =>
    have := inner.decideWellFormed (tag.scope outer)
    have := rest.decideWellFormed outer
    inferInstanceAs (Decidable (tag.WellFormed outer ∧ inner.WellFormed (tag.scope outer) ∧
      areSpaces spaces = true ∧ rest.WellFormed outer))

instance (content : Content) (outer : Namespaces) : Decidable (content.WellFormed outer) :=
  content.decideWellFormed outer

end Content

/-! ### Documents -/

/-- An item of the declaration of a document, with the white space before it and around its sign of
equality. -/
structure Item where
  gap : List Char
  before : List Char
  behind : List Char
  mark : Char
  value : List Char
  deriving DecidableEq, Repr

namespace Item

/-- The item as it is written under a name. -/
def text (name : String) (item : Item) : List Char :=
  item.gap ++ name.toList ++ item.before ++ '=' :: item.behind ++ item.mark :: item.value ++
    [item.mark]

/-- The item is written as it should be. -/
def isProper (item : Item) : Bool :=
  !item.gap.isEmpty && areSpaces item.gap && areSpaces item.before && areSpaces item.behind &&
    isMark item.mark && item.value.all Preamble.isValueCharacter

end Item

/-- The declaration of a document. -/
structure Declaration where
  version : Item
  encoding? : Option Item
  standalone? : Option Item
  spaces : List Char
  deriving DecidableEq, Repr

namespace Declaration

/-- The items and the white space of a declaration. -/
def inside (declaration : Declaration) : List Char :=
  declaration.version.text "version" ++ (declaration.encoding?.elim [] (Item.text "encoding")) ++
    (declaration.standalone?.elim [] (Item.text "standalone")) ++ declaration.spaces

/-- The declaration as it is written. -/
def text (declaration : Declaration) : List Char :=
  Preamble.opening ++ declaration.inside ++ "?>".toList

/-- The rules for the declaration of a document in UTF-8. -/
@[mk_iff]
structure WellFormed (declaration : Declaration) : Prop where
  version : declaration.version.isProper = true
  encoding : ∀ item ∈ declaration.encoding?,
    item.isProper = true ∧ item.value.map Char.toUpper = "UTF-8".toList
  standalone : ∀ item ∈ declaration.standalone?,
    item.isProper = true ∧ (item.value = "yes".toList ∨ item.value = "no".toList)
  spaces : areSpaces declaration.spaces = true

instance (declaration : Declaration) : Decidable declaration.WellFormed :=
  decidable_of_iff' _ (wellFormed_iff declaration)

end Declaration

/-- A document: its declaration, what stands around the root element, and this, which has content if
it does not end with its start tag. -/
structure Document where
  declaration? : Option Declaration
  before : List Silent
  root : StartTag
  content? : Option (Content × List Char)
  behind : List Silent
  deriving Repr

namespace Document

/-- The root element. -/
def element (document : Document) : Content :=
  match document.content? with
  | none => .empty document.root .nothing
  | some (inner, spaces) => .nested document.root inner spaces .nothing

/-- The document behind its declaration. -/
def body (document : Document) : List Char :=
  document.before.flatMap Silent.text ++ document.element.text ++
    document.behind.flatMap Silent.text

/-- The document as it is written. -/
def text (document : Document) : List Char :=
  document.declaration?.elim [] Declaration.text ++ document.body

/-- The tree that the document stands for. -/
def tree (document : Document) : Tree :=
  .node (document.root.name .initial) (document.root.attributes .initial)
    (document.content?.elim [] fun (inner, _) => inner.trees (document.root.scope .initial))

/-- The bytes of the document in UTF-8, after the mark of that encoding or without it. -/
def bytes (document : Document) (marked : Bool) : Bytes :=
  (if marked then [0xEF, 0xBB, 0xBF] else []) ++ Utf8.encode (document.text.map .char)

/-- The rules for a document. -/
@[mk_iff]
structure WellFormed (document : Document) : Prop where
  allowed : document.text.all isAllowed = true
  declaration : ∀ declaration ∈ document.declaration?, declaration.WellFormed
  before : ∀ item ∈ document.before, item.isMarginal = true ∧ item.WellFormed
  element : document.element.WellFormed .initial
  behind : ∀ item ∈ document.behind, item.isMarginal = true ∧ item.WellFormed

instance (document : Document) : Decidable document.WellFormed :=
  decidable_of_iff' _ (wellFormed_iff document)

end Document

end ApiDoc.Xml.Written
