/-
This file reads declarations from their tokens. Only declarations of entities and of attributes say
anything that a reader needs later; of the others just the form is checked.
-/
import ApiDoc.Xml.Doctype.Token

namespace ApiDoc.Xml.Doctype

/-- What is declared of an attribute: whether spaces in its value only separate, and the value that it
has where none is given. -/
structure AttributeRule where
  name : List Char
  tokenized : Bool
  default? : Option (List Char)
  deriving DecidableEq, Repr

/-- What a declaration says. The text of an entity is missing if it is kept elsewhere. -/
inductive Declaration where
  | entity (name : List Char) (text? : Option (List Char))
  | parameterEntity (text? : Option (List Char))
  | attributes (element : List Char) (rules : List AttributeRule)
  | other
  deriving DecidableEq, Repr

namespace Declaration

/-- The signs that may stand in a public identifier, besides letters and digits. -/
def publicSigns : List Char := " \n\r-_\x27()+,./:=?;!*#@$%".toList

/-- The text can be a public identifier. -/
def isPublic (text : List Char) : Bool :=
  text.all fun character => character.isAlphanum || publicSigns.contains character

/-- What follows the identifier of something that is kept elsewhere. -/
def afterExternal? : List Token → Option (List Token)
  | .name word :: .literal first :: rest =>
    if word = "SYSTEM".toList then some rest
    else if word = "PUBLIC".toList ∧ isPublic first then match rest with
      | .literal _ :: rest => some rest
      | _ => none
    else none
  | _ => none

/-! ### Entities and notations -/

/-- The declaration of an entity for declarations. -/
def ofParameterEntity? : List Token → Option Declaration
  | [.literal text, .stop] => some (.parameterEntity (some text))
  | tokens => match afterExternal? tokens with
    | some [.stop] => some (.parameterEntity none)
    | _ => none

/-- The declaration of an entity for documents. -/
def ofGeneralEntity? (name : List Char) : List Token → Option Declaration
  | [.literal text, .stop] => some (.entity name (some text))
  | tokens => match afterExternal? tokens with
    | some [.stop] => some (.entity name none)
    | some [.name word, .name _, .stop] =>
      if word = "NDATA".toList then some (.entity name none) else none
    | _ => none

/-- The declaration of an entity. -/
def ofEntity? : List Token → Option Declaration
  | .percent :: .name _ :: rest => ofParameterEntity? rest
  | .name name :: rest => ofGeneralEntity? name rest
  | _ => none

/-- The declaration of a notation, whose public identifier may stand alone. -/
def ofNotation? : List Token → Option Declaration
  | [.name _, .name word, .literal text, .stop] =>
    if word = "SYSTEM".toList ∨ (word = "PUBLIC".toList ∧ isPublic text) then some .other else none
  | .name _ :: rest => if afterExternal? rest = some [.stop] then some .other else none
  | _ => none

/-! ### Attributes -/

/-- The types whose values are separated by spaces. -/
def tokenTypes : List String :=
  ["ID", "IDREF", "IDREFS", "ENTITY", "ENTITIES", "NMTOKEN", "NMTOKENS"]

/-- What follows the choices of a group, each of which is accepted. -/
def afterChoices? (accepts : Token → Bool) : List Token → Option (List Token)
  | choice :: .bar :: rest => if accepts choice then afterChoices? accepts rest else none
  | choice :: .closing :: rest => if accepts choice then some rest else none
  | _ => none

/-- The token is a name. -/
def isName : Token → Bool
  | .name _ => true
  | _ => false

/-- The token is a name, with a namespace or without. -/
def isQualifiedName : Token → Bool
  | .name _ | .prefixedName _ => true
  | _ => false

/-- The token can be one of the values of an attribute. -/
def isValue : Token → Bool
  | .name _ | .prefixedName _ | .nameToken => true
  | _ => false

/-- Whether spaces in the value of an attribute only separate, as its type says. -/
def attributeType? : List Token → Option (Bool × List Token)
  | .opening :: rest => (afterChoices? isValue rest).map (true, ·)
  | .name word :: rest =>
    if word = "CDATA".toList then some (false, rest)
    else if tokenTypes.contains (String.ofList word) then some (true, rest)
    else if word = "NOTATION".toList then match rest with
      | .opening :: rest => (afterChoices? isName rest).map (true, ·)
      | _ => none
    else none
  | _ => none

/-- The value that an attribute has where none is given. -/
def attributeDefault? : List Token → Option (Option (List Char) × List Token)
  | .literal text :: rest => some (some text, rest)
  | .keyword word :: rest =>
    if word = "IMPLIED".toList ∨ word = "REQUIRED".toList then some (none, rest)
    else if word = "FIXED".toList then match rest with
      | .literal text :: rest => some (some text, rest)
      | _ => none
    else none
  | _ => none

/-- At most a number of rules for attributes. -/
def rulesUpTo? : Nat → List Token → Option (List AttributeRule)
  | _, [.stop] => some []
  | limit + 1, .name name :: rest | limit + 1, .prefixedName name :: rest => do
    let (tokenized, rest) ← attributeType? rest
    let (default?, rest) ← attributeDefault? rest
    return { name, tokenized, default? } :: (← rulesUpTo? limit rest)
  | _, _ => none

/-- The declaration of the attributes of an element. -/
def ofAttributes? : List Token → Option Declaration
  | .name element :: rest | .prefixedName element :: rest =>
    (rulesUpTo? rest.length rest).map (.attributes element)
  | _ => none

/-! ### Elements -/

/-- The rest of a model with text: further names, each after a bar. -/
def isMixed : List Token → Bool
  | [.closingMany, .stop] => true
  | .bar :: item :: rest => isQualifiedName item && isMixed rest
  | _ => false

/-- The token can be an item of a model. -/
def isItem (token : Token) : Bool := isQualifiedName token || token = .countedName

/-- The token ends a group of a model. -/
def isClosing (token : Token) : Bool := [.closing, .closingMany, .closingCounted].contains token

/-- The rest of a model inside groups, of each of which the connector is known once it has one; all
connectors of a group are the same. -/
def isModel : Bool → List (Option Token) → List Token → Bool
  | _, [], tokens => tokens = [.stop]
  | true, groups, token :: rest =>
    if token = .opening then isModel true (none :: groups) rest
    else isItem token && isModel false groups rest
  | false, connector :: groups, token :: rest =>
    if isClosing token then isModel false groups rest
    else if token = .comma ∨ token = .bar then
      (connector = none || connector = some token) && isModel true (some token :: groups) rest
    else false
  | _, _, [] => false

/-- What an element may hold. -/
def isContent : List Token → Bool
  | [.name word, .stop] => ["EMPTY", "ANY"].contains (String.ofList word)
  | .opening :: .keyword word :: rest =>
    word = "PCDATA".toList && (rest = [.closing, .stop] || isMixed rest)
  | .opening :: rest => isModel true [none] rest
  | _ => false

/-- The declaration of an element. -/
def ofElement? : List Token → Option Declaration
  | name :: rest => if isQualifiedName name && isContent rest then some .other else none
  | [] => none

/-! ### Declarations -/

/-- The declaration that the tokens after its keyword make up. -/
def ofTokens? (keyword : List Char) (tokens : List Token) : Option Declaration :=
  if keyword = "ENTITY".toList then ofEntity? tokens
  else if keyword = "ATTLIST".toList then ofAttributes? tokens
  else if keyword = "ELEMENT".toList then ofElement? tokens
  else if keyword = "NOTATION".toList then ofNotation? tokens
  else none

/-- The characters of the keyword of a declaration. -/
def isKeywordCharacter (character : Char) : Bool := character.isAlpha || character = '_'

/-- Takes the keyword of a declaration, after which white space stands. -/
def scanKeyword : Scanner (List Char) := do
  let keyword ← Scanner.takeWhile isKeywordCharacter
  if isSpace (← Scanner.peek) then return keyword else Scanner.reject

/-- Takes a declaration whose opening is taken already. -/
def scan : Scanner Declaration := do
  let keyword ← scanKeyword
  let tokens ← Token.scanThrough (· = .stop)
  Scanner.accept? (ofTokens? keyword tokens)

/-- What is left of a declaration that is not complete behind its tokens that are. -/
def behindTokens : List Char → List Char
  | '<' :: '!' :: rest => match scanKeyword rest with
    | .found _ tokens => Token.behindUpTo tokens.length tokens
    | _ => '<' :: '!' :: rest
  | text => text

end Declaration

/-- How the declaration of the document's type ends: whether it refers to declarations that are kept
elsewhere, and whether declarations follow. -/
structure Header where
  hasExternal : Bool
  hasSubset : Bool
  deriving DecidableEq, Repr

namespace Header

/-- The end of a header. -/
def ofEnd? (hasExternal : Bool) : List Token → Option Header
  | [.stop] => some { hasExternal, hasSubset := false }
  | [.bracket] => some { hasExternal, hasSubset := true }
  | _ => none

/-- The header that tokens make up. -/
def ofTokens? : List Token → Option Header
  | name :: rest =>
    if Declaration.isQualifiedName name then match Declaration.afterExternal? rest with
      | some rest => ofEnd? true rest
      | none => ofEnd? false rest
    else none
  | [] => none

/-- Takes a header whose opening is taken already. -/
def scan : Scanner Header := do
  let keyword ← Declaration.scanKeyword
  let tokens ← Token.scanThrough fun token => token = .stop || token = .bracket
  if keyword = "DOCTYPE".toList then Scanner.accept? (ofTokens? tokens) else Scanner.reject

end Header

end ApiDoc.Xml.Doctype
