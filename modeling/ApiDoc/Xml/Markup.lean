/-
This file scans a document into markup, place by place: what a character means depends on where in
the document it stands. Text, comments and instructions are passed over in small steps, because
nothing that is read from a document lies in them.
-/
import ApiDoc.Xml.Namespace

namespace ApiDoc.Xml

/-- Where in a document a reader stands. -/
inductive Place where
  | prolog (hasDoctype : Bool)
  | subset
  | afterSubset
  | content
  | characterData
  | epilog
  deriving DecidableEq, Repr

/-- A piece of markup. -/
inductive Markup where
  | passed
  | header (header : Doctype.Header)
  | declaration (declaration : Doctype.Declaration)
  | parameterReference
  | subsetEnd
  | headerEnd
  | startTag (tag : WrittenTag)
  | endTag (name : List Char)
  | reference (reference : Reference)
  | dataStart
  | dataEnd
  deriving DecidableEq, Repr

namespace Markup

/-! ### Comments and instructions -/

/-- Takes the rest of a comment, in which two hyphens end it. -/
def passComment : Scanner Markup
  | '-' :: '-' :: '>' :: rest => .found .passed rest
  | '-' :: '-' :: _ :: _ => .malformed
  | [] | ['-'] | ['-', '-'] => .unfinished
  | _ :: rest => passComment rest

/-- Takes the rest of an instruction. -/
def passInstruction : Scanner Markup
  | '?' :: '>' :: rest => .found .passed rest
  | [] | ['?'] => .unfinished
  | _ :: rest => passInstruction rest

/-- Takes a comment whose first hyphen comes next. -/
def comment : Scanner Markup := do
  Scanner.expectAll "--".toList
  passComment

/-- Takes what follows the target of an instruction. -/
def instructionRest : Scanner Markup := do
  if isSpace (← Scanner.peek) then passInstruction
  else
    Scanner.expectAll "?>".toList
    return .passed

/-- Takes an instruction whose opening is taken. None is called xml but the declaration of a document,
which cannot stand here. -/
def instruction : Scanner Markup := do
  let target ← Scanner.name
  let _ ← Scanner.peek
  if target = "xml".toList then
    let _ ← instructionRest
    Scanner.reject
  else if target.map Char.toLower = "xml".toList then Scanner.reject
  else instructionRest

/-! ### Tags -/

/-- Takes an attribute. -/
def writtenAttribute : Scanner WrittenAttribute := do
  let name ← Scanner.qualifiedName
  Scanner.skipSpaces
  Scanner.expect '='
  Scanner.skipSpaces
  let mark ← Scanner.next
  if mark = '"' || mark = '\x27' then return { name, value := ← Piece.scanValue mark }
  else Scanner.reject

/-- Takes an attribute after white space, or the end of the tag, of which a slash tells that the
element is empty. -/
def attributeOrEnd : Scanner (Round WrittenAttribute Bool) := do
  let spaces ← Scanner.takeWhile isSpace
  let character ← Scanner.peek
  if character = '>' then
    Scanner.expect '>'
    return .last false
  else if character = '/' then
    Scanner.expectAll "/>".toList
    return .last true
  else if spaces.isEmpty then Scanner.reject
  else return .item (← writtenAttribute)

/-- Takes a start tag whose opening is taken. -/
def startTagRest : Scanner Markup := do
  let name ← Scanner.qualifiedName
  let (attributes, isEmpty) ← Scanner.rounds attributeOrEnd
  return .startTag { name, attributes, isEmpty }

/-- Takes an end tag whose opening is taken. -/
def endTagRest : Scanner Markup := do
  let first ← Scanner.next
  if isNameStart first then
    let rest ← Scanner.takeWhile fun character => isNameCharacter character || character = ':'
    Scanner.skipSpaces
    Scanner.expect '>'
    return .endTag (first :: rest)
  else Scanner.reject

/-! ### Places -/

/-- Takes a character of text; the end of a section of character data cannot stand there. -/
def text : Scanner Markup
  | ']' :: ']' :: '>' :: _ => .malformed
  | [] | [']'] | [']', ']'] => .unfinished
  | _ :: rest => .found .passed rest

/-- Takes a character of character data, or their end. -/
def characterData : Scanner Markup
  | ']' :: ']' :: '>' :: rest => .found .dataEnd rest
  | [] | [']'] | [']', ']'] => .unfinished
  | _ :: rest => .found .passed rest

/-- Takes what starts with an exclamation mark in content. -/
def declarationInContent : Scanner Markup := do
  if (← Scanner.peek) = '-' then comment
  else
    Scanner.expect '['
    Scanner.expectTogether "CDATA[".toList
    return .dataStart

/-- Takes the markup whose opening is taken, where an exclamation mark starts a declaration. -/
def afterOpening (declaration : Scanner Markup) : Scanner Markup := do
  match ← Scanner.peek with
  | '!' =>
    Scanner.expect '!'
    declaration
  | '?' =>
    Scanner.expect '?'
    instruction
  | _ => startTagRest

/-- Takes markup in content. -/
def content : Scanner Markup := do
  match ← Scanner.peek with
  | '<' =>
    Scanner.expect '<'
    if (← Scanner.peek) = '/' then
      Scanner.expect '/'
      endTagRest
    else afterOpening declarationInContent
  | '&' =>
    Scanner.expect '&'
    return .reference (← Reference.scan)
  | _ => text

/-- Takes a comment, or else a declaration if one is allowed. -/
def commentOr (declaration : Scanner Markup) : Scanner Markup := do
  if (← Scanner.peek) = '-' then comment else declaration

/-- Takes white space around the root element, or markup, or else something stray. -/
def aroundRoot (markup stray : Scanner Markup) : Scanner Markup := do
  let character ← Scanner.peek
  if isSpace character then
    Scanner.expect character
    return .passed
  else if character = '<' then
    Scanner.expect '<'
    markup
  else stray

/-- Takes a token of a declaration where none is allowed. -/
def strayToken : Scanner Markup := do
  let _ ← Doctype.Token.scan
  Scanner.reject

/-- Takes a token where a word need not even be complete to be wrong. -/
def strayUnlessWord : Scanner Markup := do
  if Doctype.Token.isWordCharacter (← Scanner.peek) then Scanner.reject else strayToken

/-- Takes the header of the declaration of the document's type. -/
def headerRest : Scanner Markup := do return .header (← Doctype.Header.scan)

/-- Takes markup before the root element. The declaration of the type is there at most once. -/
def prolog (hasDoctype : Bool) : Scanner Markup :=
  let declaration := commentOr (if hasDoctype then Scanner.reject else headerRest)
  aroundRoot (afterOpening declaration) strayToken

/-- Takes a comment or an instruction whose opening is taken. -/
def commentOrInstruction : Scanner Markup := do
  match ← Scanner.next with
  | '!' => comment
  | '?' => instruction
  | _ => Scanner.reject

/-- Takes markup after the root element. -/
def epilog : Scanner Markup := aroundRoot commentOrInstruction strayUnlessWord

/-- Takes a declaration in the subset, whose opening is taken. -/
def declarationRest : Scanner Markup := do
  return .declaration (← Doctype.Declaration.scan)

/-- Takes what stands between declarations. -/
def subset : Scanner Markup := do
  let character ← Scanner.next
  if isSpace character then return .passed
  else match character with
    | '%' =>
      let _ ← Scanner.name
      Scanner.expect ';'
      return .parameterReference
    | ']' => return .subsetEnd
    | '<' => match ← Scanner.next with
      | '!' => commentOr declarationRest
      | '?' => instruction
      | _ => Scanner.reject
    | _ => Scanner.reject

/-- Takes what stands between the declarations and the end of their header. -/
def afterSubset : Scanner Markup := do
  let character ← Scanner.next
  if isSpace character then return .passed
  else if character = '>' then return .headerEnd
  else Scanner.reject

/-- Takes the markup that may stand at a place. -/
def scan : Place → Scanner Markup
  | .prolog hasDoctype => prolog hasDoctype
  | .subset => subset
  | .afterSubset => afterSubset
  | .content => content
  | .characterData => characterData
  | .epilog => epilog

end Markup

end ApiDoc.Xml
