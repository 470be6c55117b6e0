/-
This file defines the tokens of which the declarations in a document's prolog consist, and scans
them. White space may stand between tokens; after some of them only certain characters may follow.
-/
import ApiDoc.Xml.Scan

namespace ApiDoc.Xml.Doctype

/-- A token of a declaration. A counted name has a sign after it that says how often; a name token
may begin with any character of names. -/
inductive Token where
  | name (text : List Char)
  | prefixedName (text : List Char)
  | nameToken
  | countedName
  | keyword (text : List Char)
  | literal (text : List Char)
  | percent
  | comma
  | bar
  | opening
  | closing
  | closingMany
  | closingCounted
  | bracket
  | stop
  deriving DecidableEq, Repr

namespace Token

/-- A word is made of the characters of names and of colons. -/
def isWordCharacter (character : Char) : Bool := isNameCharacter character || character = ':'

/-- The kind of a word: a name, a name with a namespace, or just a name token. -/
def ofWord (word : List Char) : Token :=
  match word with
  | [] => .nameToken
  | first :: _ =>
    if isNameStart first then match word.dropWhile (· ≠ ':') with
      | [] => .name word
      | _ :: [] => .nameToken
      | _ :: rest => if ':' ∈ rest then .nameToken else .prefixedName word
    else .nameToken

/-- The characters that may follow a word. -/
def endsWord (character : Char) : Bool :=
  isSpace character || [')', '>', ',', '|', '[', '%'].contains character

/-- Takes a word and the sign after it that says how often. -/
def scanWord : Scanner Token := do
  let word := ofWord (← Scanner.takeWhile isWordCharacter)
  let character ← Scanner.peek
  if endsWord character then return word
  else if ['?', '*', '+'].contains character && word ≠ .nameToken then
    Scanner.expect character
    return .countedName
  else Scanner.reject

/-- Takes a literal whose first mark is taken already. -/
def scanLiteral (mark : Char) : Scanner Token := do
  let text ← Scanner.takeWhile (· ≠ mark)
  Scanner.expect mark
  let character ← Scanner.peek
  if isSpace character || ['>', '%', '['].contains character then return .literal text
  else Scanner.reject

/-- Takes a keyword whose number sign is taken already. -/
def scanKeyword : Scanner Token := do
  let word ← Scanner.name
  let character ← Scanner.peek
  if isSpace character || [')', '>', '%', '|'].contains character then return .keyword word
  else Scanner.reject

/-- Takes what follows a closing parenthesis: a sign that says how often, if there is one. -/
def scanClosing : Scanner Token := do
  let character ← Scanner.peek
  if character = '*' then
    Scanner.expect character
    return .closingMany
  else if ['?', '+'].contains character then
    Scanner.expect character
    return .closingCounted
  else if isSpace character || [',', '|', '>', ')'].contains character then return .closing
  else Scanner.reject

/-- Takes what follows a percent sign that stands alone. -/
def scanPercent : Scanner Token := do
  let character ← Scanner.peek
  if isSpace character || character = '%' then return .percent else Scanner.reject

/-- Takes a token. -/
def scan : Scanner Token := do
  let character ← Scanner.peek
  if isWordCharacter character then scanWord
  else
    Scanner.expect character
    match character with
    | '"' => scanLiteral '"'
    | '\x27' => scanLiteral '\x27'
    | '#' => scanKeyword
    | ')' => scanClosing
    | '%' => scanPercent
    | ',' => return .comma
    | '|' => return .bar
    | '(' => return .opening
    | '[' => return .bracket
    | '>' => return .stop
    | _ => Scanner.reject

/-- Takes a token after white space, which is the last if it is of some kind. -/
def scanRound (isLast : Token → Bool) : Scanner (Round Token Token) := do
  Scanner.skipSpaces
  let token ← scan
  return if isLast token then .last token else .item token

/-- Takes tokens up to one of some kind, and that one. -/
def scanThrough (isLast : Token → Bool) : Scanner (List Token) := do
  let (tokens, last) ← Scanner.rounds (scanRound isLast)
  return tokens ++ [last]

/-- What is left behind at most a number of tokens that are complete, and behind the white space after
them. -/
def behindUpTo : Nat → List Char → List Char
  | 0, text => text
  | limit + 1, text =>
    let text := text.dropWhile isSpace
    match scan text with
    | .found _ rest => behindUpTo limit rest
    | _ => text

end Token

end ApiDoc.Xml.Doctype
