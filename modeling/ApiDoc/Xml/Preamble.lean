/-
This file reads the preamble of a document: a mark for the order of bytes and a declaration, each of
which may be missing. Without a mark the first bytes tell whether characters take one byte or two,
because a document begins with an ASCII character; what the bytes of one mean in detail, the
declaration can tell.
-/
import ApiDoc.Xml.Charset
import ApiDoc.Xml.Scan

namespace ApiDoc.Xml

/-- Why the bytes of a document cannot be read. -/
inductive MarkupDefect where
  | malformed
  | unknownCharset (name : List Char)
  | wideCharset
  deriving DecidableEq, Repr

/-- What the preamble tells of a document, and the bytes that follow it. -/
structure Preamble where
  coding : Coding
  standalone : Bool
  rest : Bytes
  deriving DecidableEq, Repr

namespace Preamble

/-- The coding that the first bytes tell, and the bytes without a mark, once there are enough. -/
def detect? : Bytes → Option (Coding × Bytes)
  | [] => none
  | [byte] => if [0xFE, 0xFF, 0xEF, 0x00, 0x3C].contains byte then none else some (.utf8, [byte])
  | 0xFE :: 0xFF :: rest => some (.utf16 .bigEndian, rest)
  | 0xFF :: 0xFE :: rest => some (.utf16 .littleEndian, rest)
  | [0xEF, 0xBB] => none
  | 0xEF :: 0xBB :: 0xBF :: rest => some (.utf8, rest)
  | first :: second :: rest =>
    let bytes := first :: second :: rest
    if first = 0 then some (.utf16 .bigEndian, bytes)
    else if second = 0 then some (.utf16 .littleEndian, bytes)
    else some (.utf8, bytes)

/-! ### The declaration -/

/-- The characters in the value of an item of the declaration. -/
def isValueCharacter (character : Char) : Bool :=
  character.isAlphanum || ['.', '-', '_'].contains character

/-- Takes an item of a name, after white space, and yields its value. -/
def item (name : String) : Scanner (List Char) := do
  let spaces ← Scanner.takeWhile isSpace
  if spaces.isEmpty then Scanner.reject
  Scanner.expectAll name.toList
  Scanner.skipSpaces
  Scanner.expect '='
  Scanner.skipSpaces
  let mark ← Scanner.next
  if mark = '"' || mark = '\x27' then
    let value ← Scanner.takeWhile isValueCharacter
    Scanner.expect mark
    return value
  else Scanner.reject

/-- The value of an item that may be missing, and what follows. -/
def optionalItem (name : String) (text : List Char) : Option (List Char) × List Char :=
  match item name text with
  | .found value rest => (some value, rest)
  | _ => (none, text)

/-- The name of the charset and whether the document stands alone, from the text of a declaration. -/
def declared? (text : List Char) : Option (Option (List Char) × Bool) :=
  match item "version" text with
  | .found _ rest =>
    let (encoding?, rest) := optionalItem "encoding" rest
    let (standalone?, rest) := optionalItem "standalone" rest
    let named := encoding?.all fun name => name.head?.any Char.isAlpha
    let decided := standalone?.all fun value => value = "yes".toList || value = "no".toList
    if named && decided && rest.all isSpace then
      some (encoding?, standalone? = some "yes".toList)
    else none
  | _ => none

/-- The coding of a document that declares a charset; a charset whose characters have another width
than those of the declaration itself cannot be meant. -/
def declaredCoding (coding : Coding) (name : List Char) : Except MarkupDefect Coding :=
  let wanted := String.ofList (name.map Char.toUpper)
  let wide (order : ByteOrder) : Except MarkupDefect Coding :=
    if coding = .utf16 order then .ok coding else .error .malformed
  let narrow (declared : Coding) : Except MarkupDefect Coding :=
    if coding.unitWidth = 1 then .ok declared else .error .malformed
  if wanted = "UTF-8" then narrow .utf8
  else if wanted = "ISO-8859-1" then narrow .latin
  else if wanted = "US-ASCII" then narrow .ascii
  else if wanted = "UTF-16" then
    if coding.unitWidth = 2 then .ok coding else .error .malformed
  else if wanted = "UTF-16BE" then wide .bigEndian
  else if wanted = "UTF-16LE" then wide .littleEndian
  else match Charset.ofName name with
    | .unknown => .error (.unknownCharset name)
    | .wide => .error .wideCharset
    | .notAscii => .error .malformed
    | .narrow declared => .ok declared

/-- How a document begins that has a declaration. -/
def opening : List Char := "<?xml".toList

/-- The characters up to the end of a declaration, once it is there. -/
def throughEnd? : List Char → Option (List Char)
  | [] => none
  | '?' :: '>' :: _ => some []
  | character :: rest => (throughEnd? rest).map (character :: ·)

/-- What becomes of the characters after the opening of a document. -/
inductive Beginning where
  | undeclared
  | unfinished
  | declaration (text : List Char)
  deriving DecidableEq, Repr

/-- How the characters of a document begin. -/
def beginning (characters : List Char) : Beginning :=
  if opening.isPrefixOf characters then match characters.drop opening.length with
    | [] => .unfinished
    | first :: rest =>
      if isSpace first || first = '?' then match throughEnd? (first :: rest) with
        | some text => .declaration text
        | none => .unfinished
      else .undeclared
  else if characters.isPrefixOf opening then .unfinished
  else .undeclared

/-- The preamble of a document that begins with the bytes after a mark, once it is complete. -/
def read (coding : Coding) (bytes : Bytes) : Except MarkupDefect (Option Preamble) :=
  let decoded := coding.decode bytes
  match beginning decoded.characters with
  | .undeclared => .ok (some { coding, standalone := false, rest := bytes })
  | .unfinished => if decoded.valid then .ok none else .error .malformed
  | .declaration text => match declared? text with
    | none => .error .malformed
    | some (encoding?, standalone) =>
      let length := opening.length + text.length + "?>".length
      let rest := bytes.drop (coding.unitWidth * length)
      match encoding? with
      | none => .ok (some { coding, standalone, rest })
      | some name => match declaredCoding coding name with
        | .ok coding => .ok (some { coding, standalone, rest })
        | .error defect => .error defect

end Preamble

end ApiDoc.Xml
