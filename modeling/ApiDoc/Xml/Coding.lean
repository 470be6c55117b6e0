/-
This file decodes the bytes of a document. Characters are taken off the front one by one; bytes that
a later one may still complete to a character are kept, and a byte that can be part of none ends the
decoding.
-/
import ApiDoc.Text.WideUnits
import ApiDoc.Xml.NameCharacter

namespace ApiDoc.Xml

/-- How the bytes of a document make up its characters. A coding of single bytes agrees with ASCII in
its lower half. -/
inductive Coding where
  | utf8
  | utf16 (order : ByteOrder)
  | single (upper : List Char)
  deriving DecidableEq, Repr

/-- What some bytes begin with. -/
inductive Leading where
  | found (character : Char) (rest : Bytes)
  | unfinished
  | invalid
  deriving DecidableEq, Repr

namespace Leading

/-- A character that may stand in a document, or nothing valid. -/
def ofCharacter (character : Char) (rest : Bytes) : Leading :=
  if isAllowed character then .found character rest else .invalid

/-- The character that a code point is, or nothing valid. -/
def ofPoint (point? : Option CodePoint) (rest : Bytes) : Leading :=
  match point? with
  | some (.char character) => ofCharacter character rest
  | _ => .invalid

end Leading

namespace Coding

/-- The bytes of the upper half that mean nothing are those without a character of their own. -/
def undefinedByte : Char := '\uFFFD'

/-- The coding whose bytes are the first 256 characters. -/
def latin : Coding := .single ((List.range 128).map fun byte => Char.ofNat (128 + byte))

/-- The coding in which only the lower half means anything. -/
def ascii : Coding := .single (List.replicate 128 undefinedByte)

/-- The first character in UTF-8; the first byte tells how many belong to it. -/
def leadingUtf8 : Bytes → Leading
  | [] => .unfinished
  | lead :: rest =>
    if lead < 0x80 then .ofCharacter (Char.ofNat lead.toNat) rest
    else if lead < 0xC0 then .invalid
    else if lead < 0xE0 then match rest with
      | second :: rest => .ofPoint (Utf8.pair? lead second) rest
      | _ => .unfinished
    else if lead < 0xF0 then match rest with
      | second :: third :: rest => .ofPoint (Utf8.triple? lead second third) rest
      | _ => .unfinished
    else if lead < 0xF5 then match rest with
      | second :: third :: fourth :: rest =>
        .ofPoint (Utf8.quadruple? lead second third fourth) rest
      | _ => .unfinished
    else .invalid

/-- The unit that two bytes make up. -/
def unit (order : ByteOrder) (first second : UInt8) : Nat :=
  match order with
  | .bigEndian => first.toNat * 0x100 + second.toNat
  | .littleEndian => second.toNat * 0x100 + first.toNat

/-- The first character in UTF-16. Of the unit that completes a pair only the low ten bits count. -/
def leadingUtf16 (order : ByteOrder) : Bytes → Leading
  | first :: second :: rest =>
    let high := unit order first second
    if Utf16.isHigh high then match rest with
      | third :: fourth :: rest =>
        let low := 0xDC00 + unit order third fourth % 0x400
        .ofPoint (some (Utf16.joinPair high low)) rest
      | _ => .unfinished
    else .ofPoint (CodePoint.ofValue? high) rest
  | _ => .unfinished

/-- The first character in a coding of single bytes. -/
def leadingSingle (upper : List Char) : Bytes → Leading
  | [] => .unfinished
  | byte :: rest =>
    if byte < 0x80 then .ofCharacter (Char.ofNat byte.toNat) rest
    else match upper[byte.toNat - 0x80]? with
      | some character =>
        if character = undefinedByte then .invalid else .ofCharacter character rest
      | none => .invalid

/-- What the bytes begin with. -/
def leading : Coding → Bytes → Leading
  | .utf8 => leadingUtf8
  | .utf16 order => leadingUtf16 order
  | .single upper => leadingSingle upper

/-- The number of bytes that an ASCII character takes. -/
def unitWidth : Coding → Nat
  | .utf16 _ => 2
  | .utf8 | .single _ => 1

/-- The number of bytes that a character takes. -/
def width (coding : Coding) (character : Char) : Nat :=
  match coding with
  | .utf8 => (Utf8.encodeValue character.toNat).length
  | .utf16 _ => if character.toNat < 0x10000 then 2 else 4
  | .single _ => 1

end Coding

/-- The characters of bytes, the bytes after them that make no character yet, and whether none of
these is invalid. -/
structure Decoded where
  characters : List Char
  rest : Bytes
  valid : Bool
  deriving DecidableEq, Repr

namespace Coding

/-- Decodes at most a number of characters. -/
def decodeUpTo (coding : Coding) : Nat → Bytes → Decoded
  | 0, bytes => { characters := [], rest := bytes, valid := true }
  | limit + 1, bytes => match coding.leading bytes with
    | .found character rest =>
      let decoded := decodeUpTo coding limit rest
      { decoded with characters := character :: decoded.characters }
    | .unfinished => { characters := [], rest := bytes, valid := true }
    | .invalid => { characters := [], rest := bytes, valid := false }

/-- Decodes bytes, of which no more characters arise than there are bytes. -/
def decode (coding : Coding) (bytes : Bytes) : Decoded := coding.decodeUpTo bytes.length bytes

end Coding

end ApiDoc.Xml
