/-
This file defines references, which stand in text and in the values of attributes for a character or
for an entity, and scans the values of attributes into characters and references.
-/
import ApiDoc.Xml.Scan

namespace ApiDoc.Xml

/-- A reference names a character by its number or an entity by its name. -/
inductive Reference where
  | number (value : Nat)
  | name (name : List Char)
  deriving DecidableEq, Repr

namespace Reference

/-- The entities that every document has. -/
def predefined? (name : List Char) : Option Char :=
  if name = "lt".toList then some '<'
  else if name = "gt".toList then some '>'
  else if name = "amp".toList then some '&'
  else if name = "quot".toList then some '"'
  else if name = "apos".toList then some '\x27'
  else none

/-- The character of a number, if it may stand in a document. -/
def characterOf? (value : Nat) : Option Char :=
  if value.isValidChar ∧ isAllowed (Char.ofNat value) then some (Char.ofNat value) else none

/-- The value of a digit in a base of at most sixteen. -/
def digit? (base : Nat) (character : Char) : Option Nat :=
  let value? :=
    if '0' ≤ character ∧ character ≤ '9' then some (character.toNat - '0'.toNat)
    else if 'a' ≤ character ∧ character ≤ 'f' then some (character.toNat - 'a'.toNat + 10)
    else if 'A' ≤ character ∧ character ≤ 'F' then some (character.toNat - 'A'.toNat + 10)
    else none
  value?.filter (· < base)

/-- The number with the given digits. -/
def valueOf (base : Nat) (digits : List Char) : Nat :=
  digits.foldl (fun value digit => value * base + (digit? base digit).getD 0) 0

/-- Takes at least one digit and the semicolon after them. -/
def scanNumber (base : Nat) : Scanner Reference := do
  let digits ← Scanner.takeWhile fun character => (digit? base character).isSome
  if digits.isEmpty then Scanner.reject
  else
    Scanner.expect ';'
    return .number (valueOf base digits)

/-- Takes a reference whose ampersand is taken already. -/
def scan : Scanner Reference := do
  if (← Scanner.peek) = '#' then
    Scanner.expect '#'
    if (← Scanner.peek) = 'x' then
      Scanner.expect 'x'
      scanNumber 16
    else scanNumber 10
  else
    let name ← Scanner.name
    Scanner.expect ';'
    return .name name

end Reference

/-- A part of a value as it is written. -/
inductive Piece where
  | plain (character : Char)
  | referred (reference : Reference)
  deriving DecidableEq, Repr

namespace Piece

/-- Takes a piece of a value, or the mark after it; a tag cannot begin within. -/
def scanOrEnd (mark : Char) : Scanner (Round Piece Unit) := do
  let character ← Scanner.next
  if character = mark then return .last ()
  else if character = '<' then Scanner.reject
  else if character = '&' then return .item (.referred (← Reference.scan))
  else return .item (.plain character)

/-- Takes the pieces of a value and the mark after them. -/
def scanValue (mark : Char) : Scanner (List Piece) := do
  let (pieces, _) ← Scanner.rounds (scanOrEnd mark)
  return pieces

/-- The pieces of a text of which there are at most a number. -/
def ofTextUpTo? : Nat → List Char → Option (List Piece)
  | _, [] => some []
  | 0, _ :: _ => none
  | limit + 1, character :: rest =>
    if character = '<' then none
    else if character = '&' then match Reference.scan rest with
      | .found reference rest => (ofTextUpTo? limit rest).map (.referred reference :: ·)
      | _ => none
    else (ofTextUpTo? limit rest).map (.plain character :: ·)

/-- The pieces of a text that stands for a value; a tag cannot begin within. -/
def ofText? (text : List Char) : Option (List Piece) := ofTextUpTo? text.length text

end Piece

end ApiDoc.Xml
