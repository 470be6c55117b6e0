/-
This file relates texts to bytes in the encoding UTF-8. Decoding accepts the three-byte form of a
surrogate, so that it undoes an encoder which writes surrogates; strict encoding refuses them.
-/
import ApiDoc.Text.Basic

namespace ApiDoc

/-- Bytes as they travel. -/
abbrev Bytes := List UInt8

namespace Utf8

/-- A byte that continues a character. -/
def isContinuation (byte : UInt8) : Bool := 0x80 ≤ byte && byte < 0xC0

/-- The six low bits of a continuation byte. -/
def low (byte : UInt8) : Nat := byte.toNat % 0x40

/-- The code point of a two-byte form. -/
def pair? (lead second : UInt8) : Option CodePoint :=
  if 0xC2 ≤ lead && lead < 0xE0 && isContinuation second then
    CodePoint.ofValue? (lead.toNat % 0x20 * 0x40 + low second)
  else none

/-- The code point of a three-byte form, which is never written in two. -/
def triple? (lead second third : UInt8) : Option CodePoint :=
  let value := lead.toNat % 0x10 * 0x1000 + low second * 0x40 + low third
  if 0xE0 ≤ lead && lead < 0xF0 && isContinuation second && isContinuation third
      && 0x800 ≤ value then
    CodePoint.ofValue? value
  else none

/-- The code point of a four-byte form, which is never written in three. -/
def quadruple? (lead second third fourth : UInt8) : Option CodePoint :=
  let value :=
    lead.toNat % 0x08 * 0x40000 + low second * 0x1000 + low third * 0x40 + low fourth
  if 0xF0 ≤ lead && lead < 0xF8 && isContinuation second && isContinuation third
      && isContinuation fourth && 0x10000 ≤ value then
    CodePoint.ofValue? value
  else none

/-- The text that the bytes encode. -/
def decode? : Bytes → Option Text
  | [] => some []
  | lead :: rest =>
    if lead < 0x80 then (decode? rest).map (.char (Char.ofNat lead.toNat) :: ·)
    else match rest with
      | [] => none
      | second :: rest => match pair? lead second with
        | some point => (decode? rest).map (point :: ·)
        | none => match rest with
          | [] => none
          | third :: rest => match triple? lead second third with
            | some point => (decode? rest).map (point :: ·)
            | none => match rest with
              | [] => none
              | fourth :: rest => match quadruple? lead second third fourth with
                | some point => (decode? rest).map (point :: ·)
                | none => none

/-- The bytes of a number below the end of Unicode. -/
def encodeValue (value : Nat) : Bytes :=
  if value < 0x80 then [value.toUInt8]
  else if value < 0x800 then [(0xC0 + value / 0x40).toUInt8, (0x80 + value % 0x40).toUInt8]
  else if value < 0x10000 then
    [(0xE0 + value / 0x1000).toUInt8, (0x80 + value / 0x40 % 0x40).toUInt8,
      (0x80 + value % 0x40).toUInt8]
  else
    [(0xF0 + value / 0x40000).toUInt8, (0x80 + value / 0x1000 % 0x40).toUInt8,
      (0x80 + value / 0x40 % 0x40).toUInt8, (0x80 + value % 0x40).toUInt8]

/-- The bytes of a text. -/
def encode (text : Text) : Bytes := text.flatMap fun point => encodeValue point.value

/-- The bytes of a text that holds no surrogate. -/
def encode? (text : Text) : Option Bytes :=
  text.toChars?.map fun characters =>
    characters.flatMap fun character => encodeValue character.toNat

end Utf8

end ApiDoc
