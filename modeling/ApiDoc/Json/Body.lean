/-
This file reads a JSON value from bytes. The encoding is told by a byte order mark, and without one by
where the zero bytes stand, because a JSON text starts with an ASCII character.
-/
import ApiDoc.Json.Reader
import ApiDoc.Text.WideUnits

namespace ApiDoc.Json

/-- Why bytes hold no value that can be read. -/
inductive BodyDefect where
  | undecodable
  | unreadable (defect : ReadDefect)
  deriving DecidableEq, Repr

/-- The text that the bytes of a JSON body encode. -/
def decodeBody? : Bytes → Option Text
  | 0x00 :: 0x00 :: 0xFE :: 0xFF :: rest => Utf32.decode? .bigEndian rest
  | 0xFF :: 0xFE :: 0x00 :: 0x00 :: rest => Utf32.decode? .littleEndian rest
  | 0xFE :: 0xFF :: rest => Utf16.decode? .bigEndian rest
  | 0xFF :: 0xFE :: rest => Utf16.decode? .littleEndian rest
  | 0xEF :: 0xBB :: 0xBF :: rest => Utf8.decode? rest
  | first :: second :: third :: fourth :: rest =>
    let bytes := first :: second :: third :: fourth :: rest
    if first = 0 then
      if second = 0 then Utf32.decode? .bigEndian bytes else Utf16.decode? .bigEndian bytes
    else if second = 0 then
      if third = 0 && fourth = 0 then Utf32.decode? .littleEndian bytes
      else Utf16.decode? .littleEndian bytes
    else Utf8.decode? bytes
  | [first, second] =>
    if first = 0 then Utf16.decode? .bigEndian [first, second]
    else if second = 0 then Utf16.decode? .littleEndian [first, second]
    else Utf8.decode? [first, second]
  | bytes => Utf8.decode? bytes

/-- The value that the bytes of a body hold. -/
def readBody (bytes : Bytes) (limit : Nat := maximalDepth) : Except BodyDefect Json :=
  match decodeBody? bytes with
  | none => .error .undecodable
  | some text => match read text limit with
    | .ok value => .ok value
    | .error defect => .error (.unreadable defect)

end ApiDoc.Json
