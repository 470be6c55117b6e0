/-
This file reads a document whose bytes arrive chunk by chunk. What has arrived is followed as far as
it makes up markup, and what is left waits for more. When nothing could be made of what was there, the
next look is put off until there is twice as much, so that a long piece of markup in small chunks is
not looked at over and over again. A parser may also look sooner, when its buffer is nearly full; that
changes when something is reported of a document, but not what.
-/
import ApiDoc.Xml.Document
import ApiDoc.Xml.Preamble

namespace ApiDoc.Xml

/-- The state of reading. The coding is missing until the first bytes tell it, and it may change until
the preamble has been read. The characters wait for their markup, the bytes for their characters;
`attempted` of them were looked at in vain the last time. -/
structure Reader where
  coding? : Option Coding := none
  hasPreamble : Bool := false
  bytes : Bytes := []
  pending : List Char := []
  attempted : Nat := 0
  progress : Progress := {}
  deriving DecidableEq, Repr

namespace Reader

/-- The characters that wait for the rest of their token. A declaration consists of several. -/
def partialToken (reader : Reader) : List Char := Doctype.Declaration.behindTokens reader.pending

/-- The number of bytes that wait if the given ones do. -/
def waiting (reader : Reader) (bytes : Bytes) : Nat :=
  match reader.coding? with
  | some coding => reader.partialToken.foldl (· + coding.width ·) bytes.length
  | none => bytes.length

/-- The reader with bytes that wait; they were looked at in vain unless some were taken before. -/
def await (reader : Reader) (taken : Bool) (bytes : Bytes) : Reader :=
  { reader with bytes, attempted := if taken then 0 else reader.waiting bytes }

/-- Follows the characters that have arrived and the bytes. -/
def follow (reader : Reader) (coding : Coding) (taken : Bool) (bytes : Bytes) :
    Except MarkupDefect (List Event × Reader) :=
  let decoded := coding.decode bytes
  let text := reader.pending ++ decoded.characters
  match reader.progress.follow? text with
  | none => .error .malformed
  | some followed =>
    if decoded.valid then
      let after := { reader with
        coding? := some coding
        hasPreamble := true
        pending := followed.pending
        progress := followed.progress }
      let arrived := reader.partialToken.length + decoded.characters.length
      let taken := taken || after.partialToken.length < arrived
      .ok (followed.events, after.await taken decoded.rest)
    else .error .malformed

/-- Reads the preamble, and once it is complete what follows it. -/
def begin (reader : Reader) (coding : Coding) (taken : Bool) (bytes : Bytes) :
    Except MarkupDefect (List Event × Reader) :=
  match Preamble.read coding bytes with
  | .error defect => .error defect
  | .ok none => .ok ([], { reader with coding? := some coding }.await taken bytes)
  | .ok (some preamble) =>
    let doctype := { reader.progress.doctype with standalone := preamble.standalone }
    let reader := { reader with progress := { reader.progress with doctype } }
    let taken := taken || preamble.rest.length < bytes.length
    reader.follow preamble.coding taken preamble.rest

/-- Looks at the bytes that have arrived. -/
def advance (reader : Reader) (bytes : Bytes) : Except MarkupDefect (List Event × Reader) :=
  match reader.coding? with
  | some coding =>
    if reader.hasPreamble then reader.follow coding false bytes else reader.begin coding false bytes
  | none => match Preamble.detect? bytes with
    | some (coding, rest) => reader.begin coding (rest.length < bytes.length) rest
    | none => .ok ([], reader.await false bytes)

/-- Takes a chunk and reports what it leads to. -/
def feed (reader : Reader) (chunk : Bytes) : Except MarkupDefect (List Event × Reader) :=
  let bytes := reader.bytes ++ chunk
  if chunk.isEmpty then .ok ([], reader)
  else if reader.waiting bytes < 2 * reader.attempted then .ok ([], { reader with bytes })
  else reader.advance bytes

/-- Reports what remains when no further chunk arrives; the document has to be complete then. -/
def close (reader : Reader) : Except MarkupDefect (List Event) :=
  match reader.advance reader.bytes with
  | .error defect => .error defect
  | .ok (events, reader) =>
    if reader.bytes.isEmpty && reader.pending.isEmpty && reader.progress.isComplete then .ok events
    else .error .malformed

end Reader

end ApiDoc.Xml
