/-
This file normalises addresses. The scheme and the host are in small letters, the number of a service
that goes without saying is left out, dot segments are resolved, and what may not stand in a part of
an address is written as the numbers of its bytes.
-/
import ApiDoc.Text.Digit
import ApiDoc.Text.Quoted
import ApiDoc.Text.Search
import ApiDoc.Text.Utf8

namespace ApiDoc.Http

/-- An address in its parts. The host stands with the brackets that it has, if any; the number of the
service follows it after a colon. -/
structure Url where
  scheme : Text
  userinfo : Text
  host : Text
  service : Option Nat
  path : Text
  query : Option Text
  fragment : Option Text
  deriving DecidableEq, Repr

namespace Url

/-! ### Texts that are no addresses -/

/-- The most characters that an address may have. -/
def maximalLength : Nat := 65536

/-- What speaks against a text as an address. The host and the number of the service are taken as they
are. -/
def objection? (text : Text) : Option Text :=
  if maximalLength < text.length then some "URL too long"
  else match text.zipIdx.find? fun (point, _) => point.value < 0x20 || point.value = 0x7f with
    | some (point, position) =>
      some (Text.ofPieces ["Invalid non-printable ASCII character in URL, ", Text.quoted [point],
        " at position ", Text.ofNat position, "."])
    | none => none

/-! ### Escapes -/

/-- The two digits of a byte after a percent sign, in capitals. -/
def escapeByte (byte : UInt8) : Text :=
  .char '%' :: (Hex.digits 2 byte.toNat).map fun point =>
    .char ((point.toChar?.getD '0').toUpper)

/-- The text in which every character beyond printable ASCII, and every unsafe one, is escaped. What
is escaped already stays so, because the percent sign is safe. -/
def escape (isUnsafe : Char → Bool) (text : Text) : Text :=
  text.flatMap fun point =>
    match point with
    | .char character =>
      if '\x20' < character ∧ character < '\x7f' ∧ !isUnsafe character then [point]
      else (Utf8.encode [point]).flatMap escapeByte
    | .surrogate _ => (Utf8.encode [point]).flatMap escapeByte

/-- The bytes of a text in which an escape stands for its byte. -/
def unescape : Text → Bytes
  | [] => []
  | [point] => Utf8.encode [point]
  | [point, last] => Utf8.encode [point, last]
  | point :: high :: low :: rest =>
    match point == .char '%', high.hexDigit?, low.hexDigit? with
    | true, some high, some low => (high * 16 + low).toUInt8 :: unescape rest
    | _, _, _ => Utf8.encode [point] ++ unescape (high :: low :: rest)

/-- The characters that a fragment cannot hold. -/
def isUnsafeInFragment (character : Char) : Bool := ['"', '<', '>', '\x60'].contains character

/-- The characters that a query cannot hold. -/
def isUnsafeInQuery (character : Char) : Bool := ['"', '#', '<', '>'].contains character

/-- The characters that a path cannot hold. -/
def isUnsafeInPath (character : Char) : Bool :=
  isUnsafeInQuery character || ['?', '\x60', '\x7b', '\x7d'].contains character

/-- The characters that cannot stand before the host. -/
def isUnsafeInUserinfo (character : Char) : Bool :=
  isUnsafeInPath character || ['/', ';', '=', '@', '[', '\\', ']', '^', '|'].contains character

/-! ### Parts -/

/-- The characters of a scheme. -/
def isSchemeCharacter (point : CodePoint) : Bool :=
  point.toChar?.any fun character =>
    character.isAlphanum || ['+', '.', '-'].contains character

/-- The scheme and what follows its colon; a text without a scheme follows an empty one. -/
def cutScheme (text : Text) : Text × Text :=
  let scheme := text.takeWhile isSchemeCharacter
  match text.drop scheme.length with
  | .char ':' :: rest =>
    if scheme.head?.all fun first => first.toChar?.any Char.isAlpha then
      (Text.asciiLowercase scheme, rest)
    else ([], text)
  | _ => ([], text)

/-- The host, and the number of the service, of what stands before the path and after an at sign; the
number is left out where the scheme implies it. -/
def cutHost (scheme : Text) (text : Text) : Text × Option Nat :=
  let host := if text.head? = some (.char '[') then text.takeWhile (· ≠ .char ']') ++ [.char ']']
    else text.takeWhile (· ≠ .char ':')
  let digits := ((text.drop host.length).filterMap CodePoint.toChar?).filter Char.isDigit
  let service := (String.ofList digits).toNat?
  let implied := if scheme = "http" then some 80 else if scheme = "https" then some 443 else none
  (Text.asciiLowercase host, if service = implied then none else service)

/-- A path without dot segments; a double dot takes away the segment before it. -/
def resolveSegments (resolved : List Text) : List Text → List Text
  | [] => resolved.reverse
  | segment :: rest =>
    if segment = [.char '.'] then resolveSegments resolved rest
    else if segment = [.char '.', .char '.'] then
      resolveSegments (if resolved = [[]] then resolved else resolved.tail) rest
    else resolveSegments (segment :: resolved) rest

/-- The path of an address. -/
def normalPath (path : Text) : Text :=
  let segments := path.splitAtMark (.char '/')
  escape isUnsafeInPath (Text.join [.char '/'] (resolveSegments [] segments))

/-- The text up to a mark, and what follows the mark if it is there. -/
def cutAt (mark : CodePoint) (text : Text) : Text × Option Text :=
  match Text.cutFirst? mark text with
  | some (before, after) => (before, some after)
  | none => (text, none)

/-- The address that a text stands for. -/
def ofText (text : Text) : Url :=
  let (scheme, rest) := cutScheme text
  let (rest, fragment) := cutAt (.char '#') rest
  let (rest, query) := cutAt (.char '?') rest
  let (authority, path) : Text × Text := match rest with
    | .char '/' :: .char '/' :: rest =>
      (rest.takeWhile (· ≠ .char '/'), rest.dropWhile (· ≠ .char '/'))
    | _ => ([], rest)
  let location := Text.afterLast (.char '@') authority
  let userinfo := authority.take (authority.length - location.length - 1)
  let (host, service) := cutHost scheme location
  { scheme
    userinfo := escape isUnsafeInUserinfo userinfo
    host
    service
    path := normalPath path
    query := query.map (escape isUnsafeInQuery)
    fragment := fragment.map (escape isUnsafeInFragment) }

/-- The part with its sign before it, if it is there. -/
def marked (mark : Text) (part : Option Text) : Text :=
  match part with
  | some part => mark ++ part
  | none => []

/-- The text of an address. -/
def toText (url : Url) : Text :=
  let userinfo : Text := if url.userinfo.isEmpty then [] else Text.ofPieces [url.userinfo, "@"]
  let authority := Text.ofPieces [userinfo, url.host, marked ":" (url.service.map Text.ofNat)]
  Text.ofPieces
    [if url.scheme.isEmpty then [] else Text.ofPieces [url.scheme, ":"],
      if authority.isEmpty then [] else Text.ofPieces ["//", authority],
      url.path, marked "?" url.query, marked "#" url.fragment]

/-- Requests can be sent to the address. -/
def isHttp (url : Url) : Bool := url.scheme = "http" || url.scheme = "https"

end Url

end ApiDoc.Http
