/-
This file reads the elements of a document that arrives as the body of an answer. Each chunk delivers
its elements before the next one is looked at; a chunk that cannot be read delivers none.
-/
import ApiDoc.Source.Exchange
import ApiDoc.Table.Feed
import ApiDoc.Xml.Element
import ApiDoc.Xml.Reader

namespace ApiDoc.Xml

/-- The failure of what read the markup at an address. -/
def MarkupDefect.toFailure (url : Text) : MarkupDefect → Failure
  | .malformed => .malformed (.markup url)
  | .unknownCharset name => .unknownCharset (name.map .char)
  | .wideCharset => .wideCharset

namespace Element

/-- The elements of what remains when all chunks have arrived, unless something cut them off. -/
def ofEnd (url : Text) (interruption : Option Http.Disruption) (reader : Reader) (depth : Nat) :
    Feed Element :=
  match interruption with
  | some disruption => .failed (.ofDisruption url disruption)
  | none => match reader.close with
    | .ok events => .ofList (belowRoot depth events).1
    | .error defect => .failed (defect.toFailure url)

/-- The elements of chunks, where some number of elements are open before them. -/
def ofChunks (url : Text) (interruption : Option Http.Disruption) (reader : Reader) (depth : Nat) :
    List Bytes → Feed Element
  | [] => ofEnd url interruption reader depth
  | chunk :: rest => match reader.feed chunk with
    | .error defect => .failed (defect.toFailure url)
    | .ok (events, reader) =>
      let (elements, depth) := belowRoot depth events
      let feed := ofChunks url interruption reader depth rest
      { feed with items := elements ++ feed.items }

/-- The elements of the body of an answer. -/
def ofAnswer (url : Text) (answer : Http.Answer) : Feed Element :=
  match answer.refusal? url (Http.sentUrl url) with
  | some failure => .failed failure
  | none => ofChunks url answer.interruption {} 0 answer.chunks

end Element

end ApiDoc.Xml
