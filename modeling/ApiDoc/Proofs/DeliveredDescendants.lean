/-
This file proves that a source delivers every element below the root of a document once, in the
order in which they start: as an element, as the name of a table, or as a column.
-/
import ApiDoc.Proofs.Exchanges
import ApiDoc.Proofs.NestedEvents
import ApiDoc.Proofs.WrittenDocument

namespace ApiDoc

namespace Source

variable {σ : Type} (source : Source σ) (session : Http.Session σ) (answer : Http.Answer)

/-- The answer comes back when the document at an address is asked for. -/
def IsAnswered (url : Text) : Prop :=
  (Http.Session.send source.remote (Exchanges.markupRequest source url) session).1 = .ok answer

/-- Where the answer comes back, the elements below the root of a tree are delivered: each once, in
order, under its local name and with its attributes in order. -/
structure Delivers (tree : Xml.Tree) : Prop where
  elements : ∀ url, source.IsAnswered session answer url →
    (source.elements url session).1 = .ofList (tree.descendants.map Xml.Tree.element)
  tableNames : source.IsAnswered session answer source.tableListUrl →
    (source.tableNames session).1 =
      .ofList (tree.descendants.map fun below => below.element.name)
  columns : ∀ table, source.IsAnswered session answer (source.columnListUrl table) →
    (source.columns table session).1 = .ofList (tree.descendants.map fun below =>
      { name := below.element.name, attributes := below.element.attributes })

variable {source session answer}

theorem IsAnswered.elements_eq {url : Text} (answered : source.IsAnswered session answer url) :
    (source.elements url session).1 = Xml.Element.ofAnswer url answer := by
  rw [Exchanges.elements_eq, elementsIn, answered]
  rfl

/-- What the elements of an answer are tells what is delivered of it. -/
theorem delivers_of_ofAnswer {tree : Xml.Tree}
    (brings : ∀ url, Xml.Element.ofAnswer url answer =
      .ofList (tree.descendants.map Xml.Tree.element)) :
    source.Delivers session answer tree where
  elements url answered := answered.elements_eq.trans (brings url)
  tableNames answered := by
    rw [tableNames, Attempt.run_map, answered.elements_eq, brings]
    simp [Feed.map, Feed.ofList]
  columns table answered := by
    refine (congrArg Prod.fst (Attempt.run_map _ _ session)).trans ?_
    dsimp only
    rw [answered.elements_eq, brings]
    simp [Feed.map, Feed.ofList]

theorem ofAnswer_eq (url : Text) (success : answer.status.isSuccess = true)
    (whole : answer.interruption = none) :
    Xml.Element.ofAnswer url answer = Xml.Element.ofChunks url none {} 0 answer.chunks := by
  rw [Xml.Element.ofAnswer, Http.Answer.refusal?, if_pos success, whole]

/-- Of a document that is written, the elements below the root of its tree are delivered. -/
theorem delivers_written (success : answer.status.isSuccess = true)
    (whole : answer.interruption = none) {document : Xml.Written.Document}
    (wellFormed : document.WellFormed) {marked : Bool}
    (body : answer.body = document.bytes marked) : source.Delivers session answer document.tree :=
  delivers_of_ofAnswer fun url => (ofAnswer_eq url success whole).trans
    (Xml.Written.Document.ofChunks_bytes url wellFormed body)

/-- Every element below the root is delivered once, in document order. Of an element tree that is
written out as a document these are its proper descendants, whatever the writer chose and however
the document is cut into chunks. Of any other document that can be read, in whatever coding and with
whatever declarations, the reader reports the start and the end of each element as those of a tree,
and of that they are the proper descendants. -/
theorem descendants_delivered (source : Source σ) (session : Http.Session σ) (answer : Http.Answer)
    (success : answer.status.isSuccess = true) (whole : answer.interruption = none) :
    (∀ (document : Xml.Written.Document) (marked : Bool), document.WellFormed →
      answer.body = document.bytes marked → source.Delivers session answer document.tree) ∧
    (Xml.Preamble.isMisled answer.chunks = false →
      (({} : Xml.Reader).look answer.body).defect? = none →
      ∃ tree : Xml.Tree, (({} : Xml.Reader).look answer.body).events = tree.events ∧
        source.Delivers session answer tree) := by
  constructor
  · intro document marked wellFormed body
    exact delivers_written success whole wellFormed body
  · intro told sound
    obtain ⟨tree, plain, same⟩ := Xml.Reader.exists_tree sound
    refine ⟨tree, same, delivers_of_ofAnswer fun url => (ofAnswer_eq url success whole).trans ?_⟩
    have delivers := Xml.Element.delivers_ofChunks url
      (⟨fun _ => rfl, fun _ _ => told⟩ : ({} : Xml.Reader).Ready answer.chunks) 0
    rw [List.nil_append, show answer.chunks.flatten = answer.body from rfl, Xml.Element.Delivers,
      sound] at delivers
    rw [delivers, same, Xml.Tree.belowRoot_root tree plain]

/-! ### A list of rooms -/

/-- A list of rooms in which names have a namespace by default and by a prefix, with an element that
ends with its start tag, one with another in it, and text and a comment between them. -/
def rooms : Xml.Written.Document where
  declaration? := some
    { version := ⟨" ".toList, [], [], '"', "1.0".toList⟩
      encoding? := some ⟨" ".toList, [], [], '\x27', "utf-8".toList⟩
      standalone? := none
      spaces := [] }
  before := [.sign (.plain '\n')]
  root :=
    { label := ⟨none, "rooms".toList⟩
      attributions :=
        [⟨" ".toList, ⟨none, "xmlns".toList⟩, [], [], '"', "urn:r".toList.map .plain⟩,
          ⟨" ".toList, ⟨some "xmlns".toList, "k".toList⟩, [], [], '"', "urn:k".toList.map .plain⟩]
      spaces := [] }
  content? := some (
    .silent (.sign (.plain '\n')) <|
    .empty
      { label := ⟨some "k".toList, "Room".toList⟩
        attributions :=
          [⟨" ".toList, ⟨none, "no".toList⟩, [], " ".toList, '"',
            [.plain '\u00e9', .named "amp".toList]⟩,
            ⟨" ".toList, ⟨some "k".toList, "kind".toList⟩, [], [], '\x27', [.decimal "65".toList]⟩]
        spaces := " ".toList } <|
    .silent (.comment " beds ".toList) <|
    .nested { label := ⟨none, "Hall".toList⟩, attributions := [], spaces := [] }
      (.silent (.sign (.plain 'x')) <|
        .empty { label := ⟨none, "Bed".toList⟩, attributions := [], spaces := [] } .nothing)
      " ".toList .nothing, [])
  behind := []

/-- The rooms in chunks, of which one is empty and one ends within a character. -/
def roomsAnswer : Http.Answer :=
  { status := 200
    chunks := [(rooms.bytes true).take 94, [], (rooms.bytes true).drop 94] }

/-- A service that answers with the rooms whatever it is asked for. -/
def lodging : Source Unit where
  connection := { productionUrl := "http://host/services", developmentUrl := "http://host/dev" }
  environment := .production
  remote := fun _ state => (.ok roomsAnswer, state)

theorem isAnswered_lodging {url : Text} (sendable : Http.Url.IsSendable url) :
    lodging.IsAnswered { remote := () } roomsAnswer url := by
  unfold IsAnswered Http.Session.send
  have prepared : (Exchanges.markupRequest lodging url).prepare = .ok _ :=
    Http.Request.prepare_eq_ok_iff.mpr ⟨sendable, rfl⟩
  rw [prepared]
  rfl

/-- The rooms are delivered as tables and as columns. -/
theorem descendants_delivered_rooms :
    (lodging.tableNames { remote := () }).1 = .ofList ["Room", "Hall", "Bed"] ∧
    (lodging.columns "Room" { remote := () }).1 = .ofList
      [{ name := "Room", attributes := [("no", "\u00e9&"), ("\x7burn:k\x7dkind", "A")] },
        { name := "Hall", attributes := [] }, { name := "Bed", attributes := [] }] ∧
    ∃ tree : Xml.Tree, (({} : Xml.Reader).look roomsAnswer.body).events = tree.events ∧
      lodging.Delivers { remote := () } roomsAnswer tree := by
  obtain ⟨written, readable⟩ :=
    descendants_delivered lodging { remote := () } roomsAnswer (by decide) rfl
  have delivers := written rooms true (by decide +kernel) (by decide +kernel)
  refine ⟨?_, ?_, readable (by decide +kernel) (by decide +kernel)⟩
  · refine (delivers.tableNames (isAnswered_lodging (by decide +kernel))).trans ?_
    exact congrArg Feed.ofList (by decide +kernel)
  · refine (delivers.columns "Room" (isAnswered_lodging (by decide +kernel))).trans ?_
    exact congrArg Feed.ofList (by decide +kernel)

end Source

end ApiDoc
