/-
This file proves that it makes no difference how a document is cut into chunks. A look at some bytes
and a later look at the rest come to the same as one look at all of them, apart from how soon the
reader looks again; so every way of feeding a document comes to the same as holding all of it back
until the end.
-/
import ApiDoc.Proofs.Following
import ApiDoc.Proofs.SteadyDecoding
import ApiDoc.Source.Elements

namespace ApiDoc.Xml

/-- What comes of a look at bytes: what is reported up to the first error, and the reader that is
left if there is none. How many bytes were looked at in vain does not count, for it only tells when
to look again. -/
structure Reading where
  events : List Event
  stand : Except MarkupDefect Reader

namespace Reading

/-- A reading that stops at an error. -/
def stopped (defect : MarkupDefect) : Reading := { events := [], stand := .error defect }

/-- A reading that goes on after earlier events. -/
def after (events : List Event) (reading : Reading) : Reading :=
  { reading with events := events ++ reading.events }

/-- The reading with what follows from where it stands. -/
def andThen (reading : Reading) (next : Reader → Reading) : Reading :=
  match reading.stand with
  | .ok reader => (next reader).after reading.events
  | .error _ => reading

/-- What a reader makes of it: the events count only if there is no error. -/
def outcome (reading : Reading) : Except MarkupDefect (List Event × Reader) :=
  reading.stand.map (reading.events, ·)

end Reading

namespace Reader

/-! ### One look -/

/-- An outcome apart from how many bytes were looked at in vain. -/
def lasting (outcome : Except MarkupDefect (List Event × Reader)) :
    Except MarkupDefect (List Event × Reader) :=
  outcome.map fun (events, reader) => (events, { reader with attempted := 0 })

/-- The reading of bytes behind the preamble. -/
def followed (reader : Reader) (coding : Coding) (bytes : Bytes) : Reading :=
  let decoded := coding.decode bytes
  let report := reader.progress.report (reader.pending ++ decoded.characters)
  { events := report.events
    stand := match report.stand? with
      | none => .error .malformed
      | some (progress, pending) =>
        if decoded.valid then .ok
          { coding? := some coding
            hasPreamble := true
            bytes := decoded.rest
            pending
            attempted := 0
            progress }
        else .error .malformed }

/-- A reader that knows what stands before the document itself. -/
def knowing (reader : Reader) (preamble : Preamble) : Reader :=
  { reader with progress := { reader.progress with
      doctype := { reader.progress.doctype with standalone := preamble.standalone } } }

/-- The reading of bytes that begin with the preamble. -/
def begun (reader : Reader) (coding : Coding) (bytes : Bytes) : Reading :=
  match Preamble.read coding bytes with
  | .error defect => .stopped defect
  | .ok none =>
    { events := [], stand := .ok { reader with coding? := some coding, bytes, attempted := 0 } }
  | .ok (some preamble) => (reader.knowing preamble).followed preamble.coding preamble.rest

/-- The reading of bytes. -/
def look (reader : Reader) (bytes : Bytes) : Reading :=
  match reader.coding? with
  | some coding =>
    if reader.hasPreamble then reader.followed coding bytes else reader.begun coding bytes
  | none => match Preamble.detect? bytes with
    | some (coding, rest) => reader.begun coding rest
    | none => { events := [], stand := .ok { reader with bytes, attempted := 0 } }

theorem lasting_follow (reader : Reader) (coding : Coding) (taken : Bool) (bytes : Bytes) :
    lasting (reader.follow coding taken bytes) = (reader.followed coding bytes).outcome := by
  unfold follow followed
  simp only [Progress.follow?_eq_report]
  cases (reader.progress.report (reader.pending ++ (coding.decode bytes).characters)).stand? with
  | none => rfl
  | some stand => cases (coding.decode bytes).valid <;> rfl

theorem lasting_begin (reader : Reader) (coding : Coding) (taken : Bool) (bytes : Bytes) :
    lasting (reader.begin coding taken bytes) = (reader.begun coding bytes).outcome := by
  unfold begin begun
  cases Preamble.read coding bytes with
  | error defect => rfl
  | ok preamble? => cases preamble? with
    | none => rfl
    | some preamble => exact lasting_follow _ _ _ _

/-- A look at the bytes that have arrived makes of them what the reading of them tells. -/
theorem lasting_advance (reader : Reader) (bytes : Bytes) :
    lasting (reader.advance bytes) = (reader.look bytes).outcome := by
  obtain ⟨coding?, hasPreamble, _, _, _, _⟩ := reader
  cases coding? with
  | some coding => cases hasPreamble with
    | true => exact lasting_follow _ _ _ _
    | false => exact lasting_begin _ _ _ _
  | none =>
    simp only [advance, look]
    cases Preamble.detect? bytes with
    | some told => exact lasting_begin _ _ _ _
    | none => rfl

theorem look_of_advance {reader next : Reader} {bytes : Bytes} {events : List Event}
    (led : reader.advance bytes = .ok (events, next)) :
    reader.look bytes = { events, stand := .ok { next with attempted := 0 } } := by
  have looks := reader.lasting_advance bytes
  rw [led] at looks
  generalize reader.look bytes = reading at looks ⊢
  obtain ⟨further, stand⟩ := reading
  cases stand with
  | error defect => exact nomatch looks
  | ok stand =>
    cases looks
    rfl

theorem stand_of_advance_error {reader : Reader} {bytes : Bytes} {defect : MarkupDefect}
    (failed : reader.advance bytes = .error defect) :
    (reader.look bytes).stand = .error defect := by
  have looks := reader.lasting_advance bytes
  rw [failed] at looks
  generalize reader.look bytes = reading at looks ⊢
  obtain ⟨events, stand⟩ := reading
  cases stand with
  | error other =>
    cases looks
    rfl
  | ok next => exact nomatch looks

/-! ### Two looks -/

/-- The bytes and the coding of a look are given, so what the reader keeps of them does not count.
-/
theorem begun_congr {reader other : Reader} (samePreamble : reader.hasPreamble = other.hasPreamble)
    (samePending : reader.pending = other.pending) (sameProgress : reader.progress = other.progress)
    (coding : Coding) (bytes : Bytes) : reader.begun coding bytes = other.begun coding bytes := by
  obtain ⟨_, _, _, _, _, _⟩ := reader
  obtain ⟨_, _, _, _, _, _⟩ := other
  obtain ⟨rfl, rfl, rfl⟩ : _ ∧ _ ∧ _ := ⟨samePreamble, samePending, sameProgress⟩
  rw [begun, begun]
  cases Preamble.read coding bytes with
  | error defect => rfl
  | ok preamble? => cases preamble? <;> rfl

theorem look_congr {reader other : Reader} (sameCoding : reader.coding? = other.coding?)
    (samePreamble : reader.hasPreamble = other.hasPreamble)
    (samePending : reader.pending = other.pending)
    (sameProgress : reader.progress = other.progress) (bytes : Bytes) :
    reader.look bytes = other.look bytes := by
  have begunAlike := begun_congr samePreamble samePending sameProgress
  obtain ⟨coding?, hasPreamble, _, _, _, _⟩ := reader
  obtain ⟨_, _, _, _, _, _⟩ := other
  obtain ⟨rfl, rfl, rfl, rfl⟩ : _ ∧ _ ∧ _ ∧ _ :=
    ⟨sameCoding, samePreamble, samePending, sameProgress⟩
  cases coding? with
  | some coding => cases hasPreamble with
    | true => rfl
    | false => exact begunAlike coding bytes
  | none =>
    simp only [look]
    cases Preamble.detect? bytes with
    | none => rfl
    | some told => exact begunAlike told.1 told.2

/-- A look of a reader that has told the coding and waits for the rest of the preamble. -/
theorem look_eq_begun {reader : Reader} (fresh : reader.hasPreamble = false) (coding : Coding)
    (kept bytes : Bytes) :
    look { reader with coding? := some coding, bytes := kept, attempted := 0 } bytes =
      reader.begun coding bytes := by
  obtain ⟨_, hasPreamble, _, _, _, _⟩ := reader
  obtain rfl : hasPreamble = false := fresh
  exact begun_congr rfl rfl rfl coding bytes

theorem followed_append (reader : Reader) (coding : Coding) (bytes more : Bytes) :
    reader.followed coding (bytes ++ more) =
      (reader.followed coding bytes).andThen fun next => next.look (next.bytes ++ more) := by
  cases valid : (coding.decode bytes).valid with
  | true =>
    simp only [followed, Coding.decode_append more valid, ← List.append_assoc,
      Progress.report_append _ (reader.pending ++ (coding.decode bytes).characters), valid]
    cases reader.progress.report (reader.pending ++ (coding.decode bytes).characters) with
    | mk events stand? => cases stand? with
      | none => rfl
      | some stand => rfl
  | false =>
    simp only [followed, Coding.decode_append_invalid more valid, valid]
    cases reader.progress.report (reader.pending ++ (coding.decode bytes).characters) with
    | mk events stand? => cases stand? <;> rfl

theorem begun_append {reader : Reader} (fresh : reader.hasPreamble = false) (coding : Coding)
    (bytes more : Bytes) :
    reader.begun coding (bytes ++ more) =
      (reader.begun coding bytes).andThen fun next => next.look (next.bytes ++ more) := by
  cases told : Preamble.read coding bytes with
  | error defect =>
    have complete := (Preamble.read_append coding bytes more).resolve_left (by rw [told]; nofun)
    rw [begun, begun, complete, told]
    rfl
  | ok preamble? => cases preamble? with
    | none =>
      conv => rhs; rw [begun, told]
      exact (look_eq_begun fresh coding bytes _).symm
    | some preamble =>
      have complete := (Preamble.read_append coding bytes more).resolve_left (by rw [told]; nofun)
      rw [begun, begun, complete, told]
      exact followed_append _ _ _ _

/-- A look at some bytes and then at what is left of them with more behind comes to the same as one
look at all, if the coding that the first look may have told is that of all bytes. -/
theorem look_append {reader : Reader} {bytes more : Bytes}
    (sound : reader.coding? = none → reader.hasPreamble = false)
    (enough : reader.coding? = none → bytes.length = 1 → (Preamble.detect? bytes).isSome →
      more.head? ≠ some 0) :
    reader.look (bytes ++ more) =
      (reader.look bytes).andThen fun next => next.look (next.bytes ++ more) := by
  obtain ⟨coding?, hasPreamble, _, _, _, _⟩ := reader
  cases coding? with
  | some coding => cases hasPreamble with
    | true => exact followed_append _ _ _ _
    | false => exact begun_append rfl _ _ _
  | none =>
    conv => rhs; rw [look]
    cases told : Preamble.detect? bytes with
    | some tellings =>
      have toldToo := Preamble.detect?_append more told fun single =>
        enough rfl single (by rw [told]; rfl)
      rw [look, toldToo]
      exact begun_append (sound rfl) _ _ _
    | none => exact (look_congr rfl rfl rfl rfl _).symm

theorem coding_of_followed {reader next : Reader} {coding : Coding} {bytes : Bytes}
    (stands : (reader.followed coding bytes).stand = .ok next) : next.coding?.isSome = true := by
  unfold followed at stands
  dsimp only at stands
  split at stands
  · exact nomatch stands
  · split at stands
    · cases stands
      rfl
    · exact nomatch stands

theorem coding_of_begun {reader next : Reader} {coding : Coding} {bytes : Bytes}
    (stands : (reader.begun coding bytes).stand = .ok next) : next.coding?.isSome = true := by
  unfold begun at stands
  split at stands
  · exact nomatch stands
  · cases stands
    rfl
  · exact coding_of_followed stands

/-- A reader that does not know the coding after a look has taken nothing. -/
theorem stand_of_look {reader next : Reader} {bytes : Bytes}
    (stands : (reader.look bytes).stand = .ok next) (unknown : next.coding? = none) :
    reader.coding? = none ∧ next.hasPreamble = reader.hasPreamble ∧ next.bytes = bytes := by
  have notKnown : next.coding?.isSome ≠ true := by simp [unknown]
  unfold look at stands
  split at stands
  · split at stands
    · exact absurd (coding_of_followed stands) notKnown
    · exact absurd (coding_of_begun stands) notKnown
  · split at stands
    · exact absurd (coding_of_begun stands) notKnown
    · cases stands
      exact ⟨unknown, rfl, rfl⟩

end Reader

/-! ### Chunk by chunk -/

/-- The first chunk is a single byte that tells a coding, and the next byte is zero, which belies
it. -/
def Preamble.isMisled : List Bytes → Bool
  | [] => false
  | [] :: rest => isMisled rest
  | [byte] :: rest => (detect? [byte]).isSome && rest.flatten.head? = some 0
  | _ :: _ => false

/-- A reader before some chunks. The preamble has not been read before the coding is known, and the
first byte is not taken for a coding that it does not tell. -/
structure Reader.Ready (reader : Reader) (chunks : List Bytes) : Prop where
  fresh : reader.coding? = none → reader.hasPreamble = false
  told : reader.coding? = none → reader.bytes = [] → Preamble.isMisled chunks = false

namespace Reader.Ready

variable {reader next : Reader} {chunk : Bytes} {rest : List Bytes} {events : List Event}

/-- The bytes of a chunk tell the coding of all. -/
theorem enough (ready : reader.Ready (chunk :: rest)) (given : chunk ≠ [])
    (unknown : reader.coding? = none) (single : (reader.bytes ++ chunk).length = 1)
    (tells : (Preamble.detect? (reader.bytes ++ chunk)).isSome = true) :
    rest.flatten.head? ≠ some 0 := by
  match kept : reader.bytes, chunk with
  | [], [byte] =>
    rw [kept] at tells
    intro zero
    have misled := ready.told unknown kept
    simp [Preamble.isMisled, zero] at misled
    exact absurd tells (by simp [misled])
  | [], [] => exact absurd rfl given
  | [], _ :: _ :: _ => simp [kept] at single
  | _ :: _, [] => exact absurd rfl given
  | _ :: _, _ :: _ => simp [kept] at single

/-- A chunk that is taken: what comes after it is read as if all had been there at once. -/
theorem of_feed (ready : reader.Ready (chunk :: rest))
    (fed : reader.feed chunk = .ok (events, next)) :
    next.Ready rest ∧ reader.look (reader.bytes ++ (chunk :: rest).flatten) =
      (next.look (next.bytes ++ rest.flatten)).after events := by
  rw [List.flatten_cons, ← List.append_assoc]
  unfold feed at fed
  dsimp only at fed
  split at fed
  · obtain rfl := List.isEmpty_iff.1 ‹_›
    cases fed
    rw [List.append_nil]
    exact ⟨⟨ready.fresh, ready.told⟩, rfl⟩
  have given : chunk ≠ [] := fun empty => ‹¬_› (List.isEmpty_iff.2 empty)
  have taken : reader.bytes ++ chunk ≠ [] := List.append_ne_nil_of_right_ne_nil _ given
  split at fed
  · cases fed
    exact ⟨⟨ready.fresh, fun _ empty => absurd empty taken⟩, look_congr rfl rfl rfl rfl _⟩
  · have looks := look_of_advance fed
    rw [look_append ready.fresh (ready.enough given), looks]
    refine ⟨?_, congrArg (Reading.after events) (look_congr rfl rfl rfl rfl _)⟩
    have stands := stand_of_look (congrArg Reading.stand looks)
    exact ⟨fun unknown => (stands unknown).2.1.trans (ready.fresh (stands unknown).1),
      fun unknown empty => absurd ((stands unknown).2.2.symm.trans empty) taken⟩

/-- A chunk with an error: all that comes after it does not change that. -/
theorem of_feed_error {defect : MarkupDefect} (ready : reader.Ready (chunk :: rest))
    (failed : reader.feed chunk = .error defect) :
    (reader.look (reader.bytes ++ (chunk :: rest).flatten)).stand = .error defect := by
  rw [List.flatten_cons, ← List.append_assoc]
  unfold feed at failed
  dsimp only at failed
  split at failed
  · exact nomatch failed
  split at failed
  · exact nomatch failed
  have given : chunk ≠ [] := fun empty => ‹¬ chunk.isEmpty = true› (List.isEmpty_iff.2 empty)
  have stops := stand_of_advance_error failed
  rw [look_append ready.fresh (ready.enough given), Reading.andThen, stops]
  exact stops

end Reader.Ready

/-! ### All chunks -/

/-- Why a body cannot be read that ends where a reading does, if it cannot. -/
def Reading.defect? (reading : Reading) : Option MarkupDefect :=
  match reading.stand with
  | .error defect => some defect
  | .ok reader =>
    if reader.bytes.isEmpty && reader.pending.isEmpty && reader.progress.isComplete then none
    else some .malformed

theorem Reader.close_eq (reader : Reader) :
    reader.close = match (reader.look reader.bytes).defect? with
      | none => .ok (reader.look reader.bytes).events
      | some defect => .error defect := by
  unfold close Reading.defect?
  cases led : reader.advance reader.bytes with
  | error defect => rw [stand_of_advance_error led]
  | ok made =>
    rw [look_of_advance led]
    dsimp only
    split <;> rfl

namespace Element

theorem belowRoot_append (depth : Nat) (events more : List Event) :
    belowRoot depth (events ++ more) =
      ((belowRoot depth events).1 ++ (belowRoot (belowRoot depth events).2 more).1,
        (belowRoot (belowRoot depth events).2 more).2) := by
  induction events generalizing depth with
  | nil => rfl
  | cons event rest inductionHypothesis =>
    cases event with
    | opened name attributes =>
      simp only [List.cons_append, belowRoot, inductionHypothesis]
      split <;> rfl
    | closed => exact inductionHypothesis (depth - 1)

/-- A stream that delivers what a reading holds: all of it if the body can be read, and some of what
comes before the error if it cannot. -/
def Delivers (url : Text) (depth : Nat) (reading : Reading) (feed : Feed Element) : Prop :=
  match reading.defect? with
  | none => feed = .ofList (belowRoot depth reading.events).1
  | some defect =>
    feed.ending = .error (defect.toFailure url) ∧ feed.items <+: (belowRoot depth reading.events).1

theorem Delivers.after {url : Text} {depth : Nat} {events : List Event} {reading : Reading}
    {feed : Feed Element} (delivers : Delivers url (belowRoot depth events).2 reading feed) :
    Delivers url depth (reading.after events)
      { feed with items := (belowRoot depth events).1 ++ feed.items } := by
  have sameDefect : (reading.after events).defect? = reading.defect? := rfl
  unfold Delivers at delivers ⊢
  rw [sameDefect]
  simp only [Reading.after, belowRoot_append]
  split at delivers
  · rw [delivers]
    rfl
  · exact ⟨delivers.1, List.prefix_append_right_inj _ |>.2 delivers.2⟩

/-- Every way of cutting a body into chunks delivers what the reading of the whole holds. -/
theorem delivers_ofChunks (url : Text) {reader : Reader} {chunks : List Bytes}
    (ready : reader.Ready chunks) (depth : Nat) :
    Delivers url depth (reader.look (reader.bytes ++ chunks.flatten))
      (ofChunks url none reader depth chunks) := by
  induction chunks generalizing reader depth with
  | nil =>
    rw [List.flatten_nil, List.append_nil, ofChunks, ofEnd, Reader.close_eq]
    unfold Delivers
    cases (reader.look reader.bytes).defect? with
    | none => rfl
    | some defect => exact ⟨rfl, List.nil_prefix⟩
  | cons chunk rest inductionHypothesis =>
    rw [ofChunks]
    cases fed : reader.feed chunk with
    | error defect =>
      have stops := ready.of_feed_error fed
      unfold Delivers Reading.defect?
      rw [stops]
      exact ⟨rfl, List.nil_prefix⟩
    | ok made =>
      obtain ⟨readyThen, same⟩ := ready.of_feed fed
      rw [same]
      exact (inductionHypothesis readyThen _).after

/-- The elements below the root that start before the first error of a body. -/
def started (body : Bytes) : List Element := (belowRoot 0 (({} : Reader).look body).events).1

/-- However a body is cut into chunks, the same comes of it: either all of its elements are
delivered, or the same failure ends the stream and what was delivered before is the beginning of the
elements that start before the error. That the bytes are read in sequence and the first error is
found alike however they are cut fails for one kind of cut, which `Preamble.isMisled` describes: if
a single byte arrives alone and is not one that two codings can begin with, the coding is settled,
and if the next byte is zero, it is settled otherwise than it is when both bytes arrive together. -/
theorem ofAnswer_cut_alike (url : Text) (answer : Http.Answer) {first second : List Bytes}
    (uninterrupted : answer.interruption = none) (same : first.flatten = second.flatten)
    (told : Preamble.isMisled first = false) (toldToo : Preamble.isMisled second = false) :
    (∃ elements, ofAnswer url { answer with chunks := first } = .ofList elements ∧
      ofAnswer url { answer with chunks := second } = .ofList elements) ∨
    ∃ failure, (ofAnswer url { answer with chunks := first }).ending = .error failure ∧
      (ofAnswer url { answer with chunks := second }).ending = .error failure ∧
      (ofAnswer url { answer with chunks := first }).items <+: started first.flatten ∧
      (ofAnswer url { answer with chunks := second }).items <+: started first.flatten := by
  cases refused : answer.refusal? url (Http.sentUrl url) with
  | some failure =>
    have fails (chunks : List Bytes) : ofAnswer url { answer with chunks } = .failed failure := by
      have refuses : Http.Answer.refusal? { answer with chunks } url (Http.sentUrl url) =
          some failure := refused
      rw [ofAnswer, refuses]
    rw [fails first, fails second]
    exact .inr ⟨failure, rfl, rfl, List.nil_prefix, List.nil_prefix⟩
  | none =>
    have reads (chunks : List Bytes) :
        ofAnswer url { answer with chunks } = ofChunks url none {} 0 chunks := by
      have accepts : Http.Answer.refusal? { answer with chunks } url (Http.sentUrl url) = none :=
        refused
      rw [ofAnswer, accepts, uninterrupted]
    have ready : ({} : Reader).Ready first := ⟨fun _ => rfl, fun _ _ => told⟩
    have readyToo : ({} : Reader).Ready second := ⟨fun _ => rfl, fun _ _ => toldToo⟩
    have delivers := delivers_ofChunks url ready 0
    have deliversToo := delivers_ofChunks url readyToo 0
    rw [reads first, reads second]
    rw [← same] at deliversToo
    unfold Delivers at delivers deliversToo
    split at delivers <;> rename_i ends <;> rw [ends] at deliversToo
    · exact .inl ⟨_, delivers, deliversToo⟩
    · exact .inr ⟨_, delivers.1, deliversToo.1, delivers.2, deliversToo.2⟩

/-- A document that arrives whole, and byte by byte: even its characters are cut. -/
theorem ofAnswer_cut_alike_bytewise :
    let body := Utf8.encode "<r>\u00e9<a x=\x27\u00e9\x27/></r>"
    let answer : Http.Answer := { status := 200, chunks := [] }
    (ofAnswer [] { answer with chunks := [body] }).items.length = 1 ∧
    ((∃ elements, ofAnswer [] { answer with chunks := [body] } = .ofList elements ∧
      ofAnswer [] { answer with chunks := body.map ([·]) } = .ofList elements) ∨
    ∃ failure, (ofAnswer [] { answer with chunks := [body] }).ending = .error failure ∧
      (ofAnswer [] { answer with chunks := body.map ([·]) }).ending = .error failure ∧
      (ofAnswer [] { answer with chunks := [body] }).items <+: started [body].flatten ∧
      (ofAnswer [] { answer with chunks := body.map ([·]) }).items <+: started [body].flatten) :=
  ⟨by decide +kernel, ofAnswer_cut_alike [] _ rfl (by decide) (by decide) (by decide)⟩

/-- The cut that is left out: the second byte is the half of a unit, which a single byte does not
tell. -/
example : let body : Bytes := [0x20, 0, 0x3C, 0, 0x72, 0, 0x2F, 0, 0x3E, 0]
    (ofAnswer [] { status := 200, chunks := [body] }).ending = .ok () ∧
      (ofAnswer [] { status := 200, chunks := [body.take 1, body.drop 1] }).ending =
        .error (.malformed (.markup [])) ∧
      Preamble.isMisled [body.take 1, body.drop 1] = true := by
  refine ⟨?_, ?_, ?_⟩ <;> rfl

end Element

end ApiDoc.Xml
