/-
This file says when reading markup stops at a charset. Only the preamble of a document names one, so
nothing has been reported by then; once the preamble has been read, every defect is one of the markup.
-/
import ApiDoc.Source.Elements

namespace ApiDoc.Xml

namespace Reader

/-- What reading stops at, if the chunks do not make up a document that can be read. -/
def defect? (reader : Reader) : List Bytes → Option MarkupDefect
  | [] => match reader.close with
    | .ok _ => none
    | .error defect => some defect
  | chunk :: rest => match reader.feed chunk with
    | .ok (_, after) => after.defect? rest
    | .error defect => some defect

/-- The preamble has been read, and the coding is known from it. -/
def IsPastPreamble (reader : Reader) : Prop :=
  reader.hasPreamble = true ∧ reader.coding?.isSome = true

variable {reader after : Reader} {events : List Event} {bytes : Bytes} {defect : MarkupDefect}

/-! ### One look -/

theorem eq_malformed_of_follow {coding : Coding} {taken : Bool}
    (stops : reader.follow coding taken bytes = .error defect) : defect = .malformed := by
  unfold follow at stops
  dsimp only at stops
  split at stops
  · exact (Except.error.inj stops).symm
  · split at stops
    · cases stops
    · exact (Except.error.inj stops).symm

theorem isPastPreamble_of_follow {coding : Coding} {taken : Bool}
    (follows : reader.follow coding taken bytes = .ok (events, after)) : after.IsPastPreamble := by
  unfold follow at follows
  dsimp only at follows
  split at follows
  · cases follows
  · split at follows
    · cases follows
      exact ⟨rfl, rfl⟩
    · cases follows

/-- Past the preamble the next bytes are followed. -/
theorem exists_advance_eq_follow (past : reader.IsPastPreamble) (bytes : Bytes) :
    ∃ coding, reader.advance bytes = reader.follow coding false bytes := by
  obtain ⟨preamble, known⟩ := past
  obtain ⟨coding, given⟩ := Option.isSome_iff_exists.mp known
  refine ⟨coding, ?_⟩
  unfold advance
  rw [given]
  exact if_pos preamble

/-- Bytes that make up no preamble report nothing. -/
theorem silent_or_past_of_begin {coding : Coding} {taken : Bool}
    (begins : reader.begin coding taken bytes = .ok (events, after)) :
    events = [] ∨ after.IsPastPreamble := by
  unfold begin at begins
  split at begins
  · cases begins
  · cases begins
    exact Or.inl rfl
  · exact Or.inr (isPastPreamble_of_follow begins)

theorem silent_or_past_of_advance (advances : reader.advance bytes = .ok (events, after)) :
    events = [] ∨ after.IsPastPreamble := by
  unfold advance at advances
  split at advances
  · split at advances
    · exact Or.inr (isPastPreamble_of_follow advances)
    · exact silent_or_past_of_begin advances
  · split at advances
    · exact silent_or_past_of_begin advances
    · cases advances
      exact Or.inl rfl

/-! ### Chunks -/

theorem silent_or_past_of_feed {chunk : Bytes} (feeds : reader.feed chunk = .ok (events, after)) :
    events = [] ∨ after.IsPastPreamble := by
  unfold feed at feeds
  dsimp only at feeds
  split at feeds
  · cases feeds
    exact Or.inl rfl
  · split at feeds
    · cases feeds
      exact Or.inl rfl
    · exact silent_or_past_of_advance feeds

theorem IsPastPreamble.feed (past : reader.IsPastPreamble) {chunk : Bytes}
    (feeds : reader.feed chunk = .ok (events, after)) : after.IsPastPreamble := by
  unfold Reader.feed at feeds
  dsimp only at feeds
  split at feeds
  · cases feeds
    exact past
  · split at feeds
    · cases feeds
      exact past
    · obtain ⟨coding, same⟩ := exists_advance_eq_follow past (reader.bytes ++ chunk)
      exact isPastPreamble_of_follow (same.symm.trans feeds)

theorem IsPastPreamble.eq_malformed_of_feed (past : reader.IsPastPreamble) {chunk : Bytes}
    (stops : reader.feed chunk = .error defect) : defect = .malformed := by
  unfold Reader.feed at stops
  dsimp only at stops
  split at stops
  · cases stops
  · split at stops
    · cases stops
    · obtain ⟨coding, same⟩ := exists_advance_eq_follow past (reader.bytes ++ chunk)
      exact eq_malformed_of_follow (same.symm.trans stops)

theorem IsPastPreamble.eq_malformed_of_close (past : reader.IsPastPreamble)
    (stops : reader.close = .error defect) : defect = .malformed := by
  unfold close at stops
  split at stops
  · rename_i fails
    cases stops
    obtain ⟨coding, same⟩ := exists_advance_eq_follow past reader.bytes
    exact eq_malformed_of_follow (same.symm.trans fails)
  · split at stops
    · cases stops
    · exact (Except.error.inj stops).symm

/-- Past the preamble no charset stops the reading. -/
theorem IsPastPreamble.eq_malformed (past : reader.IsPastPreamble) {chunks : List Bytes}
    (stops : reader.defect? chunks = some defect) : defect = .malformed := by
  induction chunks generalizing reader with
  | nil =>
    rw [defect?] at stops
    split at stops
    · cases stops
    · rename_i fails
      cases stops
      exact past.eq_malformed_of_close fails
  | cons chunk rest inductionHypothesis =>
    rw [defect?] at stops
    split at stops
    · rename_i feeds
      exact inductionHypothesis (past.feed feeds) stops
    · rename_i fails
      cases stops
      exact past.eq_malformed_of_feed fails

end Reader

/-! ### Elements -/

namespace Element

variable {reader : Reader} {depth : Nat} {chunks : List Bytes}

/-- A stream of elements fails as the reading of its chunks does. -/
theorem ending_ofChunks (url : Text) (reader : Reader) (depth : Nat) (chunks : List Bytes) :
    (ofChunks url none reader depth chunks).ending = match reader.defect? chunks with
      | none => .ok ()
      | some defect => .error (defect.toFailure url) := by
  induction chunks generalizing reader depth with
  | nil =>
    rw [ofChunks, ofEnd, Reader.defect?]
    cases reader.close <;> rfl
  | cons chunk rest inductionHypothesis =>
    rw [ofChunks, Reader.defect?]
    cases reader.feed chunk with
    | error defect => rfl
    | ok fed => exact inductionHypothesis fed.2 _

/-- A charset that stops the reading leaves nothing to be delivered. -/
theorem items_ofChunks_of_charset (url : Text) {defect : MarkupDefect}
    (stops : reader.defect? chunks = some defect) (charset : defect ≠ .malformed) :
    (ofChunks url none reader depth chunks).items = [] := by
  induction chunks generalizing reader depth with
  | nil =>
    rw [Reader.defect?] at stops
    rw [ofChunks, ofEnd]
    cases closed : reader.close with
    | error defect => rfl
    | ok events =>
      rw [closed] at stops
      cases stops
  | cons chunk rest inductionHypothesis =>
    rw [Reader.defect?] at stops
    rw [ofChunks]
    cases fed : reader.feed chunk with
    | error defect => rfl
    | ok taken =>
      rw [fed] at stops
      dsimp only at stops
      rcases Reader.silent_or_past_of_feed fed with silent | past
      · dsimp only
        rw [silent]
        exact inductionHypothesis stops
      · exact absurd (past.eq_malformed stops) charset

end Element

end ApiDoc.Xml
