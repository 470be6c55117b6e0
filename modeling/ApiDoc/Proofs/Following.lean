/-
This file proves that a document can be followed in parts: what a longer text leads to is what its
first part leads to, and then what the pieces that are left of that lead to together with the rest.
What is reported of a text that turns out malformed stops at the piece that is.
-/
import ApiDoc.Xml.Document
import ApiDoc.Proofs.SteadyMarkup

namespace ApiDoc.Xml.Progress

/-- The text of an entity is followed as deep as entities can lie within each other. -/
def followReferred? (entity : List Char) (progress : Progress) : Option (List Event × Progress) :=
  followEntity? progress.doctype.nesting entity progress

/-- Every piece takes a character, so no more pieces are followed than there are characters. -/
theorem followUpTo?_eq_of_le (follow? : List Char → Progress → Option (List Event × Progress)) :
    ∀ (limit others : Nat) (progress : Progress) (text : List Char),
      text.length ≤ limit → text.length ≤ others →
        followUpTo? follow? limit progress text = followUpTo? follow? others progress text
  | 0, 0, _, _, _, _ => rfl
  | 0, _ + 1, progress, text, short, _ => by
    obtain rfl := List.length_eq_zero_iff.1 (Nat.le_zero.1 short)
    simp only [followUpTo?, Markup.scan_nil]
  | _ + 1, 0, progress, text, _, short => by
    obtain rfl := List.length_eq_zero_iff.1 (Nat.le_zero.1 short)
    simp only [followUpTo?, Markup.scan_nil]
  | limit + 1, others + 1, progress, text, short, shortToo => by
    simp only [followUpTo?]
    cases scanned : Markup.scan progress.place text with
    | found markup rest =>
      have fewer := Markup.advances_scan _ _ _ _ scanned
      simp only
      cases progress.step? follow? markup with
      | none => rfl
      | some stepped =>
        simp only [Option.bind_eq_bind, Option.bind_some]
        rw [followUpTo?_eq_of_le follow? limit others stepped.2 rest (by omega) (by omega)]
    | unfinished => rfl
    | malformed => rfl

/-- What following a text leads to, piece by piece. -/
theorem follow?_eq (progress : Progress) (text : List Char) :
    progress.follow? text = match Markup.scan progress.place text with
      | .unfinished => some { events := [], progress, pending := text }
      | .malformed => none
      | .found markup rest => (progress.step? followReferred? markup).bind fun stepped =>
        (stepped.2.follow? rest).map fun followed =>
          { followed with events := stepped.1 ++ followed.events } := by
  have limited : progress.follow? text =
      followUpTo? followReferred? (text.length + 1) progress text :=
    followUpTo?_eq_of_le _ _ _ _ _ (Nat.le_refl _) (Nat.le_succ _)
  rw [limited, followUpTo?]
  cases scanned : Markup.scan progress.place text with
  | found markup rest =>
    have fewer := Markup.advances_scan _ _ _ _ scanned
    simp only
    cases progress.step? followReferred? markup with
    | none => rfl
    | some stepped =>
      simp only [Option.bind_eq_bind, Option.bind_some]
      rw [followUpTo?_eq_of_le _ text.length rest.length stepped.2 rest (by omega) (Nat.le_refl _)]
      exact Option.map_eq_bind.symm
  | unfinished => rfl
  | malformed => rfl

/-! ### Reports -/

/-- What is reported of a text up to its end or the first piece that is malformed, and where
following stands at the end if it gets there: how far the document has been followed, and the
characters left. -/
structure Report where
  events : List Event
  stand? : Option (Progress × List Char)

namespace Report

/-- The report with earlier events before it. -/
def after (events : List Event) (report : Report) : Report :=
  { report with events := events ++ report.events }

/-- The report with what follows from where it stands. -/
def andThen (report : Report) (next : Progress → List Char → Report) : Report :=
  match report.stand? with
  | some (progress, pending) => (next progress pending).after report.events
  | none => report

theorem after_after (events further : List Event) (report : Report) :
    (report.after further).after events = report.after (events ++ further) := by
  simp only [after, List.append_assoc]

theorem after_andThen (events : List Event) (report : Report)
    (next : Progress → List Char → Report) :
    (report.after events).andThen next = (report.andThen next).after events := by
  obtain ⟨further, stand?⟩ := report
  cases stand? with
  | none => rfl
  | some stand => simp only [after, andThen, List.append_assoc]

end Report

/-- The report of a text, piece by piece. -/
def report (progress : Progress) (text : List Char) : Report :=
  match _ : Markup.scan progress.place text with
  | .found markup rest => match progress.step? followReferred? markup with
    | some (events, progress) => (report progress rest).after events
    | none => { events := [], stand? := none }
  | .unfinished => { events := [], stand? := some (progress, text) }
  | .malformed => { events := [], stand? := none }
termination_by text.length
decreasing_by exact Markup.advances_scan _ _ _ _ ‹_›

theorem report_eq (progress : Progress) (text : List Char) :
    progress.report text = match Markup.scan progress.place text with
      | .found markup rest => match progress.step? followReferred? markup with
        | some stepped => (stepped.2.report rest).after stepped.1
        | none => { events := [], stand? := none }
      | .unfinished => { events := [], stand? := some (progress, text) }
      | .malformed => { events := [], stand? := none } := by
  rw [report]
  split
  · simp only [*]
    split <;> simp only [*]
  · simp only [*]
  · simp only [*]

/-- What following a text leads to is what is reported of it, if the report reaches its end. -/
theorem follow?_eq_report (progress : Progress) (text : List Char) :
    progress.follow? text = (progress.report text).stand?.map fun (stand, pending) =>
      { events := (progress.report text).events, progress := stand, pending } := by
  fun_induction report progress text with
  | case1 progress text markup rest scanned events next stepped inductionHypothesis =>
    rw [follow?_eq, scanned]
    simp only [stepped, Option.bind_some, inductionHypothesis, Option.map_map]
    rfl
  | case2 progress text markup rest scanned stepped =>
    rw [follow?_eq, scanned]
    simp only [stepped]
    rfl
  | case3 progress text unfinished =>
    rw [follow?_eq, unfinished]
    rfl
  | case4 progress text malformed =>
    rw [follow?_eq, malformed]
    rfl

/-- A text can be followed in two parts: the pieces of the first are the same with the second
behind. -/
theorem report_append (progress : Progress) (text more : List Char) :
    progress.report (text ++ more) =
      (progress.report text).andThen fun stand pending => stand.report (pending ++ more) := by
  fun_induction report progress text with
  | case1 progress text markup rest scanned events next stepped inductionHypothesis =>
    have settled := (Markup.steady_scan progress.place).settled text more (by rw [scanned]; rintro ⟨⟩)
    rw [report_eq, settled, scanned, Report.after_andThen, ← inductionHypothesis]
    simp only [Scan.extended, stepped]
  | case2 progress text markup rest scanned stepped =>
    have settled := (Markup.steady_scan progress.place).settled text more (by rw [scanned]; rintro ⟨⟩)
    rw [report_eq, settled, scanned]
    simp only [Scan.extended, stepped, Report.andThen]
  | case3 progress text unfinished => rfl
  | case4 progress text malformed =>
    have settled := (Markup.steady_scan progress.place).settled text more (by rw [malformed]; rintro ⟨⟩)
    rw [report_eq, settled, malformed]
    rfl

end ApiDoc.Xml.Progress
