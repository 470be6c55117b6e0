/-
This file proves that scanners keep their judgement: what is found stays found, with the same item,
when more characters arrive, and what is malformed stays malformed. Only a scanner that says that an
item is unfinished has not judged yet. Each way of combining scanners gets one rule, and the scanner
of a construct of markup follows the rules in the order in which it is built.
-/
import ApiDoc.Xml.Markup

namespace ApiDoc.Xml

variable {α β : Type}

/-- The judgement of a scanner with more characters after the ones it has not taken. -/
def Scan.extended (more : List Char) : Scan α → Scan α
  | .found item rest => .found item (rest ++ more)
  | .unfinished => .unfinished
  | .malformed => .malformed

namespace Scanner

/-- A scanner that keeps its judgement when more characters arrive and never gives characters back.
-/
structure Steady (scanner : Scanner α) : Prop where
  settled : ∀ text more, scanner text ≠ .unfinished →
    scanner (text ++ more) = (scanner text).extended more
  shrinks : ∀ text item rest, scanner text = .found item rest → rest.length ≤ text.length

/-- A scanner that takes a character at least whenever it finds something. -/
def Advances (scanner : Scanner α) : Prop :=
  ∀ text item rest, scanner text = .found item rest → rest.length < text.length

/-! ### Rules for the ways of combining scanners -/

theorem bind_apply (first : Scanner α) (next : α → Scanner β) (text : List Char) :
    (first >>= next) text = match first text with
      | .found item rest => next item rest
      | .unfinished => .unfinished
      | .malformed => .malformed := rfl

theorem pure_apply (item : α) (text : List Char) :
    (pure item : Scanner α) text = .found item text :=
  rfl

/-- Two scanners in a row find something only if each of them does. -/
theorem found_of_bind {first : Scanner α} {next : α → Scanner β} {text rest : List Char} {found : β}
    (scanned : (first >>= next) text = .found found rest) :
    ∃ item middle, first text = .found item middle ∧ next item middle = .found found rest := by
  rw [bind_apply] at scanned
  split at scanned
  · exact ⟨_, _, ‹_›, scanned⟩
  · exact nomatch scanned
  · exact nomatch scanned

theorem Steady.pure (item : α) : Steady (Pure.pure item : Scanner α) where
  settled _ _ _ := rfl
  shrinks text found rest scanned := by
    rw [pure_apply] at scanned
    cases scanned
    exact Nat.le_refl _

theorem Steady.reject : Steady (reject : Scanner α) where
  settled _ _ _ := rfl
  shrinks _ _ _ scanned := nomatch scanned

theorem Steady.next : Steady next where
  settled
    | [], _, judged => absurd rfl judged
    | _ :: _, _, _ => rfl
  shrinks
    | _ :: _, _, _, scanned => by cases scanned; exact Nat.le_succ _

theorem Steady.peek : Steady peek where
  settled
    | [], _, judged => absurd rfl judged
    | _ :: _, _, _ => rfl
  shrinks
    | _ :: _, _, _, scanned => by cases scanned; exact Nat.le_refl _

/-- What comes after a steady scanner is asked about the same characters, whether more of them have
arrived behind or not. -/
theorem Steady.bind {first : Scanner α} {next : α → Scanner β} (steadyFirst : Steady first)
    (steadyNext : ∀ item, Steady (next item)) : Steady (first >>= next) where
  settled text more judged := by
    have settledFirst := steadyFirst.settled text more
    rw [bind_apply] at judged ⊢
    rw [bind_apply]
    cases scanned : first text with
    | found item rest =>
      rw [scanned] at judged settledFirst
      rw [settledFirst nofun]
      exact (steadyNext item).settled rest more judged
    | unfinished =>
      rw [scanned] at judged
      exact absurd rfl judged
    | malformed =>
      rw [scanned] at settledFirst
      rw [settledFirst nofun]
      rfl
  shrinks text found rest scanned := by
    obtain ⟨item, middle, taken, followed⟩ := found_of_bind scanned
    exact Nat.le_trans ((steadyNext item).shrinks _ _ _ followed) (steadyFirst.shrinks _ _ _ taken)

theorem Steady.ite {condition : Prop} [Decidable condition] {first second : Scanner α}
    (steadyFirst : Steady first) (steadySecond : Steady second) :
    Steady (if condition then first else second) := by
  split
  · exact steadyFirst
  · exact steadySecond

theorem Advances.reject : Advances (reject : Scanner α) := nofun

theorem Advances.next : Advances next
  | _ :: _, _, _, scanned => by cases scanned; exact Nat.lt_succ_self _

theorem Advances.bind {first : Scanner α} {next : α → Scanner β} (advances : Advances first)
    (steadyNext : ∀ item, Steady (next item)) : Advances (first >>= next) := by
  intro text found rest scanned
  obtain ⟨item, middle, taken, followed⟩ := found_of_bind scanned
  exact Nat.lt_of_le_of_lt ((steadyNext item).shrinks _ _ _ followed) (advances _ _ _ taken)

/-- It is enough that what comes second takes a character. -/
theorem Steady.advances_bind {first : Scanner α} {next : α → Scanner β} (steadyFirst : Steady first)
    (advances : ∀ item, Advances (next item)) : Advances (first >>= next) := by
  intro text found rest scanned
  obtain ⟨item, middle, taken, followed⟩ := found_of_bind scanned
  exact Nat.lt_of_lt_of_le (advances item _ _ _ followed) (steadyFirst.shrinks _ _ _ taken)

theorem Advances.ite {condition : Prop} [Decidable condition] {first second : Scanner α}
    (advancesFirst : Advances first) (advancesSecond : Advances second) :
    Advances (if condition then first else second) := by
  split
  · exact advancesFirst
  · exact advancesSecond

/-! ### Rows of characters -/

theorem Steady.expect (wanted : Char) : Steady (expect wanted) :=
  Steady.next.bind fun _ => .ite (.pure ()) .reject

theorem Advances.expect (wanted : Char) : Advances (expect wanted) :=
  Advances.next.bind fun _ => .ite (.pure ()) .reject

theorem Steady.expectAll : ∀ wanted, Steady (expectAll wanted)
  | [] => .pure ()
  | wanted :: rest => (Steady.expect wanted).bind fun _ => .expectAll rest

theorem Steady.take : ∀ count, Steady (take count)
  | 0 => .pure []
  | count + 1 => Steady.next.bind fun _ => (Steady.take count).bind fun _ => .pure _

theorem Steady.expectTogether (wanted : List Char) : Steady (expectTogether wanted) :=
  (Steady.take _).bind fun _ => .ite (.pure ()) .reject

theorem Advances.expectAll {wanted : List Char} (some : wanted ≠ []) :
    Advances (expectAll wanted) := by
  cases wanted with
  | nil => exact absurd rfl some
  | cons first rest => exact (Advances.expect first).bind fun _ => .expectAll rest

theorem Steady.accept? (item? : Option α) : Steady (accept? item?) := by
  cases item? with
  | none => exact .reject
  | some item => exact .pure item

/-- A row ends only at a character of another class, so it is complete once it has ended. -/
theorem Steady.takeWhile (accepts : Char → Bool) : Steady (takeWhile accepts) where
  settled text more judged := by
    induction text with
    | nil => exact absurd rfl judged
    | cons character rest inductionHypothesis =>
      simp only [Scanner.takeWhile, run, List.cons_append] at judged inductionHypothesis ⊢
      split at judged <;> rename_i accepted
      · cases scanned : run accepts rest with
        | found characters others =>
          rw [scanned] at inductionHypothesis
          simp [accepted, inductionHypothesis nofun, Scan.extended]
        | unfinished => exact absurd (by rw [scanned]) judged
        | malformed =>
          rw [scanned] at inductionHypothesis
          simp [accepted, inductionHypothesis nofun, Scan.extended]
      · simp [accepted, Scan.extended]
  shrinks text := by
    induction text with
    | nil => exact nofun
    | cons character others inductionHypothesis =>
      intro characters rest scanned
      simp only [Scanner.takeWhile, run] at scanned inductionHypothesis
      split at scanned
      · cases further : run accepts others with
        | found characters remaining =>
          rw [further] at scanned
          cases scanned
          exact Nat.le_succ_of_le (inductionHypothesis _ _ further)
        | unfinished => rw [further] at scanned; exact nomatch scanned
        | malformed => rw [further] at scanned; exact nomatch scanned
      · cases scanned
        exact Nat.le_refl _

theorem Steady.skipSpaces : Steady skipSpaces :=
  (Steady.takeWhile isSpace).bind fun _ => .pure ()

theorem Steady.name : Steady name :=
  Steady.next.bind fun _ => .ite ((Steady.takeWhile _).bind fun _ => .pure _) .reject

theorem Advances.name : Advances name :=
  Advances.next.bind fun _ => .ite ((Steady.takeWhile _).bind fun _ => .pure _) .reject

theorem steady_afterName (first : List Char) :
    Steady (do
      if (← Scanner.peek) = ':' then
        Scanner.expect ':'
        return first ++ ':' :: (← Scanner.name)
      else return first) :=
  Steady.peek.bind fun _ =>
    .ite ((Steady.expect _).bind fun _ => Steady.name.bind fun _ => .pure _) (.pure _)

theorem Steady.qualifiedName : Steady qualifiedName :=
  Steady.name.bind steady_afterName

theorem Advances.qualifiedName : Advances qualifiedName := Advances.name.bind steady_afterName

/-! ### Rounds -/

theorem Steady.roundsUpTo {round : Scanner (Round α β)} (steady : Steady round) :
    ∀ limit, Steady (roundsUpTo round limit)
  | [] => .reject
  | _ :: limit => steady.bind fun
    | .last _ => .pure _
    | .item _ => (roundsUpTo steady limit).bind fun _ => .pure _

/-- Every item takes a character, so rounds never use up the marks of a limit longer than the text.
-/
theorem roundsUpTo_eq_of_lt {round : Scanner (Round α β)} (advances : Advances round) :
    ∀ (limit others text : List Char), text.length < limit.length → text.length < others.length →
      roundsUpTo round limit text = roundsUpTo round others text
  | _ :: limit, _ :: others, text, short, shortToo => by
    simp only [Scanner.roundsUpTo, bind_apply]
    cases taken : round text with
    | found found rest =>
      cases found with
      | last value => rfl
      | item value =>
        have fewer := advances _ _ _ taken
        simp only [List.length_cons] at short shortToo
        simp only [bind_apply]
        rw [roundsUpTo_eq_of_lt advances limit others rest (by omega) (by omega)]
    | unfinished => rfl
    | malformed => rfl

theorem Steady.rounds {round : Scanner (Round α β)} (steady : Steady round)
    (advances : Advances round) : Steady (rounds round) where
  settled text more judged := by
    have sameLimit :
        Scanner.rounds round text = Scanner.roundsUpTo round (' ' :: text ++ more) text :=
      roundsUpTo_eq_of_lt advances _ _ _ (by simp)
        (by simp only [List.cons_append, List.length_cons, List.length_append]; omega)
    rw [sameLimit] at judged ⊢
    exact (Steady.roundsUpTo steady _).settled text more judged
  shrinks text := (Steady.roundsUpTo steady _).shrinks text

end Scanner

/-! ### References and values -/

theorem Reference.steady_scanNumber (base : Nat) : (scanNumber base).Steady :=
  (Scanner.Steady.takeWhile _).bind fun _ =>
    .ite .reject ((Scanner.Steady.expect _).bind fun _ => .pure _)

theorem Reference.steady_scan : scan.Steady :=
  Scanner.Steady.peek.bind fun _ => .ite
    ((Scanner.Steady.expect _).bind fun _ => Scanner.Steady.peek.bind fun _ => .ite
      ((Scanner.Steady.expect _).bind fun _ => steady_scanNumber 16) (steady_scanNumber 10))
    (Scanner.Steady.name.bind fun _ => (Scanner.Steady.expect _).bind fun _ => .pure _)

namespace Piece

theorem steady_afterCharacter (mark character : Char) :
    Scanner.Steady (α := Round Piece Unit) (if character = mark then pure (.last ())
      else if character = '<' then Scanner.reject
      else if character = '&' then do return .item (.referred (← Reference.scan))
      else pure (.item (.plain character))) :=
  .ite (.pure _) (.ite .reject (.ite (Reference.steady_scan.bind fun _ => .pure _) (.pure _)))

theorem steady_scanOrEnd (mark : Char) : (scanOrEnd mark).Steady :=
  Scanner.Steady.next.bind (steady_afterCharacter mark)

theorem advances_scanOrEnd (mark : Char) : (scanOrEnd mark).Advances :=
  Scanner.Advances.next.bind (steady_afterCharacter mark)

theorem steady_scanValue (mark : Char) : (scanValue mark).Steady :=
  ((steady_scanOrEnd mark).rounds (advances_scanOrEnd mark)).bind fun _ => .pure _

end Piece

end ApiDoc.Xml
