/-
This file says what an export leaves of the file it writes to. An export that ends well leaves the bytes
of the text that was compiled, and any other leaves the file as it was, but for two: that the text
cannot be encoded is noticed only after the file has been emptied, and that the line which tells of the
file cannot be printed only after it has been written.
-/
import ApiDoc.Proofs.Cutting
import ApiDoc.Proofs.DeclaredFailures

namespace ApiDoc.Export

open Http (Session)

/-! ### Files -/

theorem Disk.read?_write_self (disk : Disk) (path : Path) (content : Bytes) :
    (disk.write path content).read? path = some content := by
  simp [write, read?]

/-! ### Arguments -/

/-- What stands behind an equals sign is the value of the option before it, whatever it is. -/
theorem Argument.ofText_attached {name : Text} {only : Switch}
    (unmarked : .char '=' ∉ CodePoint.char '-' :: name)
    (named : Switch.named (.char '-' :: name) = [only]) (attached : Text) :
    ofText (.char '-' :: name ++ .char '=' :: attached) = .switch only (some attached) := by
  have cut := Text.cutFirst?_append_cons unmarked attached
  rw [List.cons_append] at cut ⊢
  simp [ofText, cut, named]

namespace Arguments

/-- Texts that spell arguments: the options that are wanted, and the output behind its own. -/
def texts (arguments : Arguments) : List Text :=
  (match arguments.environment with
    | .production => []
    | .development => ["--dev"]) ++
  (match arguments.content with
    | .documentation => []
    | .models => ["--models"]) ++
  [("--output=" : Text) ++ arguments.output]

/-- The output may be anything, since it stands behind an equals sign. -/
theorem next_output (progress : Progress) (ready : progress.awaitsOutput = false) (output : Text) :
    progress.next (("--output=" : Text) ++ output) = .ok (progress.withOutput output) := by
  have named : Switch.named (.char '-' :: ("-output" : Text)) = [.output] := by decide
  have argument : Argument.ofText (("--output=" : Text) ++ output) =
      .switch .output (some output) :=
    Argument.ofText_attached (by decide) named output
  unfold Progress.next
  rw [argument]
  dsimp only
  rw [ready, if_neg Bool.false_ne_true]
  rfl

/-- All arguments can be spelled. -/
theorem ofTexts_texts (arguments : Arguments) : ofTexts arguments.texts = .ok arguments := by
  obtain ⟨environment, content, output⟩ := arguments
  have development : Progress.next {} "--dev" =
      .ok { arguments := { environment := .development } } := rfl
  have models (environment : Environment) : Progress.next { arguments := { environment } } "--models" =
      .ok { arguments := { environment, content := .models } } := rfl
  have finished (environment : Environment) (content : Content) :
      Progress.next { arguments := { environment, content } } (("--output=" : Text) ++ output) =
        .ok { arguments := { environment, content, output } } := next_output _ rfl output
  unfold ofTexts texts
  cases environment <;> cases content <;>
    simp only [List.nil_append, List.cons_append, List.foldlM_cons, development, models, finished] <;>
    rfl

end Arguments

/-! ### Reports -/

/-- An export is all or nothing: if it ends well its file holds the bytes of the text that was
compiled, and else the file is as it was. -/
structure IsAllOrNothing (before : Disk) (path : Path) (outcome : Except Failure Text)
    (report : Report) : Prop where
  written : report.ending = .exit 0 → ∃ text bytes, outcome = .ok text ∧
    Utf8.encode? text = some bytes ∧ report.disk.read? path = some bytes
  kept : report.ending ≠ .exit 0 → report.disk.read? path = before.read? path

section Reports

variable (platform : Platform) (before : Disk) (path : Path) (outcome : Except Failure Text)

/-- A file is emptied in vain: what was compiled cannot be encoded, and the file, which can be written
to, was not empty before. A file that was not there is not empty either. -/
structure IsEmptied : Prop where
  unencodable : ∃ text, outcome = .ok text ∧ Utf8.encode? text = none
  writable : platform.obstacle? before path = none
  filled : before.read? path ≠ some []

/-- A file is replaced untold: it can be written to and is given other bytes than it had, but the line
which tells so cannot be printed. -/
structure IsUntold : Prop where
  replaced : ∃ text bytes, outcome = .ok text ∧ Utf8.encode? text = some bytes ∧
    before.read? path ≠ some bytes
  writable : platform.obstacle? before path = none
  unprintable : (platform.unprintable? path.wroteLine).isSome = true

variable {platform before path outcome}

/-- What an export leaves that empties its file in vain. -/
theorem conclude_of_isEmptied (emptied : IsEmptied platform before path outcome) :
    (conclude before path outcome platform).ending = .failed .unencodable ∧
      (conclude before path outcome platform).disk.read? path = some [] := by
  obtain ⟨⟨text, rfl, unencodable⟩, writable, -⟩ := emptied
  unfold conclude save
  dsimp only
  rw [writable, unencodable]
  exact ⟨rfl, before.read?_write_self path []⟩

/-- What an export leaves that replaces its file untold. -/
theorem conclude_of_isUntold (untold : IsUntold platform before path outcome) :
    ∃ failure text bytes, platform.unprintable? path.wroteLine = some failure ∧
      (conclude before path outcome platform).ending = .failed failure ∧
      outcome = .ok text ∧ Utf8.encode? text = some bytes ∧
      (conclude before path outcome platform).disk.read? path = some bytes := by
  obtain ⟨⟨text, bytes, rfl, encoded, -⟩, writable, unprintable⟩ := untold
  obtain ⟨failure, refused⟩ := Option.isSome_iff_exists.mp unprintable
  unfold conclude save
  dsimp only
  rw [writable, encoded]
  dsimp only
  rw [refused]
  exact ⟨failure, text, bytes, rfl, rfl, rfl, encoded, before.read?_write_self path bytes⟩

/-- In every other case an export is all or nothing. -/
theorem isAllOrNothing_conclude (filled : ¬ IsEmptied platform before path outcome)
    (told : ¬ IsUntold platform before path outcome) :
    IsAllOrNothing before path outcome (conclude before path outcome platform) := by
  cases outcome with
  | error failure =>
    unfold conclude
    dsimp only
    split
    · exact ⟨nofun, fun _ => rfl⟩
    · exact ⟨nofun, fun _ => rfl⟩
  | ok text =>
    unfold conclude save
    dsimp only
    cases writable : platform.obstacle? before path with
    | some defect => exact ⟨nofun, fun _ => rfl⟩
    | none =>
      dsimp only
      cases encoded : Utf8.encode? text with
      | none =>
        refine ⟨nofun, fun _ => ?_⟩
        rw [before.read?_write_self path []]
        by_contra different
        exact filled ⟨⟨text, rfl, encoded⟩, writable, Ne.symm different⟩
      | some bytes =>
        dsimp only
        cases refused : platform.unprintable? path.wroteLine with
        | none =>
          exact ⟨fun _ => ⟨text, bytes, rfl, encoded, before.read?_write_self path bytes⟩,
            fun other => absurd rfl other⟩
        | some failure =>
          refine ⟨nofun, fun _ => ?_⟩
          rw [before.read?_write_self path bytes]
          by_contra different
          have unprintable := Option.isSome_of_eq_some refused
          exact told ⟨⟨text, bytes, rfl, encoded, Ne.symm different⟩, writable, unprintable⟩

/-- An export is all or nothing unless it empties its file in vain or replaces it untold. -/
theorem isAllOrNothing_conclude_iff :
    IsAllOrNothing before path outcome (conclude before path outcome platform) ↔
      ¬ IsEmptied platform before path outcome ∧ ¬ IsUntold platform before path outcome := by
  refine ⟨fun exactly => ⟨fun emptied => ?_, fun untold => ?_⟩,
    fun ⟨filled, told⟩ => isAllOrNothing_conclude filled told⟩
  · obtain ⟨ends, empty⟩ := conclude_of_isEmptied emptied
    have failed : (conclude before path outcome platform).ending ≠ .exit 0 := by
      rw [ends]
      exact nofun
    exact emptied.filled ((exactly.kept failed).symm.trans empty)
  · obtain ⟨_, text, bytes, _, ends, compiled, encoded, holds⟩ := conclude_of_isUntold untold
    have failed : (conclude before path outcome platform).ending ≠ .exit 0 := by
      rw [ends]
      exact nofun
    obtain ⟨_, _, same, encodedToo, different⟩ := untold.replaced
    cases compiled.symm.trans same
    cases encoded.symm.trans encodedToo
    exact different ((exactly.kept failed).symm.trans holds)

end Reports

variable {σ : Type}

/-- An export concludes from what is compiled. -/
theorem Platform.run_eq (platform : Platform) (settings : Settings) (remote : Http.Remote σ)
    (disk : Disk) {texts : List Text} {arguments : Arguments}
    (spelled : Arguments.ofTexts texts = .ok arguments) (session : Session σ) :
    platform.run settings remote disk texts session =
      (conclude disk arguments.path
          ((compile settings remote arguments platform).perform session).1 platform,
        ((compile settings remote arguments platform).perform session).2) := by
  unfold Platform.run
  rw [spelled]
  rfl

/-- The models are never what empties a file in vain. -/
theorem not_isEmptied_models (settings : Settings) (remote : Http.Remote σ) (platform : Platform)
    (disk : Disk) {arguments : Arguments} (models : arguments.content = .models)
    (session : Session σ) :
    ¬ IsEmptied platform disk arguments.path
      ((compile settings remote arguments platform).perform session).1 := by
  rintro ⟨⟨text, succeeds, unencodable⟩, -, -⟩
  unfold compile at succeeds
  rw [models] at succeeds
  have encodable := Source.isSome_toChars?_models _ session text succeeds
  rw [Utf8.encode?, Option.map_eq_none_iff] at unencodable
  rw [unencodable] at encodable
  cases encodable

/-- An export is all or nothing exactly if it neither empties its file in vain nor replaces it untold.
The first happens for the documentation alone, so that the models are all or nothing where the line
that tells of them can be printed; and in both cases the export ends with a failure of its own, after
the file has changed. -/
theorem run_allOrNothing_iff (settings : Settings) (remote : Http.Remote σ) (platform : Platform)
    (disk : Disk) {texts : List Text} {arguments : Arguments}
    (spelled : Arguments.ofTexts texts = .ok arguments) (session : Session σ) :
    let outcome := ((compile settings remote arguments platform).perform session).1
    let report := (platform.run settings remote disk texts session).1
    (IsAllOrNothing disk arguments.path outcome report ↔
        ¬ IsEmptied platform disk arguments.path outcome ∧
          ¬ IsUntold platform disk arguments.path outcome) ∧
      (arguments.content = .models → platform.unprintable? arguments.path.wroteLine = none →
        IsAllOrNothing disk arguments.path outcome report) ∧
      (IsEmptied platform disk arguments.path outcome →
        report.ending = .failed .unencodable ∧ report.disk.read? arguments.path = some []) ∧
      (IsUntold platform disk arguments.path outcome →
        ∃ failure text bytes, platform.unprintable? arguments.path.wroteLine = some failure ∧
          report.ending = .failed failure ∧ outcome = .ok text ∧
          Utf8.encode? text = some bytes ∧ report.disk.read? arguments.path = some bytes) := by
  dsimp only
  rw [platform.run_eq settings remote disk spelled session]
  refine ⟨isAllOrNothing_conclude_iff, fun models printable => ?_, conclude_of_isEmptied,
    conclude_of_isUntold⟩
  refine isAllOrNothing_conclude ?_ fun untold => ?_
  · exact not_isEmptied_models settings remote platform disk models session
  · have unprintable := untold.unprintable
    rw [printable] at unprintable
    cases unprintable

/-- Others that answer with two names for the tables and for the columns of each, with nothing to
describe, and with a document of a given title. -/
def titled (title : String) : Http.Remote Unit := fun request state =>
  match request.method with
  | .post => (.ok (.success ("\x7b\"info\": \x7b\"title\": \"" ++ title ++ "\"\x7d\x7d")), state)
  | .get =>
    if request.accept = "application/xml" then
      (.ok (.success "<list><Room/><Beds type=\"short\"/></list>"), state)
    else (.ok (.success "\x7b\x7d"), state)

/-- A platform that prints nothing but characters, no halves of pairs. -/
def strict : Platform where
  unprintable? line := if line.toChars?.isSome then none else some .unencodable

/-- The models are exported all or nothing, here over a file that was there before. -/
theorem run_allOrNothing_iff_models :
    let settings : Settings := { apiUrl := "http://host" }
    let arguments : Arguments :=
      { environment := .development, content := .models, output := "models of today.json" }
    let before : Disk := { Disk.empty with files := [(.ofText "models of today.json", [0x7b])] }
    let texts : List Text := ["--dev", "--output=models of today.json", "--mod"]
    Arguments.ofTexts texts = .ok arguments ∧ strict.unprintable? arguments.path.wroteLine = none ∧
      IsAllOrNothing before arguments.path
        ((compile settings (titled "\\ud800") arguments strict).perform { remote := () }).1
        (strict.run settings (titled "\\ud800") before texts { remote := () }).1 := by
  intro settings arguments before texts
  have spelled : Arguments.ofTexts texts = .ok arguments := by decide +kernel
  have printable : strict.unprintable? arguments.path.wroteLine = none := by decide +kernel
  exact ⟨spelled, printable,
    (run_allOrNothing_iff settings (titled "\\ud800") strict before spelled
      { remote := () }).2.1 rfl printable⟩

/-- Half of a pair in the title of a document cannot be encoded: the export fails, and the file that was
there before is empty. -/
theorem halfTitled_emptied :
    let before : Disk := { Disk.empty with files := [(.ofText "openapi.json", [0x7b])] }
    let report := (run { apiUrl := "http://host" } (titled "\\ud800") before [] { remote := () }).1
    before.read? (.ofText "openapi.json") = some [0x7b] ∧
      report.ending = .failed .unencodable ∧
      report.disk.read? (.ofText "openapi.json") = some [] := by
  decide +kernel

/-- Half of a pair in the name of the file cannot be printed: the export fails, and the file that was
there before holds other bytes. -/
theorem halfNamed_replaced :
    let path : Path := { parts := [[.surrogate ⟨0x4ff, by decide⟩]] }
    let before : Disk := { Disk.empty with files := [(path, [0x7b])] }
    let report := (strict.run { apiUrl := "http://host" } (titled "") before
      ["--models", ("--output=" : Text) ++ path.toText] { remote := () }).1
    report.ending = .failed .unencodable ∧ report.disk.read? path ≠ some [0x7b] := by
  decide +kernel

end ApiDoc.Export
