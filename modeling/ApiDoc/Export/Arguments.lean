/-
This file reads the arguments of an export. Options have long names that may be cut short as long as
one option is meant; a value stands after an equals sign or is the next argument. Whatever else is
there makes the arguments unusable.
-/
import ApiDoc.Dict
import ApiDoc.Source.Connection
import ApiDoc.Text.Digit
import ApiDoc.Text.Search

namespace ApiDoc.Export

/-- What an export writes. -/
inductive Content where
  | documentation
  | models
  deriving DecidableEq, Repr

/-- What is exported, of which environment, and where to; an empty output leaves the name of the file
to the content. -/
structure Arguments where
  environment : Environment := .production
  content : Content := .documentation
  output : Text := []
  deriving DecidableEq, Repr

/-- The options. -/
inductive Switch where
  | help
  | development
  | models
  | output
  deriving DecidableEq, Repr

namespace Switch

/-- The names of the options. -/
def names : Dict Switch :=
  [("-h", .help), ("--help", .help), ("--dev", .development), ("--models", .models),
    ("--output", .output)]

/-- The options that a name stands for: the one with this name, else those whose long names start
with it. -/
def named (name : Text) : List Switch :=
  match names.get? name with
  | some switch => [switch]
  | none =>
    if List.isPrefixOf ("--" : Text) name then
      (names.filter fun (long, _) => name.isPrefixOf long).map (·.2)
    else []

end Switch

/-! ### One argument -/

/-- An argument by itself. -/
inductive Argument where
  | value (text : Text)
  | switch (named : Switch) (attached : Option Text)
  | unknown
  | ambiguous
  deriving DecidableEq, Repr

namespace Argument

/-- Nothing but digits, of which there is one at least. -/
def isDigits (text : Text) : Bool := !text.isEmpty && text.all (·.digit?.isSome)

/-- The text after a minus sign is a number. -/
def isNumber (text : Text) : Bool :=
  match text.cutFirst? (.char '.') with
  | none => isDigits text
  | some (whole, places) => (whole.isEmpty || isDigits whole) && isDigits places

/-- What an argument is. Numbers and texts with spaces are values even after a minus sign. -/
def ofText (text : Text) : Argument :=
  match text with
  | .char '-' :: rest =>
    if rest.isEmpty then .value text
    else
      let (name, attached) := match text.cutFirst? (.char '=') with
        | some (name, attached) => (name, some attached)
        | none => (text, none)
      match Switch.named name with
      | [only] => .switch only attached
      | [] => if isNumber rest || text.contains (.char ' ') then .value text else .unknown
      | _ => .ambiguous
  | _ => .value text

end Argument

/-! ### All arguments -/

/-- Why reading ends before the last argument. -/
inductive Stop where
  | help
  | unusable
  deriving DecidableEq, Repr

/-- The arguments so far, whether the next one is the output, and whether any had no meaning. -/
structure Progress where
  arguments : Arguments := {}
  awaitsOutput : Bool := false
  hasStray : Bool := false
  deriving DecidableEq, Repr

namespace Progress

/-- The output is known. -/
def withOutput (progress : Progress) (output : Text) : Progress :=
  { progress with arguments := { progress.arguments with output }, awaitsOutput := false }

/-- The progress after an option. -/
def afterSwitch (progress : Progress) : Switch → Option Text → Except Stop Progress
  | .help, none => .error .help
  | .development, none =>
    .ok { progress with arguments := { progress.arguments with environment := .development } }
  | .models, none =>
    .ok { progress with arguments := { progress.arguments with content := .models } }
  | .output, none => .ok { progress with awaitsOutput := true }
  | .output, some output => .ok (progress.withOutput output)
  | .help, some _ | .development, some _ | .models, some _ => .error .unusable

/-- The progress after an argument. -/
def next (progress : Progress) (text : Text) : Except Stop Progress :=
  match Argument.ofText text with
  | .value output =>
    if progress.awaitsOutput then .ok (progress.withOutput output)
    else .ok { progress with hasStray := true }
  | .switch switch value =>
    if progress.awaitsOutput then .error .unusable else progress.afterSwitch switch value
  | .unknown =>
    if progress.awaitsOutput then .error .unusable else .ok { progress with hasStray := true }
  | .ambiguous => .error .unusable

/-- The arguments after the last of them. -/
def finish (progress : Progress) : Except Stop Arguments :=
  if progress.awaitsOutput || progress.hasStray then .error .unusable else .ok progress.arguments

end Progress

/-- The arguments that texts spell. -/
def Arguments.ofTexts (texts : List Text) : Except Stop Arguments := do
  Progress.finish (← texts.foldlM Progress.next {})

end ApiDoc.Export
