/-
This file exports the documentation or the models of a service to a file. A declared failure is
logged and leaves the disk as it was, and so does every other failure of the compilation. Only two
things can still fail after the file has been opened: to write down the text that was compiled, and to
print that it was written.
-/
import ApiDoc.Compilation.Documentation
import ApiDoc.Compilation.Models
import ApiDoc.Export.Arguments
import ApiDoc.Export.Disk

namespace ApiDoc.Export

open Http (Session)

/-- How an export ends. -/
inductive Ending where
  | exit (code : Nat)
  | failed (failure : Failure)
  | unwritten (defect : Disk.Defect)
  deriving DecidableEq, Repr

/-- What an export leaves behind: the disk, what it printed and what it logged. -/
structure Report where
  ending : Ending
  disk : Disk
  printed : Text := []
  log : List Text := []
  deriving DecidableEq, Repr

/-- Where an export runs: the limits that are set to it, what else the system has against a path than
that it does not lie in a folder or is one, and what comes in the way of printing a line, since the
output has an encoding of its own. -/
structure Platform where
  limits : Limits := {}
  room : Room := {}
  objection? : Path → Option Disk.Defect := fun _ => none
  unprintable? : Text → Option Failure := fun _ => none

/-- The path that an export writes to. -/
def Arguments.path (arguments : Arguments) : Path :=
  if arguments.output.isEmpty then match arguments.content with
    | .documentation => .ofText "openapi.json"
    | .models => .ofText "models.json"
  else .ofText arguments.output

/-- The line that tells what was written. -/
def Path.wroteLine (path : Path) : Text := Text.ofPieces ["wrote ", path.toText, "\n"]

/-- Why a path cannot be written to, if it cannot. -/
def Platform.obstacle? (platform : Platform) (disk : Disk) (path : Path) : Option Disk.Defect :=
  (disk.defect? path).or (platform.objection? path)

/-- The report on a text that was compiled and is to be written to a path. -/
def save (disk : Disk) (path : Path) (text : Text) (platform : Platform := {}) : Report :=
  match platform.obstacle? disk path with
  | some defect => { ending := .unwritten defect, disk }
  | none => match Utf8.encode? text with
    | none => { ending := .failed .unencodable, disk := disk.write path [] }
    | some bytes =>
      let disk := disk.write path bytes
      match platform.unprintable? path.wroteLine with
      | some failure => { ending := .failed failure, disk }
      | none => { ending := .exit 0, disk, printed := path.wroteLine }

/-- The report on the outcome of a compilation. -/
def conclude (disk : Disk) (path : Path) (outcome : Except Failure Text)
    (platform : Platform := {}) : Report :=
  match outcome with
  | .ok text => save disk path text platform
  | .error failure =>
    if failure.isDeclared then
      { ending := .exit 1, disk, log := [Text.ofPieces ["Export failed: ", failure.message]] }
    else { ending := .failed failure, disk }

variable {σ : Type}

/-- Compiles what the arguments ask for. -/
def compile (settings : Settings) (remote : Http.Remote σ) (arguments : Arguments)
    (platform : Platform := {}) : Attempt (Session σ) Text :=
  let source : Source σ :=
    { connection := settings.connection none none, environment := arguments.environment, remote
      limits := platform.limits }
  match arguments.content with
  | .models => source.models
  | .documentation =>
    source.documentation (settings.converter [] remote platform.limits) platform.room

/-- Exports what the arguments ask for. Without usable arguments nothing is asked for or written. -/
def Platform.run (platform : Platform) (settings : Settings) (remote : Http.Remote σ) (disk : Disk)
    (arguments : List Text) : StateM (Session σ) Report :=
  match Arguments.ofTexts arguments with
  | .error .help => return { ending := .exit 0, disk }
  | .error .unusable => return { ending := .exit 2, disk }
  | .ok arguments => do
    return conclude disk arguments.path (← (compile settings remote arguments platform).run) platform

/-- Exports where nothing else is known of the platform. -/
def run (settings : Settings) (remote : Http.Remote σ) (disk : Disk) (arguments : List Text) :
    StateM (Session σ) Report := Platform.run {} settings remote disk arguments

end ApiDoc.Export
