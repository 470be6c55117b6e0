/-
This file is the command line of an export. It reads the settings from the environment and from the
file `.env`, and it leaves the sending of requests to whoever started it: every request is a line on
standard output, and the reply is the next line of standard input.
-/
import ApiDoc.Export.Run
import ApiDoc.Http.Replay

namespace ApiDoc.Main

open Http (Reply Request Session)

/-! ### Settings -/

/-- The names of the variables that settings are read from. -/
def variableNames : List String :=
  ["STARREZ_API_URL", "STARREZ_API_USER", "STARREZ_API_KEY", "STARREZ_TIMEOUT_SECONDS",
    "SWAGGER_CONVERTER_URL", "CORS_ORIGINS", "LOG_LEVEL"]

/-- The variables of the environment that are settings. -/
def environment : IO (Dict Text) :=
  variableNames.filterMapM fun name => do
    return (← IO.getEnv name).map fun value => (Text.ofString name, Text.ofString value)

/-- The text of a file, or nothing if it cannot be read. -/
def readOptional (name : String) : IO String := do
  try IO.FS.readFile name catch _ => return ""

/-- The settings. -/
def settings : IO (Validated Settings) := do
  let environment ← environment
  let file := EnvFile.definitions environment (← readOptional ".env")
  return Settings.ofSources { environment, file }

/-! ### Files -/

/-- The disk as far as a path is concerned. The folder of the file is taken to be there until the file
is written. -/
def disk (path : Export.Path) : Export.Disk := { folders := [path.parent] }

/-- Writes the files that an export has written. -/
def writeFiles (disk : Export.Disk) : IO Unit :=
  disk.files.forM fun (path, content) =>
    IO.FS.writeBinFile path.toText.display (ByteArray.mk content.toArray)

/-! ### Requests -/

/-- Replays a run until all of its requests have replies. -/
partial def converse (run : StateM (Session (List Reply)) Export.Report) (replies : List Reply) :
    IO Export.Report := do
  let (report, session) := run.run { remote := replies }
  match Http.Replay.next? replies session with
  | none => return report
  | some request => do
    let output ← IO.getStdout
    output.putStrLn (request.toJson.write .spacedAscii).display
    output.flush
    let line ← (← IO.getStdin).getLine
    converse run (replies ++ [Reply.ofLine (Text.ofString line)])

/-! ### Export -/

/-- The path that the arguments name, if they can be used. -/
def path (arguments : List Text) : Export.Path :=
  match Export.Arguments.ofTexts arguments with
  | .ok arguments => arguments.path
  | .error _ => .ofText ""

/-- Tells how an export ended, and gives the code to exit with. -/
def conclude : Export.Ending → IO UInt32
  | .exit code => return code.toUInt32
  | .failed failure => do
    IO.eprintln s!"export failed: {failure.message.display}"
    return 1
  | .unwritten _ => do
    IO.eprintln "export failed: the output cannot be written"
    return 1

/-- Exports with given settings. -/
def perform (settings : Settings) (arguments : List Text) : IO UInt32 := do
  let disk := disk (path arguments)
  let report ← converse (Export.run settings Http.Replay.remote disk arguments) []
  report.log.forM fun line => IO.eprintln line.display
  writeFiles report.disk
  IO.print report.printed.display
  conclude report.ending

/-- Exports with the settings that are found. -/
def start (arguments : List Text) : IO UInt32 := do
  match ← settings with
  | .invalid _ => do
    IO.eprintln "export failed: the settings cannot be read"
    return 1
  | .valid settings => perform settings arguments

end ApiDoc.Main

/-- Exports the documentation or the models of a service to a file. -/
def main (arguments : List String) : IO UInt32 :=
  ApiDoc.Main.start (arguments.map ApiDoc.Text.ofString)
