/-
This file says what a path tells by its fragments, and corrects the paths that are spelled wrongly or
lack their format.
-/
import ApiDoc.Text.Search

namespace ApiDoc.Path

/-- Fragments of the paths that read. -/
def readFragments : List Text := ["databaseinfo", "attachment", "select", "test", "get"]

/-- The path reads, as long as nothing sends a body. -/
def reads (path : Text) : Bool :=
  (path.mentions "photo" && !path.mentions "set") || readFragments.any path.mentions

/-- The path runs a report. -/
def isReport (path : Text) : Bool := path.mentions "getreport"

/-- The path answers a query and is no report. -/
def isQuery (path : Text) : Bool := path.mentions "query" && !isReport path

/-- The format of a report, as a template in its path. -/
def formatTemplate : Text := "\x7bformat\x7d"

/-- What the path of a report ends in. -/
def formatEnding : Text := .char '.' :: formatTemplate

/-- The path says its format by a template. -/
def hasFormat (path : Text) : Bool := path.mentions formatTemplate

/-- The path with its table template spelled in camel case. -/
def withTableName (path : Text) : Text := path.replacing "tablename" "tableName"

/-- The path with the format that a report needs. -/
def withReportFormat (path : Text) : Text :=
  if isReport path && !formatEnding.isSuffixOf path then path ++ formatEnding else path

/-- The path after both corrections. -/
def corrected (path : Text) : Text := withReportFormat (withTableName path)

end ApiDoc.Path
