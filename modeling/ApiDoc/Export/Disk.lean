/-
This file defines what an export writes to: folders, files and the paths to them. A file can be
written in a folder that is there, unless its path is that of a folder.
-/
import ApiDoc.Text.Search
import ApiDoc.Text.Utf8

namespace ApiDoc.Export

/-- A path: the slashes it starts from, if any, and its parts. -/
structure Path where
  root : Text := []
  parts : List Text
  deriving DecidableEq, Repr

namespace Path

/-- The slashes that a path starts from; more than two count as one. -/
def rootOf (text : Text) : Text :=
  match (text.takeWhile (· = .char '/')).length with
  | 0 => []
  | 2 => "//"
  | _ => "/"

/-- The path that a text spells. A dot as a part and a slash too many mean nothing. -/
def ofText (text : Text) : Path :=
  { root := rootOf text
    parts := (text.splitAtMark (.char '/')).filter fun part => !part.isEmpty && part != ("." : Text) }

/-- The text of a path. -/
def toText (path : Path) : Text :=
  if path.root.isEmpty && path.parts.isEmpty then "."
  else path.root ++ Text.join "/" path.parts

/-- The folder in which a path lies. -/
def parent (path : Path) : Path := { path with parts := path.parts.dropLast }

end Path

/-- The folders and the files with their bytes. -/
structure Disk where
  folders : List Path
  files : List (Path × Bytes) := []
  deriving DecidableEq, Repr

namespace Disk

/-- Why a file cannot be written. -/
inductive Defect where
  | noFolder
  | isFolder
  deriving DecidableEq, Repr

/-- The disk of a program that runs in an empty folder. -/
def empty : Disk :=
  { folders := [{ parts := [] }, { parts := [".."] }, { root := "/", parts := [] },
      { root := "//", parts := [] }] }

/-- The bytes of a file. -/
def read? (disk : Disk) (path : Path) : Option Bytes :=
  (disk.files.find? fun (other, _) => other = path).map (·.2)

/-- Why a path cannot be written to, if it cannot. -/
def defect? (disk : Disk) (path : Path) : Option Defect :=
  if disk.folders.contains path then some .isFolder
  else if disk.folders.contains path.parent then none
  else some .noFolder

/-- The disk with the bytes as the file at a path. -/
def write (disk : Disk) (path : Path) (content : Bytes) : Disk :=
  { disk with files := (path, content) :: disk.files.filter fun (other, _) => other ≠ path }

end Disk

end ApiDoc.Export
