/-
This file finds, replaces and cuts fragments of a text. Replacement runs from left to right and the
occurrences it replaces do not overlap.
-/
import ApiDoc.Text.Basic

namespace ApiDoc.Text

/-- The fragment occurs somewhere in the text. -/
def mentions (text fragment : Text) : Bool :=
  match text with
  | [] => fragment.isEmpty
  | point :: rest => fragment.isPrefixOf (point :: rest) || mentions rest fragment

/-- Replaces occurrences once the first `covered` code points, which the last replacement has
already consumed, are passed. -/
def replaceFrom (fragment replacement : Text) : Nat → Text → Text
  | _, [] => []
  | covered + 1, _ :: rest => replaceFrom fragment replacement covered rest
  | 0, point :: rest =>
    if fragment.isPrefixOf (point :: rest) then
      replacement ++ replaceFrom fragment replacement (fragment.length - 1) rest
    else point :: replaceFrom fragment replacement 0 rest

/-- The text with every occurrence of a non-empty fragment replaced. -/
def replacing (text fragment replacement : Text) : Text :=
  replaceFrom fragment replacement 0 text

/-- What follows the first mark, if there is one. -/
def afterFirst? (mark : CodePoint) : Text → Option Text
  | [] => none
  | point :: rest => if point = mark then some rest else afterFirst? mark rest

/-- What precedes the first mark and what follows it, if there is one. -/
def cutFirst? (mark : CodePoint) : Text → Option (Text × Text)
  | [] => none
  | point :: rest =>
    if point = mark then some ([], rest)
    else (cutFirst? mark rest).map fun (before, after) => (point :: before, after)

/-- What follows the last mark, or the whole text if there is none. -/
def afterLast (mark : CodePoint) : Text → Text
  | [] => []
  | point :: rest =>
    if mark ∈ rest then afterLast mark rest
    else if point = mark then rest
    else point :: rest

/-- The text without the marks at its end. -/
def dropTrailing (mark : CodePoint) (text : Text) : Text :=
  (text.reverse.dropWhile (· = mark)).reverse

/-- The pieces of a text between the marks, which are one more than the marks. -/
def splitAtMark (mark : CodePoint) : Text → List Text
  | [] => [[]]
  | point :: rest =>
    if point = mark then [] :: splitAtMark mark rest
    else match splitAtMark mark rest with
      | [] => [[point]]
      | piece :: pieces => (point :: piece) :: pieces

end ApiDoc.Text
