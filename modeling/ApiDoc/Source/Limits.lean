/-
This file defines the limits to what a run exchanges with others. An interpreter allows a number of
calls within each other, and reading or writing JSON takes a call wherever one part of it lies within
another. How deep it may nest depends on what is done with it, and on how many calls are open at that
place.
-/
import ApiDoc.Json.Reader

namespace ApiDoc

/-- How deep the JSON of a description, of the rows of an enumeration and of a converted document may
nest, and which descriptions can be written down for the converter. -/
structure Limits where
  description : Nat := Json.maximalDepth
  rows : Nat := Json.maximalDepth
  converted : Nat := Json.maximalDepth
  sends : Json → Bool := fun _ => true

end ApiDoc
