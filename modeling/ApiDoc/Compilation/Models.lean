/-
This file writes the schemas of all tables as one JSON object, piece by piece as the tables are
finished. The pieces hold nothing but ASCII.
-/
import ApiDoc.Compilation.Tables
import ApiDoc.Json.Printer

namespace ApiDoc

/-- A table as a member of an object. -/
def Table.member (table : Table) : Text :=
  Text.ofPieces [Json.write .spacedAscii (.string table.name), ":", table.toJson.write .spacedAscii]

namespace Source

open Http (Session)

variable {σ : Type}

/-- The members of an object, with commas between them. -/
def memberChunks : List Table → List Text
  | [] => []
  | first :: rest => first.member :: rest.map fun table => Text.ofPieces [",", table.member]

/-- The pieces of the object, for a consumer who may stop after a number of them. -/
def modelChunks (source : Source σ) (limit? : Option Nat) :
    StateM (Cached (Session σ)) (Feed Text) := do
  if limit?.any (· ≤ 1) then return .ofList ["\x7b"]
  else
    let tables ← source.tables (limit?.map (· - 1))
    let chunks : List Text := "\x7b" :: memberChunks tables.items
    if limit?.any (· ≤ chunks.length) then return .ofList chunks
    else match tables.ending with
      | .ok () => return .ofList (chunks ++ [("\x7d" : Text)])
      | .error failure => return { items := chunks, ending := .error failure }

/-- The text of the object. -/
def models (source : Source σ) : Attempt (Session σ) Text := Cached.fresh do
  let chunks ← Attempt.ofWork (source.modelChunks none)
  let finished ← Attempt.ofExcept chunks.toExcept
  return Text.ofPieces finished

end Source

end ApiDoc
