/-
This file compiles the schemas of all tables of a service, one after the other in the order of the
list of tables and each once. The columns of a table are not asked for before the table before it is
finished.
-/
import ApiDoc.Source.Basic
import ApiDoc.Table.Build

namespace ApiDoc.Source

open Http (Session)

variable {σ : Type}

/-- The schema of a table. -/
def buildTable (source : Source σ) (name : Text) : Attempt (Cached (Session σ)) Table := do
  let columns ← Attempt.ofWork (Cached.beside (source.columns name))
  Table.build source.queryEnumeration name columns

/-- The schemas of tables that were not seen before, for a consumer who may stop after a number of
them, where the list of tables ends in a given way. -/
def tablesFrom (source : Source σ) (ending : Except Failure Unit) (limit? : Option Nat)
    (seen : List Text) : List Text → StateM (Cached (Session σ)) (Feed Table)
  | [] => return { items := [], ending }
  | name :: rest =>
    if name ∈ seen then tablesFrom source ending limit? seen rest
    else do
      match ← (source.buildTable name).run with
      | .error failure => return .failed failure
      | .ok table =>
        if limit?.any (· ≤ 1) then return .ofList [table]
        else
          let tables ← tablesFrom source ending (limit?.map (· - 1)) (name :: seen) rest
          return tables.cons table

/-- The schemas of all tables, for a consumer who may stop after a number of them. -/
def tables (source : Source σ) (limit? : Option Nat) :
    StateM (Cached (Session σ)) (Feed Table) := do
  let names ← Cached.beside source.tableNames
  source.tablesFrom names.ending limit? [] names.items

/-- The schemas of all tables under their names, in ascending order. -/
def schemas (source : Source σ) : Attempt (Cached (Session σ)) (Dict Json) := do
  let tables ← Attempt.ofWork (source.tables none)
  let finished ← Attempt.ofExcept tables.toExcept
  return (Dict.ofEntries (finished.map fun table => (table.name, table.toJson))).sorted

end ApiDoc.Source
