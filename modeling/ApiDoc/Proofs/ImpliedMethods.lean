/-
This file says under which methods a corrected path has operations, and where they come from. The path
and the bodies that are sent tell where a POST goes; every operation that nothing is put in place of
stays under its method.
-/
import ApiDoc.Proofs.Endpoints
import Mathlib.Data.Finset.Basic

namespace ApiDoc

/-! ### Where a POST goes -/

namespace Path

/-- The methods that a POST moves to, if it does not stay. A path that reads moves it only if no body
is sent. -/
def destination? (path : Text) (sendsBody : Bool) : Option (Finset Method) :=
  if reads path && !sendsBody then some {.get}
  else if path.mentions "delete" then some {.delete}
  else if path.mentions "update" && !path.mentions "post" then some {.patch, .put}
  else none

/-- The methods that a path has after its correction, told from those before. -/
def impliedMethods (path : Text) (sendsBody : Bool) (methods : Finset Method) : Finset Method :=
  if .post ∈ methods then
    match destination? path sendsBody with
    | some targets => methods.erase .post ∪ targets ∪ if isQuery path then {.get} else ∅
    | none => methods ∪ if path.mentions "query" then {.get} else ∅
  else methods

/-- What a path makes of its POST is put under the method, whatever stands there. -/
def PutsUnder (path : Text) (sendsBody : Bool) (method : Method) : Prop :=
  (∃ targets ∈ destination? path sendsBody, method ∈ targets) ∨
    (isQuery path = true ∧ method = .get)

end Path

namespace Operation

/-- The operation with the parameter that the path of a report asks for. -/
def asked (path : Text) (operation : Operation) : Operation :=
  if Path.isReport path then operation.addReportFormat else operation

/-- The operation that a path makes of a POST, wherever it goes. -/
def posted (path : Text) (post : Operation) : Operation :=
  if Path.isQuery path then post.asStarqlPost else post.asked path

/-- The operation that a path makes of one that stays under its method. -/
def completed (path : Text) (operation : Operation) : Operation :=
  (operation.asked path).correct path

@[simp] theorem asked_extra (path : Text) (operation : Operation) :
    (operation.asked path).extra = operation.extra := by
  unfold asked addReportFormat
  split
  · split <;> rfl
  · rfl

@[simp] theorem asked_requestBody (path : Text) (operation : Operation) :
    (operation.asked path).requestBody = operation.requestBody := by
  unfold asked addReportFormat
  split
  · split <;> rfl
  · rfl

@[simp] theorem posted_extra (path : Text) (post : Operation) :
    (post.posted path).extra = post.extra := by
  unfold posted
  split
  · rfl
  · exact asked_extra path post

end Operation

namespace PathItem

/-! ### Methods and bodies -/

/-- The methods that have an operation. -/
def methods (item : PathItem) : Finset Method := (item.operations.map Prod.fst).toFinset

/-- Some operation sends a body, which a POST of queries does in any case. -/
def sendsBody (path : Text) (item : PathItem) : Bool := Path.isQuery path || item.hasBody

theorem mem_methods (item : PathItem) (method : Method) :
    method ∈ item.methods ↔ (item.operation? method).isSome = true := by
  rw [methods, List.mem_toFinset, List.mem_map, Option.isSome_iff_exists]
  constructor
  · rintro ⟨⟨_, operation⟩, member, rfl⟩
    exact ⟨operation, (mem_operations_iff item _ operation).mp member⟩
  · rintro ⟨operation, found⟩
    exact ⟨_, (mem_operations_iff item method operation).mpr found, rfl⟩

variable {path : Text} {item : PathItem} {post : Operation}

/-! ### What a path asks for -/

/-- Under a path that takes no queries every operation gets what is missing, and stays where it is. -/
theorem addMissing_of_not_isQuery (ordinary : Path.isQuery path = false) :
    item.addMissing path = item.mapOperations (Operation.asked path) := by
  by_cases reports : Path.isReport path = true
  · have asks : Operation.asked path = Operation.addReportFormat := funext fun _ => if_pos reports
    rw [addMissing, if_pos reports, asks]
  · have asks : Operation.asked path = id := funext fun _ => if_neg reports
    rw [Bool.not_eq_true] at reports
    rw [Path.isQuery, reports, Bool.not_false, Bool.and_true] at ordinary
    rw [addMissing, reports, ordinary, asks]
    exact (mapOperations_eq_self fun _ _ _ => rfl).symm

theorem addMissing_eq_addStarql (queries : Path.isQuery path = true) :
    item.addMissing path = item.addStarql := by
  rw [Path.isQuery, Bool.and_eq_true, Bool.not_eq_true'] at queries
  rw [addMissing, queries.1, queries.2]
  rfl

/-- A POST that takes queries comes twice, with a body as a POST and without as a GET. -/
theorem addMissing_of_isQuery (queries : Path.isQuery path = true) (given : item.post = some post) :
    item.addMissing path =
      (item.setOperation .post (some post.asStarqlPost)).setOperation .get
        (some post.asStarqlGet) := by
  rw [addMissing_eq_addStarql queries, addStarql, given]
  rfl

theorem asked_of_isQuery (queries : Path.isQuery path = true) (operation : Operation) :
    operation.asked path = operation := by
  rw [Path.isQuery, Bool.and_eq_true, Bool.not_eq_true'] at queries
  rw [Operation.asked, queries.2, if_neg Bool.false_ne_true]

theorem operation?_addMissing_of_unposted (lacks : item.post = none) (method : Method) :
    (item.addMissing path).operation? method =
      (item.operation? method).map (Operation.asked path) := by
  cases queries : Path.isQuery path with
  | false => rw [addMissing_of_not_isQuery queries, operation?_mapOperations]
  | true =>
    have unchanged : item.addMissing path = item :=
      (addMissing_eq_addStarql queries).trans (addStarql_of_post_none lacks)
    have asks : Operation.asked path = id := funext (asked_of_isQuery queries)
    rw [unchanged, asks, Option.map_id, id_eq]

theorem operation?_addMissing_of_posted (given : item.post = some post) (method : Method) :
    (item.addMissing path).operation? method =
      if method = .post then some (post.posted path)
      else if Path.isQuery path = true ∧ method = .get then some post.asStarqlGet
      else (item.operation? method).map (Operation.asked path) := by
  cases queries : Path.isQuery path with
  | false =>
    rw [addMissing_of_not_isQuery queries, operation?_mapOperations, Operation.posted, queries]
    simp only [Bool.false_eq_true, false_and, if_false]
    split
    · rename_i same
      rw [same, show item.operation? .post = some post from given, Option.map_some]
    · rfl
  | true =>
    have asks : Operation.asked path = id := funext (asked_of_isQuery queries)
    rw [addMissing_of_isQuery queries given, Operation.posted, queries, asks, Option.map_id]
    simp only [operation?_setOperation, true_and, if_true, id_eq]
    cases method <;> rfl

/-- With what is missing added, a body is sent if one was before, or if queries are taken. -/
theorem hasBody_addMissing (given : item.post = some post) :
    (item.addMissing path).hasBody = item.sendsBody path := by
  cases queries : Path.isQuery path with
  | false =>
    rw [addMissing_of_not_isQuery queries, sendsBody, queries, Bool.false_or]
    exact hasBody_mapOperations (Operation.asked_requestBody path) item
  | true =>
    rw [sendsBody, queries, Bool.true_or, hasBody_iff]
    refine ⟨.post, post.asStarqlPost, ?_, rfl⟩
    rw [addMissing_of_isQuery queries given]
    rfl

/-! ### Where the operations are -/

/-- Where a POST goes, its place is empty; where it stays, it may come as a GET too. -/
theorem operation?_correctMethods (posted : item.post = some post) (method : Method) :
    (item.correctMethods path).operation? method =
      match Path.destination? path item.hasBody with
      | some targets =>
        if method ∈ targets then some post
        else if method = .post then none
        else item.operation? method
      | none =>
        if method = .get ∧ path.mentions "query" = true ∧ item.get = none then some post
        else item.operation? method := by
  have choice := methodChoice_correctMethods path item
  generalize item.correctMethods path = chosen at choice
  cases choice with
  | absent lacks => cases lacks.symm.trans posted
  | read first given reads bodiless =>
    cases posted.symm.trans given
    simp only [Path.destination?, reads, bodiless, operation?_setOperation]
    cases method <;> simp
  | delete first given stays deletes =>
    cases posted.symm.trans given
    simp only [Path.destination?, stays, deletes, operation?_setOperation]
    cases method <;> simp
  | update first given stays keeps updates =>
    cases posted.symm.trans given
    simp only [Path.destination?, stays, keeps, updates, operation?_setOperation]
    cases method <;> simp
  | query first given stays keeps creates queries ungotten =>
    cases posted.symm.trans given
    simp only [Path.destination?, stays, keeps, creates, queries, ungotten,
      operation?_setOperation]
    cases method <;> simp
  | keep first given stays keeps creates satisfied =>
    simp only [Path.destination?, stays, keeps, creates, Bool.false_eq_true, if_false]
    rw [if_neg]
    rintro ⟨-, queries, ungotten⟩
    rw [queries, ungotten] at satisfied
    cases satisfied

theorem operation?_corrected_of_unposted (lacks : item.post = none) (method : Method) :
    (item.corrected path).operation? method =
      (item.operation? method).map (Operation.completed path) := by
  have unposted : (item.addMissing path).post = none := by
    show (item.addMissing path).operation? .post = none
    rw [operation?_addMissing_of_unposted lacks, show item.operation? .post = none from lacks,
      Option.map_none]
  rw [corrected, correct, correctMethods_of_post_none unposted, operation?_mapOperations,
    operation?_addMissing_of_unposted lacks, Option.map_map]
  rfl

/-- Where the operations of a corrected item come from, if it had a POST. -/
theorem operation?_corrected_of_posted (given : item.post = some post) (method : Method) :
    (item.corrected path).operation? method =
      match Path.destination? path (item.sendsBody path) with
      | some targets =>
        if method ∈ targets then some ((post.posted path).correct path)
        else if method = .post then none
        else if Path.isQuery path = true ∧ method = .get then some (post.asStarqlGet.correct path)
        else (item.operation? method).map (Operation.completed path)
      | none =>
        if method = .post then some ((post.posted path).correct path)
        else if Path.isQuery path = true ∧ method = .get then some (post.asStarqlGet.correct path)
        else if method = .get ∧ path.mentions "query" = true ∧ item.get = none then
          some ((post.posted path).correct path)
        else (item.operation? method).map (Operation.completed path) := by
  have moved : (item.addMissing path).post = some (post.posted path) :=
    operation?_addMissing_of_posted given .post
  rw [corrected, correct, operation?_mapOperations, operation?_correctMethods moved,
    hasBody_addMissing given, operation?_addMissing_of_posted given]
  split
  · split
    · rfl
    · split
      · rfl
      · split
        · rfl
        · rw [Option.map_map]
          rfl
  · by_cases getting : method = .get
    · subst getting
      have gotten : (item.addMissing path).get = _ := operation?_addMissing_of_posted given .get
      rw [if_neg (by decide)] at gotten
      simp only [gotten, reduceCtorEq, true_and, and_true, if_false]
      cases queries : Path.isQuery path with
      | true => simp
      | false =>
        cases got : item.get with
        | none => simp [show item.operation? .get = none from got]
        | some get => simp [show item.operation? .get = some get from got, Operation.completed]
    · simp only [getting, false_and, and_false, if_false]
      split
      · rfl
      · rw [Option.map_map]
        rfl

/-- Every operation of a corrected item is one that was given under some method, but for the GET that
a query of its own comes as. -/
theorem exists_origin {method : Method} {operation : Operation}
    (found : (item.corrected path).operation? method = some operation)
    (ordinary : ¬ (method = .get ∧ Path.isQuery path = true ∧ item.post.isSome = true)) :
    ∃ origin given, item.operation? origin = some given ∧
      (operation = given.completed path ∨ operation = (given.posted path).correct path) := by
  cases given : item.post with
  | none =>
    rw [operation?_corrected_of_unposted given, Option.map_eq_some_iff] at found
    obtain ⟨first, known, rfl⟩ := found
    exact ⟨method, first, known, Or.inl rfl⟩
  | some post =>
    have posting : item.operation? .post = some post := given
    rw [given, Option.isSome_some] at ordinary
    rw [operation?_corrected_of_posted given] at found
    have kept : (item.operation? method).map (Operation.completed path) = some operation ∨
        some ((post.posted path).correct path) = some operation := by
      grind
    rcases kept with stays | goes
    · obtain ⟨first, known, rfl⟩ := Option.map_eq_some_iff.mp stays
      exact ⟨method, first, known, Or.inl rfl⟩
    · exact ⟨.post, post, posting, Or.inr (Option.some_inj.mp goes).symm⟩

/-! ### The methods of an item -/

theorem methods_corrected (path : Text) (item : PathItem) :
    (item.corrected path).methods =
      Path.impliedMethods path (item.sendsBody path) item.methods := by
  ext method
  rw [mem_methods, Path.impliedMethods]
  cases given : item.post with
  | none =>
    have absent : Method.post ∉ item.methods := by
      rw [mem_methods, show item.operation? .post = none from given]
      exact Bool.false_ne_true
    rw [operation?_corrected_of_unposted given, Option.isSome_map, if_neg absent, mem_methods]
  | some post =>
    have present : Method.post ∈ item.methods := by
      rw [mem_methods, show item.operation? .post = some post from given]
      rfl
    rw [operation?_corrected_of_posted given, if_pos present]
    cases Path.destination? path (item.sendsBody path) with
    | some targets =>
      have asking : method ∈ (if Path.isQuery path then {.get} else ∅ : Finset Method) ↔
          Path.isQuery path = true ∧ method = .get := by
        split <;> simp [*]
      simp only [Finset.mem_union, Finset.mem_erase, mem_methods, asking]
      grind
    | none =>
      have asking : method ∈ (if path.mentions "query" then {.get} else ∅ : Finset Method) ↔
          path.mentions "query" = true ∧ method = .get := by
        split <;> simp [*]
      have querying : Path.isQuery path = true → path.mentions "query" = true := fun queries => by
        rw [Path.isQuery, Bool.and_eq_true] at queries
        exact queries.1
      have posting : item.operation? .post = some post := given
      have gotten : item.get = item.operation? .get := rfl
      simp only [Finset.mem_union, mem_methods, asking, gotten]
      grind [Option.isSome_iff_ne_none]

/-- What is put under a method keeps all unknown members of the POST that it comes from. -/
theorem extra_corrected (given : item.post = some post) {method : Method} {operation : Operation}
    (found : (item.corrected path).operation? method = some operation)
    (put : method ∉ item.methods ∨ Path.PutsUnder path (item.sendsBody path) method) :
    operation.extra = post.extra := by
  have absent : method ∉ item.methods → item.operation? method = none := by
    rw [mem_methods, Bool.not_eq_true, Option.isSome_eq_false_iff, Option.isNone_iff_eq_none]
    exact id
  have gained : ((post.posted path).correct path).extra = post.extra := by simp
  have queried : (post.asStarqlGet.correct path).extra = post.extra := by simp [Operation.asStarqlGet]
  rw [operation?_corrected_of_posted given] at found
  rw [Path.PutsUnder] at put
  grind

theorem operation?_corrected_of_kept {method : Method} {operation : Operation}
    (found : item.operation? method = some operation) (moves : method ≠ .post)
    (kept : item.post = none ∨ ¬ Path.PutsUnder path (item.sendsBody path) method) :
    (item.corrected path).operation? method = some (operation.completed path) := by
  cases given : item.post with
  | none => rw [operation?_corrected_of_unposted given, found, Option.map_some]
  | some post =>
    rw [given] at kept
    have untouched := kept.resolve_left nofun
    rw [operation?_corrected_of_posted given]
    rw [Path.PutsUnder] at untouched
    have gotten : item.get = item.operation? .get := rfl
    grind

/-- How the operations under a corrected path follow from those that were given. -/
structure Follows (path : Text) (given result : PathItem) : Prop where
  /-- The methods are those that the path implies. -/
  methods : result.methods = Path.impliedMethods path (given.sendsBody path) given.methods
  /-- What is put under a new method, or in the place of what stood there, keeps all unknown members
  of the POST. -/
  carried : ∀ post, given.post = some post → ∀ method operation,
    result.operation? method = some operation →
      method ∉ given.methods ∨ Path.PutsUnder path (given.sendsBody path) method →
        operation.extra = post.extra
  /-- A POST that moves to two methods is the same under both. -/
  alike : ∀ post, given.post = some post →
    Path.destination? path (given.sendsBody path) = some {.patch, .put} → result.patch = result.put
  /-- Any other operation is still under its method, with no more than its own correction. -/
  kept : ∀ method operation, given.operation? method = some operation → method ≠ .post →
    given.post = none ∨ ¬ Path.PutsUnder path (given.sendsBody path) method →
      result.operation? method = some (operation.completed path)

theorem follows_corrected (path : Text) (item : PathItem) :
    Follows path item (item.corrected path) where
  methods := methods_corrected path item
  carried _ given _ _ found put := extra_corrected given found put
  alike post given moves := by
    have patched : (item.corrected path).patch = _ := operation?_corrected_of_posted given .patch
    have put : (item.corrected path).put = _ := operation?_corrected_of_posted given .put
    rw [moves] at patched put
    exact patched.trans put.symm
  kept _ _ found moves kept := operation?_corrected_of_kept found moves kept

end PathItem

namespace Document

/-- Where no two paths become the same, every corrected path has the methods that it implies, and its
operations follow from those that were given under it. -/
theorem methods_correct (servers : List (Dict Json)) {document : Document}
    (distinct : document.correctedPaths.Nodup) {path : Text} {item : PathItem}
    (member : (path, item) ∈ document.paths) :
    ∃ result, (document.correct servers).paths.get? (Path.corrected path) = some result ∧
      PathItem.Follows (Path.corrected path) item result :=
  ⟨_, get?_correct_of_nodup servers distinct member, PathItem.follows_corrected _ item⟩

/-- A query that deletes, beside an update whose body stands in another operation. -/
def queryAndUpdate : Document where
  paths :=
    [("/query/delete",
        { get := some { description := some "Old" }
          post := some { extra := [("operationId", .string "Query")] } }),
      ("/update/\x7btablename\x7d",
        { put := some { requestBody := some {} }
          post := some { extra := [("operationId", .string "Update")] }
          head := some {} })]

theorem methods_correct_queryAndUpdate :
    queryAndUpdate.correctedPaths.Nodup ∧ queryAndUpdate.paths[1] ∈ queryAndUpdate.paths ∧
      ∃ result, (queryAndUpdate.correct []).paths.get?
          (Path.corrected "/update/\x7btablename\x7d") = some result ∧
        PathItem.Follows (Path.corrected "/update/\x7btablename\x7d")
          queryAndUpdate.paths[1].2 result :=
  have distinct : queryAndUpdate.correctedPaths.Nodup := by decide +kernel
  have member : queryAndUpdate.paths[1] ∈ queryAndUpdate.paths := List.getElem_mem _
  ⟨distinct, member, methods_correct [] distinct member⟩

example : Path.impliedMethods "/query/delete" true {.get, .post} = {.get, .delete} := by decide

end Document

end ApiDoc
