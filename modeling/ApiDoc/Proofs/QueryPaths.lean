/-
This file says what becomes of the paths that take queries, and which GETs send a body. A query path
with a POST offers its queries twice: a GET takes the query as a parameter and sends no body, and the
POST takes it as its body, under whatever methods the path moves it to. A GET that sends a body was
given with it, with one exception: a report that mentions queries copies the body of its POST.
-/
import ApiDoc.Proofs.CorrectionFrame

namespace ApiDoc

/-! ### Operations that take queries -/

/-- The parameter is a text that has to be given as the query of an address. -/
structure Parameter.TakesQuery (parameter : Parameter) : Prop where
  name : parameter.name = some "q"
  location : parameter.location = some "query"
  required : parameter.required = some true
  typed : ∃ schema, parameter.schema = some schema ∧ schema.get? "type" = some (.string "string")

theorem Parameter.takesQuery_query : Parameter.query.TakesQuery where
  name := rfl
  location := rfl
  required := rfl
  typed := ⟨_, rfl, rfl⟩

namespace Operation

/-- The operation takes queries in the place of all that the POST of its path asks for. -/
structure TakesQueryAsParameter (path : Text) (operation post : Operation) : Prop where
  bodiless : operation.requestBody = none
  description : operation.description = some starqlDescription
  extra : operation.extra = post.extra
  parameters : ∃ query : Parameter, query.TakesQuery ∧
    operation.parameters = query :: if path.mentions "\x7bformat\x7d" then [] else [.accept]

/-- The operation takes queries beside what the POST of its path asks for. -/
structure TakesQueryAsBody (path : Text) (operation post : Operation) : Prop where
  description : operation.description = some starqlDescription
  extra : operation.extra = post.extra
  body : ∃ body, operation.requestBody = some body ∧ body.required = some true ∧
    body.content.keys = ["text/plain"]
  parameters : ∃ own, List.Forall₂ Parameter.Kept post.parameters own ∧
    operation.parameters = own ++ post.lacking path

variable {path : Text}

theorem takesQueryAsParameter_correct (path : Text) (post : Operation) :
    (post.asStarqlGet.correct path).TakesQueryAsParameter path post where
  bodiless := correct_requestBody path _
  description := correct_description path _
  extra := correct_extra path _
  parameters := by
    refine ⟨.query, Parameter.takesQuery_query, ?_⟩
    rw [correct_asStarqlGet]
    rfl

theorem takesQueryAsBody_correct (queries : Path.isQuery path = true) (post : Operation) :
    (post.asStarqlPost.correct path).TakesQueryAsBody path post where
  description := correct_description path _
  extra := correct_extra path _
  body := ⟨starqlBody, correct_requestBody path _, rfl, rfl⟩
  parameters := by
    have unreported : Path.isReport path = true → Path.hasFormat path = true := fun report => by
      rw [Path.isQuery, report] at queries
      exact absurd queries (by simp)
    have completes := parameters_completed unreported post.asStarqlPost
    rw [completed, PathItem.asked_of_isQuery queries] at completes
    exact ⟨_, Parameter.forall₂_kept_withFormats post.parameters, completes⟩

@[simp] theorem completed_requestBody (path : Text) (operation : Operation) :
    (operation.completed path).requestBody = operation.requestBody := by
  simp [completed]

/-- A POST keeps its body wherever it goes, unless the path takes queries. -/
theorem posted_requestBody (ordinary : Path.isQuery path = false) (post : Operation) :
    (post.posted path).requestBody = post.requestBody := by
  rw [posted, ordinary, if_neg Bool.false_ne_true, asked_requestBody]

end Operation

/-! ### Query paths -/

/-- The methods under which a query path has its POST. -/
def Path.queryMethods (path : Text) : Finset Method :=
  if path.mentions "delete" then {.delete}
  else if path.mentions "update" && !path.mentions "post" then {.patch, .put}
  else {.post}

namespace PathItem

variable {path : Text} {item : PathItem} {post : Operation}

/-- The item offers queries twice: to a GET as a parameter, and to what the POST has become as a
body. -/
structure OffersQueries (path : Text) (post : Operation) (item : PathItem) : Prop where
  /-- Whatever GET was given, the query stands in its address now. -/
  asParameter : ∃ operation, item.get = some operation ∧
    operation.TakesQueryAsParameter path post
  /-- The POST takes queries under all of its methods, and GET is none of them. -/
  asBody : ∃ operation : Operation, operation.TakesQueryAsBody path post ∧
    (∀ method ∈ Path.queryMethods path, item.operation? method = some operation) ∧
    item.get ≠ some operation
  /-- Where the POST has moved away, there is none. -/
  moved : .post ∉ Path.queryMethods path → item.post = none

/-- What stands under the methods of a query path that had a POST. -/
theorem operation?_corrected_of_isQuery (queries : Path.isQuery path = true)
    (given : item.post = some post) (method : Method) :
    (item.corrected path).operation? method =
      if method = .get then some (post.asStarqlGet.correct path)
      else if method ∈ Path.queryMethods path then some (post.asStarqlPost.correct path)
      else if method = .post then none
      else (item.operation? method).map (Operation.completed path) := by
  have posted : post.posted path = post.asStarqlPost := if_pos queries
  have asking : path.mentions "query" = true := by
    rw [Path.isQuery, Bool.and_eq_true] at queries
    exact queries.1
  rw [operation?_corrected_of_posted given, sendsBody, queries, posted, Bool.true_or,
    Path.destination?, Path.queryMethods, Bool.not_true, Bool.and_false,
    if_neg Bool.false_ne_true]
  cases path.mentions "delete" with
  | true => cases method <;> simp
  | false =>
    cases path.mentions "update" && !path.mentions "post" with
    | true => cases method <;> simp
    | false => cases method <;> simp

theorem offersQueries_corrected (queries : Path.isQuery path = true)
    (given : item.post = some post) : OffersQueries path post (item.corrected path) := by
  have gets : (item.corrected path).get = some (post.asStarqlGet.correct path) :=
    operation?_corrected_of_isQuery queries given .get
  have ungettable : Method.get ∉ Path.queryMethods path := by
    unfold Path.queryMethods
    split_ifs <;> decide
  have takesAsParameter := Operation.takesQueryAsParameter_correct path post
  have takesAsBody := Operation.takesQueryAsBody_correct queries post
  refine ⟨⟨_, gets, takesAsParameter⟩, ⟨_, takesAsBody, ?_, ?_⟩, ?_⟩
  · intro method member
    rw [operation?_corrected_of_isQuery queries given, if_neg, if_pos member]
    rintro rfl
    exact ungettable member
  · rw [gets]
    intro same
    obtain ⟨body, sends, -⟩ := takesAsBody.body
    rw [← Option.some_inj.mp same, takesAsParameter.bodiless] at sends
    cases sends
  · intro moves
    have posts := operation?_corrected_of_isQuery queries given .post
    rwa [if_neg (by decide), if_neg moves, if_pos rfl] at posts

end PathItem

namespace Document

/-- Where no two paths become the same, every query path with a POST offers its queries as a parameter
of a GET and as the body of what the POST becomes. -/
theorem queries_offered (servers : List (Dict Json)) {document : Document}
    (distinct : document.correctedPaths.Nodup) {path : Text} {item : PathItem}
    (member : (path, item) ∈ document.paths)
    (asks : (Path.corrected path).mentions "query" = true)
    (unreported : (Path.corrected path).mentions "getreport" = false) {post : Operation}
    (given : item.post = some post) :
    ∃ result, (document.correct servers).paths.get? (Path.corrected path) = some result ∧
      result.OffersQueries (Path.corrected path) post := by
  have queries : Path.isQuery (Path.corrected path) = true := by
    rw [Path.isQuery, asks, Path.isReport, unreported]
    rfl
  exact ⟨_, get?_correct_of_nodup servers distinct member,
    PathItem.offersQueries_corrected queries given⟩

/-- A path that reads, updates and takes queries, with a GET that sends a body and a POST with formats
of its own. -/
def queryReadAndUpdate : Document where
  paths :=
    [("/select/query/update/\x7btablename\x7d",
        { get := some { description := some "Old", requestBody := some {} }
          post := some
            { parameters := [{ name := some "format", location := some "query" }]
              extra := [("operationId", .string "Query")] } })]

theorem queries_offered_queryReadAndUpdate :
    let path : Text := "/select/query/update/\x7btablename\x7d"
    let item := queryReadAndUpdate.paths[0].2
    let post : Operation :=
      { parameters := [{ name := some "format", location := some "query" }]
        extra := [("operationId", .string "Query")] }
    queryReadAndUpdate.correctedPaths.Nodup ∧ (path, item) ∈ queryReadAndUpdate.paths ∧
      (Path.corrected path).mentions "query" = true ∧
      (Path.corrected path).mentions "getreport" = false ∧ item.post = some post ∧
      ∃ result, (queryReadAndUpdate.correct []).paths.get? (Path.corrected path) = some result ∧
        result.OffersQueries (Path.corrected path) post := by
  intro path item post
  have distinct : queryReadAndUpdate.correctedPaths.Nodup := by decide +kernel
  have member : (path, item) ∈ queryReadAndUpdate.paths := List.mem_singleton.mpr rfl
  have asks : (Path.corrected path).mentions "query" = true := by decide +kernel
  have unreported : (Path.corrected path).mentions "getreport" = false := by decide +kernel
  have given : item.post = some post := rfl
  exact ⟨distinct, member, asks, unreported, given,
    queries_offered [] distinct member asks unreported given⟩

end Document

/-! ### GETs that send a body -/

/-- The path of a report that mentions queries and has nowhere else to move its POST to. -/
def Path.copiesReport (path : Text) : Bool :=
  path.mentions "getreport" && path.mentions "query" && !path.mentions "delete" &&
    !(path.mentions "update" && !path.mentions "post")

theorem Path.copiesReport_of_isQuery {path : Text} (queries : isQuery path = true) :
    copiesReport path = false := by
  rw [isQuery, isReport, Bool.and_eq_true, Bool.not_eq_true'] at queries
  rw [copiesReport, queries.2]
  rfl

namespace PathItem

variable {path : Text} {item : PathItem} {post : Operation}

/-- The body that is sent under a method, if one is. -/
def body? (item : PathItem) (method : Method) : Option RequestBody :=
  (item.operation? method).bind (·.requestBody)

theorem body?_of_lacks {method : Method} (lacks : item.operation? method = none) :
    item.body? method = none := by
  rw [body?, lacks, Option.bind_none]

/-- Where no operation expects a body, none is sent under any method. -/
theorem body?_of_hasBody_eq_false (bodiless : item.hasBody = false) (method : Method) :
    item.body? method = none := by
  rw [body?, Option.bind_eq_none_iff]
  intro operation found
  rw [← Option.not_isSome_iff_eq_none]
  intro sends
  have expects : item.hasBody = true := (hasBody_iff item).mpr ⟨method, operation, found, sends⟩
  rw [bodiless] at expects
  cases expects

/-- Where a path takes no queries, its GET is the POST, moved from a path that reads or copied from a
report, or else it has stayed. -/
theorem get_corrected_of_posted (ordinary : Path.isQuery path = false)
    (given : item.post = some post) :
    (item.corrected path).get =
      if (Path.reads path && !item.hasBody) = true ∨
          (Path.copiesReport path = true ∧ item.get = none) then
        some ((post.posted path).correct path)
      else item.get.map (Operation.completed path) := by
  have gets : (item.corrected path).get = _ := operation?_corrected_of_posted given .get
  have got : item.operation? .get = item.get := rfl
  have reported : path.mentions "query" = true → path.mentions "getreport" = true := by
    intro asks
    rw [Path.isQuery, asks, Path.isReport, Bool.true_and, Bool.not_eq_false'] at ordinary
    exact ordinary
  rw [gets, sendsBody, ordinary, Bool.false_or, Path.destination?, Path.copiesReport, got]
  cases Path.reads path && !item.hasBody with
  | true => simp
  | false =>
    cases path.mentions "delete" with
    | true => simp
    | false =>
      cases path.mentions "update" && !path.mentions "post" with
      | true => simp
      | false =>
        cases asks : path.mentions "query" with
        | true => simp [reported asks]
        | false => simp

/-- An operation that is completed sends what it sent. -/
theorem bind_map_completed (path : Text) (operation? : Option Operation) :
    (operation?.map (Operation.completed path)).bind (·.requestBody) =
      operation?.bind (·.requestBody) := by
  cases operation? with
  | none => rfl
  | some operation => exact Operation.completed_requestBody path operation

/-- The GET of a corrected path sends what the given GET sent, unless a query replaces it or the body
of the POST is copied. -/
theorem body?_get_corrected (path : Text) (item : PathItem) :
    (item.corrected path).body? .get =
      if Path.isQuery path = true ∧ item.post.isSome = true then none
      else if Path.copiesReport path = true ∧ item.get = none then item.body? .post
      else item.body? .get := by
  cases given : item.post with
  | none =>
    rw [body?, operation?_corrected_of_unposted given, bind_map_completed, if_neg (by simp)]
    split
    · rename_i copies
      rw [body?_of_lacks (show item.operation? .post = none from given)]
      exact body?_of_lacks (show item.operation? .get = none from copies.2)
    · rfl
  | some post =>
    cases ordinary : Path.isQuery path with
    | true =>
      rw [if_pos (by simp), body?, operation?_corrected_of_isQuery ordinary given, if_pos rfl]
      exact Operation.correct_requestBody path post.asStarqlGet
    | false =>
      have sent : item.body? .post = ((post.posted path).correct path).requestBody := by
        rw [Operation.correct_requestBody, Operation.posted_requestBody ordinary, body?,
          show item.operation? .post = some post from given]
        rfl
      have gets : (item.corrected path).body? .get = (item.corrected path).get.bind _ := rfl
      rw [if_neg (by simp), gets, get_corrected_of_posted ordinary given]
      -- A path that reads moves its POST only where no operation sends a body.
      cases moves : Path.reads path && !item.hasBody with
      | true =>
        rw [Bool.and_eq_true, Bool.not_eq_true'] at moves
        rw [if_pos (Or.inl rfl), Option.bind_some, ← sent, body?_of_hasBody_eq_false moves.2,
          body?_of_hasBody_eq_false moves.2, ite_self]
      | false =>
        simp only [Bool.false_eq_true, false_or]
        split
        · exact sent.symm
        · exact bind_map_completed path item.get

/-- A GET sends a body without having been given one exactly if a report copies it. -/
theorem body?_get_corrected_only_if_given_iff (path : Text) (item : PathItem) :
    ((((item.corrected path).body? .get).isSome = true → (item.body? .get).isSome = true) ↔
      ¬ (Path.copiesReport path = true ∧ item.get = none ∧ (item.body? .post).isSome = true)) := by
  rw [body?_get_corrected]
  split
  · rename_i replaced
    have uncopied := Path.copiesReport_of_isQuery replaced.1
    simp [uncopied]
  · split
    · rename_i copies
      simp [copies, body?_of_lacks (show item.operation? .get = none from copies.2)]
    · rename_i stays
      exact iff_of_true id fun copies => stays ⟨copies.1, copies.2.1⟩

end PathItem

namespace Document

/-- Where no two paths become the same, the GET of a path sends what the given one sent, unless a query
replaces it or the POST of a report is copied. So it sends a body without having been given one exactly
if a report that mentions queries has a POST with a body and no GET. -/
theorem getBody_correct (servers : List (Dict Json)) {document : Document}
    (distinct : document.correctedPaths.Nodup) {path : Text} {item : PathItem}
    (member : (path, item) ∈ document.paths) :
    ∃ result, (document.correct servers).paths.get? (Path.corrected path) = some result ∧
      (result.body? .get =
        if Path.isQuery (Path.corrected path) = true ∧ item.post.isSome = true then none
        else if Path.copiesReport (Path.corrected path) = true ∧ item.get = none then
          item.body? .post
        else item.body? .get) ∧
      (((result.body? .get).isSome = true → (item.body? .get).isSome = true) ↔
        ¬ (Path.copiesReport (Path.corrected path) = true ∧ item.get = none ∧
          (item.body? .post).isSome = true)) :=
  ⟨_, get?_correct_of_nodup servers distinct member, PathItem.body?_get_corrected _ item,
    PathItem.body?_get_corrected_only_if_given_iff _ item⟩

/-- A report on queries, which are posted. -/
def reportOnQueries : Document where
  paths :=
    [("/getreport/query/{reportID}",
        { post := some { requestBody := some { content := [("text/plain", [])] } } }),
      ("/getreport/{reportID}",
        { get := some { requestBody := some {} }, post := some {} })]

theorem getBody_correct_reportOnQueries :
    reportOnQueries.correctedPaths.Nodup ∧ reportOnQueries.paths[1] ∈ reportOnQueries.paths ∧
      ∃ result, (reportOnQueries.correct []).paths.get?
          (Path.corrected "/getreport/{reportID}") = some result ∧
        result.body? .get = some {} := by
  have distinct : reportOnQueries.correctedPaths.Nodup := by decide +kernel
  have member : reportOnQueries.paths[1] ∈ reportOnQueries.paths := List.getElem_mem _
  obtain ⟨result, found, sends, -⟩ := getBody_correct [] distinct member
  refine ⟨distinct, member, result, found, sends.trans ?_⟩
  decide +kernel

/-- The GET of the report sends the body that was posted, although no GET was given. -/
theorem reportOnQueries_invents_getBody :
    reportOnQueries.correctedPaths.Nodup ∧ reportOnQueries.paths[0].2.get = none ∧
      ∃ result, (reportOnQueries.correct []).paths.get?
          (Path.corrected "/getreport/query/{reportID}") = some result ∧
        result.body? .get = some { content := [("text/plain", [])] } := by
  refine ⟨by decide +kernel, rfl, _, rfl, ?_⟩
  decide +kernel

end Document

end ApiDoc
