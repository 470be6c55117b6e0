/-
This file says what can become of the operations of a path item. A POST moves or is copied in one of
six ways, and these ways are all there are; every operation afterwards was there before, and a choice
that has been made stays as it is.
-/
import ApiDoc.Document.Correction

namespace ApiDoc.PathItem

/-! ### Operations of an item -/

@[simp] theorem operation?_mapOperations (change : Operation → Operation) (item : PathItem)
    (method : Method) :
    (item.mapOperations change).operation? method = (item.operation? method).map change := by
  cases method <;> rfl

/-- An item is its operations and its further members. -/
theorem ext_operations {first second : PathItem}
    (operations : ∀ method, first.operation? method = second.operation? method)
    (extra : first.extra = second.extra) : first = second := by
  cases first
  cases second
  simp only [PathItem.mk.injEq]
  exact ⟨operations .get, operations .put, operations .post, operations .delete,
    operations .options, operations .head, operations .patch, operations .trace, extra⟩

/-- The item with another operation, or none, under a method. -/
def setOperation (item : PathItem) (method : Method) (operation? : Option Operation) : PathItem :=
  match method with
  | .get => { item with get := operation? }
  | .put => { item with put := operation? }
  | .post => { item with post := operation? }
  | .delete => { item with delete := operation? }
  | .options => { item with options := operation? }
  | .head => { item with head := operation? }
  | .patch => { item with patch := operation? }
  | .trace => { item with trace := operation? }

theorem operation?_setOperation (item : PathItem) (method other : Method)
    (operation? : Option Operation) :
    (item.setOperation method operation?).operation? other =
      if other = method then operation? else item.operation? other := by
  cases method <;> cases other <;> rfl

/-- Every operation of an item is one of another item, under whatever method. -/
def DrawnFrom (source item : PathItem) : Prop :=
  ∀ method operation, item.operation? method = some operation →
    ∃ origin, source.operation? origin = some operation

theorem drawnFrom_self (item : PathItem) : DrawnFrom item item :=
  fun method _ found => ⟨method, found⟩

/-- Putting an operation of the source under a method, or none, draws on nothing else. -/
theorem DrawnFrom.setOperation {source item : PathItem} (drawn : DrawnFrom source item)
    (method : Method) {operation? : Option Operation}
    (known : ∀ operation, operation? = some operation →
      ∃ origin, source.operation? origin = some operation) :
    DrawnFrom source (item.setOperation method operation?) := by
  intro other operation found
  rw [operation?_setOperation] at found
  split at found
  · exact known operation found
  · exact drawn other operation found

theorem mapOperations_mapOperations (first second : Operation → Operation) (item : PathItem) :
    (item.mapOperations first).mapOperations second =
      item.mapOperations (fun operation => second (first operation)) := by
  refine ext_operations (fun method => ?_) rfl
  simp [Function.comp_def]

theorem mapOperations_eq_self {change : Operation → Operation} {item : PathItem}
    (fixed : ∀ method operation, item.operation? method = some operation →
      change operation = operation) : item.mapOperations change = item := by
  refine ext_operations (fun method => ?_) rfl
  rw [operation?_mapOperations]
  cases found : item.operation? method with
  | none => rfl
  | some operation => rw [Option.map_some, fixed method operation found]

theorem mem_operations_iff (item : PathItem) (method : Method) (operation : Operation) :
    (method, operation) ∈ item.operations ↔ item.operation? method = some operation := by
  simp only [operations, List.mem_filterMap, Option.map_eq_some_iff, Prod.mk.injEq]
  constructor
  · rintro ⟨_, _, _, found, rfl, rfl⟩
    exact found
  · intro found
    exact ⟨method, by cases method <;> decide, operation, found, rfl, rfl⟩

theorem hasBody_iff (item : PathItem) :
    item.hasBody = true ↔ ∃ method operation, item.operation? method = some operation ∧
      operation.requestBody.isSome = true := by
  simp only [hasBody, List.any_eq_true, Prod.exists, mem_operations_iff]

theorem DrawnFrom.hasBody {source item : PathItem} (drawn : DrawnFrom source item)
    (expects : item.hasBody = true) : source.hasBody = true := by
  rw [hasBody_iff] at expects ⊢
  obtain ⟨method, operation, found, body⟩ := expects
  obtain ⟨origin, known⟩ := drawn method operation found
  exact ⟨origin, operation, known, body⟩

/-- Whether a body is expected does not depend on what else an operation says. -/
theorem hasBody_mapOperations {change : Operation → Operation}
    (sameBody : ∀ operation, (change operation).requestBody = operation.requestBody)
    (item : PathItem) : (item.mapOperations change).hasBody = item.hasBody := by
  rw [Bool.eq_iff_iff, hasBody_iff, hasBody_iff]
  constructor
  · rintro ⟨method, _, found, body⟩
    rw [operation?_mapOperations, Option.map_eq_some_iff] at found
    obtain ⟨operation, known, rfl⟩ := found
    exact ⟨method, operation, known, sameBody operation ▸ body⟩
  · rintro ⟨method, operation, found, body⟩
    refine ⟨method, change operation, ?_, (sameBody operation).symm ▸ body⟩
    rw [operation?_mapOperations, found, Option.map_some]

/-- The choice of methods looks at the bodies of operations only. -/
theorem correctMethods_mapOperations {change : Operation → Operation}
    (sameBody : ∀ operation, (change operation).requestBody = operation.requestBody)
    (path : Text) (item : PathItem) :
    (item.mapOperations change).correctMethods path =
      (item.correctMethods path).mapOperations change := by
  unfold correctMethods
  rw [hasBody_mapOperations sameBody]
  cases posted : item.post with
  | none => simp [mapOperations, posted]
  | some post =>
    simp only [mapOperations, posted, Option.map_some, Option.isNone_map]
    repeat' split
    all_goals simp [posted]

/-! ### The choice -/

/-- What the choice of methods can come to. -/
inductive MethodChoice (path : Text) (item : PathItem) : PathItem → Prop where
  | absent (lacks : item.post = none) : MethodChoice path item item
  | read (post : Operation) (posted : item.post = some post) (reads : Path.reads path = true)
      (bodiless : item.hasBody = false) :
      MethodChoice path item ((item.setOperation .get post).setOperation .post none)
  | delete (post : Operation) (posted : item.post = some post)
      (stays : (Path.reads path && !item.hasBody) = false)
      (deletes : path.mentions "delete" = true) :
      MethodChoice path item ((item.setOperation .delete post).setOperation .post none)
  | update (post : Operation) (posted : item.post = some post)
      (stays : (Path.reads path && !item.hasBody) = false)
      (keeps : path.mentions "delete" = false)
      (updates : (path.mentions "update" && !path.mentions "post") = true) :
      MethodChoice path item
        (((item.setOperation .patch post).setOperation .put post).setOperation .post none)
  | query (post : Operation) (posted : item.post = some post)
      (stays : (Path.reads path && !item.hasBody) = false)
      (keeps : path.mentions "delete" = false)
      (creates : (path.mentions "update" && !path.mentions "post") = false)
      (queries : path.mentions "query" = true) (ungotten : item.get = none) :
      MethodChoice path item (item.setOperation .get post)
  | keep (post : Operation) (posted : item.post = some post)
      (stays : (Path.reads path && !item.hasBody) = false)
      (keeps : path.mentions "delete" = false)
      (creates : (path.mentions "update" && !path.mentions "post") = false)
      (satisfied : (path.mentions "query" && item.get.isNone) = false) :
      MethodChoice path item item

/-- The choice of methods comes to one of these, and never to anything else. -/
theorem methodChoice_correctMethods (path : Text) (item : PathItem) :
    MethodChoice path item (item.correctMethods path) := by
  unfold correctMethods
  split
  · rename_i lacks
    exact .absent lacks
  rename_i post posted
  split
  · rename_i reads
    rw [Bool.and_eq_true, Bool.not_eq_true'] at reads
    exact .read post posted reads.1 reads.2
  rename_i stays
  rw [Bool.not_eq_true] at stays
  split
  · rename_i deletes
    exact .delete post posted stays deletes
  rename_i keeps
  rw [Bool.not_eq_true] at keeps
  split
  · rename_i updates
    exact .update post posted stays keeps updates
  rename_i creates
  rw [Bool.not_eq_true] at creates
  split
  · rename_i queries
    rw [Bool.and_eq_true, Option.isNone_iff_eq_none] at queries
    exact .query post posted stays keeps creates queries.1 queries.2
  · rename_i satisfied
    rw [Bool.not_eq_true] at satisfied
    exact .keep post posted stays keeps creates satisfied

/-- Every operation after the choice of methods was there before it. -/
theorem drawnFrom_correctMethods (path : Text) (item : PathItem) :
    DrawnFrom item (item.correctMethods path) := by
  have choice := methodChoice_correctMethods path item
  generalize item.correctMethods path = chosen at choice
  cases choice with
  | absent | keep => exact drawnFrom_self item
  | read post posted | delete post posted =>
    have known : ∀ operation, some post = some operation →
        ∃ origin, item.operation? origin = some operation :=
      fun _ same => ⟨.post, posted.trans same⟩
    exact ((drawnFrom_self item).setOperation _ known).setOperation _ fun _ same => nomatch same
  | update post posted =>
    have known : ∀ operation, some post = some operation →
        ∃ origin, item.operation? origin = some operation :=
      fun _ same => ⟨.post, posted.trans same⟩
    exact (((drawnFrom_self item).setOperation _ known).setOperation _ known).setOperation
      _ fun _ same => nomatch same
  | query post posted =>
    exact (drawnFrom_self item).setOperation _ fun _ same => ⟨.post, posted.trans same⟩

theorem correctMethods_of_post_none {item : PathItem} (absent : item.post = none) (path : Text) :
    item.correctMethods path = item := by
  unfold correctMethods
  rw [absent]

/-- Where no rule fits, the POST stays where it is. -/
theorem correctMethods_of_stays {path : Text} {item : PathItem}
    (stays : (Path.reads path && !item.hasBody) = false) (keeps : path.mentions "delete" = false)
    (creates : (path.mentions "update" && !path.mentions "post") = false)
    (satisfied : (path.mentions "query" && item.get.isNone) = false) :
    item.correctMethods path = item := by
  unfold correctMethods
  rw [stays, keeps, creates, satisfied]
  cases item.post <;> rfl

/-- A GET where there was none takes no body away. -/
theorem hasBody_setGet {item : PathItem} (ungotten : item.get = none) (post : Operation)
    (expects : item.hasBody = true) : (item.setOperation .get post).hasBody = true := by
  have drawn : DrawnFrom (item.setOperation .get post) item := by
    intro method operation found
    refine ⟨method, ?_⟩
    rw [operation?_setOperation, if_neg, found]
    rintro rfl
    cases ungotten.symm.trans found
  exact drawn.hasBody expects

/-- Methods that have been chosen stay. -/
theorem correctMethods_correctMethods (path : Text) (item : PathItem) :
    (item.correctMethods path).correctMethods path = item.correctMethods path := by
  have choice := methodChoice_correctMethods path item
  generalize chosen : item.correctMethods path = result at choice
  cases choice with
  | absent | keep => exact chosen
  | read | delete | update => exact correctMethods_of_post_none rfl path
  | query post posted stays keeps creates queries ungotten =>
    refine correctMethods_of_stays ?_ keeps creates (Bool.and_false _)
    rw [Bool.and_eq_false_iff, Bool.not_eq_false'] at stays ⊢
    exact stays.imp_right (hasBody_setGet ungotten post)

end ApiDoc.PathItem
