/-
This file proves that markup is read as proper texts: whatever the bytes are, they are decoded to
characters, and the names and attributes of elements are made of nothing else. The attributes of one
element have different names.
-/
import ApiDoc.Proofs.Exchanges
import ApiDoc.Proofs.ProperText

namespace ApiDoc

/-! ### Events -/

namespace Xml

/-- The texts of an event are proper, and no attribute is there twice. -/
def Event.IsProper : Event → Prop
  | .opened name attributes =>
    name.IsProper ∧ attributes.keys.Nodup ∧
      ∀ entry ∈ attributes, entry.1.IsProper ∧ entry.2.IsProper
  | .closed => True

/-- All events are proper. -/
def AreProper (events : List Event) : Prop := ∀ event ∈ events, event.IsProper

theorem areProper_nil : AreProper [] := fun _ member => nomatch member

theorem AreProper.append {first second : List Event} (proper : AreProper first)
    (properSecond : AreProper second) : AreProper (first ++ second) :=
  fun event member => (List.mem_append.mp member).elim (proper event) (properSecond event)

/-- No attribute of a tag that is meant is there twice. -/
theorem nodup_attributes_of_resolve? {written : WrittenTag} {doctype : Doctype} {outer : Namespaces}
    {tag : Tag} (resolved : written.resolve? doctype outer = some tag) :
    (tag.attributes.map (·.1)).Nodup := by
  obtain ⟨given, _, resolved⟩ := Option.bind_eq_some_iff.mp resolved
  obtain ⟨namespaces, _, resolved⟩ := Option.bind_eq_some_iff.mp resolved
  obtain ⟨name, _, resolved⟩ := Option.bind_eq_some_iff.mp resolved
  obtain ⟨attributes, _, resolved⟩ := Option.bind_eq_some_iff.mp resolved
  split at resolved
  · rename_i distinct
    cases resolved
    exact distinct.2
  · cases resolved

namespace Progress

theorem isProper_opening {written : WrittenTag} {doctype : Doctype} {outer : Namespaces} {tag : Tag}
    (resolved : written.resolve? doctype outer = some tag) : (opening tag).IsProper := by
  refine ⟨Text.isProper_map _, ?_, fun entry member => ?_⟩
  · have spelled : Function.Injective (List.map CodePoint.char) :=
      List.map_injective_iff.mpr fun _ _ same => CodePoint.char.inj same
    unfold Dict.keys
    rw [List.map_map]
    have names := (nodup_attributes_of_resolve? resolved).map spelled
    rwa [List.map_map] at names
  · obtain ⟨⟨name, value⟩, _, rfl⟩ := List.mem_map.mp member
    exact ⟨Text.isProper_map _, Text.isProper_map _⟩

/-- What follows the text of entities reports proper events. -/
def FollowsProperly (follow? : List Char → Progress → Option (List Event × Progress)) : Prop :=
  ∀ text progress events after, follow? text progress = some (events, after) → AreProper events

theorem areProper_enter? {progress after : Progress} {written : WrittenTag} {events : List Event}
    (enters : progress.enter? written = some (events, after)) : AreProper events := by
  obtain ⟨tag, resolved, opens⟩ := Option.bind_eq_some_iff.mp enters
  split at opens
  · cases opens
    intro event member
    rcases List.mem_cons.mp member with rfl | last
    · exact isProper_opening resolved
    · obtain rfl := List.mem_singleton.mp last
      trivial
  · cases opens
    intro event member
    obtain rfl := List.mem_singleton.mp member
    exact isProper_opening resolved

theorem areProper_leave? {progress after : Progress} {name : List Char} {events : List Event}
    (leaves : progress.leave? name = some (events, after)) : AreProper events := by
  unfold leave? at leaves
  split at leaves
  · cases leaves
  · split at leaves
    · cases leaves
      intro event member
      obtain rfl := List.mem_singleton.mp member
      trivial
    · cases leaves

theorem areProper_silently {progress after : Progress} {events : List Event}
    (passes : progress.silently = some (events, after)) : AreProper events := by
  cases passes
  exact areProper_nil

/-- A piece of markup reports proper events. -/
theorem areProper_step? {follow? : List Char → Progress → Option (List Event × Progress)}
    (proper : FollowsProperly follow?) {progress after : Progress} {markup : Markup}
    {events : List Event} (steps : progress.step? follow? markup = some (events, after)) :
    AreProper events := by
  unfold step? at steps
  split at steps
  · exact areProper_silently steps
  · exact areProper_silently steps
  · obtain ⟨doctype, _, passes⟩ := Option.bind_eq_some_iff.mp steps
    exact areProper_silently passes
  · exact areProper_silently steps
  · exact areProper_silently steps
  · exact areProper_silently steps
  · exact areProper_enter? steps
  · exact areProper_leave? steps
  · exact areProper_silently steps
  · exact areProper_silently steps
  · obtain ⟨character, _, passes⟩ := Option.bind_eq_some_iff.mp steps
    exact areProper_silently passes
  · split at steps
    · exact areProper_silently steps
    · split at steps
      · exact proper _ _ _ _ steps
      · cases steps

theorem areProper_followUpTo? {follow? : List Char → Progress → Option (List Event × Progress)}
    (proper : FollowsProperly follow?) (limit : Nat) {progress : Progress} {text : List Char}
    {followed : Followed} (follows : followUpTo? follow? limit progress text = some followed) :
    AreProper followed.events := by
  induction limit generalizing progress text followed with
  | zero =>
    cases follows
    exact areProper_nil
  | succ limit inductionHypothesis =>
    rw [followUpTo?] at follows
    split at follows
    · cases follows
      exact areProper_nil
    · cases follows
    · obtain ⟨reported, stepped, goesOn⟩ := Option.bind_eq_some_iff.mp follows
      obtain ⟨others, later, same⟩ := Option.bind_eq_some_iff.mp goesOn
      cases same
      exact (areProper_step? proper stepped).append (inductionHypothesis later)

/-- The text of an entity reports proper events, however deep others lie within it. -/
theorem followsProperly_followEntity? (depth : Nat) : FollowsProperly (followEntity? depth) := by
  induction depth with
  | zero => exact fun _ _ _ _ follows => nomatch follows
  | succ depth inductionHypothesis =>
    intro text progress events after follows
    rw [followEntity?] at follows
    obtain ⟨followed, inside, ends⟩ := Option.bind_eq_some_iff.mp follows
    split at ends
    · cases ends
      exact areProper_followUpTo? inductionHypothesis _ inside
    · cases ends

theorem areProper_follow? {progress : Progress} {text : List Char} {followed : Followed}
    (follows : progress.follow? text = some followed) : AreProper followed.events :=
  areProper_followUpTo?
    (fun entity progress => followsProperly_followEntity? progress.doctype.nesting entity progress)
    _ follows

end Progress

/-! ### Readers -/

namespace Reader

variable {reader after : Reader} {events : List Event}

theorem areProper_follow {coding : Coding} {taken : Bool} {bytes : Bytes}
    (follows : reader.follow coding taken bytes = .ok (events, after)) : AreProper events := by
  unfold follow at follows
  dsimp only at follows
  split at follows
  · cases follows
  · rename_i followed followedText
    split at follows
    · cases follows
      exact Progress.areProper_follow? followedText
    · cases follows

theorem areProper_begin {coding : Coding} {taken : Bool} {bytes : Bytes}
    (begins : reader.begin coding taken bytes = .ok (events, after)) : AreProper events := by
  unfold begin at begins
  split at begins
  · cases begins
  · cases begins
    exact areProper_nil
  · exact areProper_follow begins

theorem areProper_advance {bytes : Bytes}
    (advances : reader.advance bytes = .ok (events, after)) : AreProper events := by
  unfold advance at advances
  split at advances
  · split at advances
    · exact areProper_follow advances
    · exact areProper_begin advances
  · split at advances
    · exact areProper_begin advances
    · cases advances
      exact areProper_nil

theorem areProper_feed {chunk : Bytes}
    (feeds : reader.feed chunk = .ok (events, after)) : AreProper events := by
  unfold feed at feeds
  dsimp only at feeds
  split at feeds
  · cases feeds
    exact areProper_nil
  · split at feeds
    · cases feeds
      exact areProper_nil
    · exact areProper_advance feeds

theorem areProper_close (closes : reader.close = .ok events) : AreProper events := by
  unfold close at closes
  split at closes
  · cases closes
  · rename_i advanced
    split at closes
    · cases closes
      exact areProper_advance advanced
    · cases closes

end Reader

/-! ### Elements -/

namespace Element

/-- The name of an element and the values of its attributes are proper texts, and no attribute is there
twice. -/
def IsProper (element : Element) : Prop :=
  element.name.IsProper ∧ element.attributes.keys.Nodup ∧
    ∀ entry ∈ element.attributes, entry.2.IsProper

/-- A stream delivers proper elements. -/
def FeedIsProper (feed : Feed Element) : Prop := ∀ element ∈ feed.items, element.IsProper

theorem feedIsProper_failed (failure : Failure) : FeedIsProper (.failed failure) :=
  fun _ member => nomatch member

theorem isProper_belowRoot {events : List Event} (proper : AreProper events) (depth : Nat) :
    ∀ element ∈ (belowRoot depth events).1, element.IsProper := by
  induction events generalizing depth with
  | nil => exact fun _ member => nomatch member
  | cons event rest inductionHypothesis =>
    have properRest : AreProper rest := fun other member => proper other (.tail _ member)
    cases event with
    | closed => exact inductionHypothesis properRest (depth - 1)
    | opened name attributes =>
      obtain ⟨properName, distinct, properAttributes⟩ := proper _ List.mem_cons_self
      rw [belowRoot]
      dsimp only
      split
      · exact inductionHypothesis properRest (depth + 1)
      · intro element member
        rcases List.mem_cons.mp member with rfl | later
        · exact ⟨properName.subset fun point => Text.mem_of_mem_afterLast, distinct,
            fun entry among => (properAttributes entry among).2⟩
        · exact inductionHypothesis properRest (depth + 1) element later

theorem feedIsProper_ofEnd (url : Text) (interruption : Option Http.Disruption) (reader : Reader)
    (depth : Nat) : FeedIsProper (ofEnd url interruption reader depth) := by
  unfold ofEnd
  split
  · exact feedIsProper_failed _
  · split
    · rename_i closes
      exact isProper_belowRoot (Reader.areProper_close closes) depth
    · exact feedIsProper_failed _

theorem feedIsProper_ofChunks (url : Text) (interruption : Option Http.Disruption)
    (chunks : List Bytes) (reader : Reader) (depth : Nat) :
    FeedIsProper (ofChunks url interruption reader depth chunks) := by
  induction chunks generalizing reader depth with
  | nil => exact feedIsProper_ofEnd url interruption reader depth
  | cons chunk rest inductionHypothesis =>
    rw [ofChunks]
    split
    · exact feedIsProper_failed _
    · rename_i events after feeds
      intro element member
      rcases List.mem_append.mp member with here | later
      · exact isProper_belowRoot (Reader.areProper_feed feeds) depth element here
      · exact inductionHypothesis after _ element later

theorem feedIsProper_ofAnswer (url : Text) (answer : Http.Answer) :
    FeedIsProper (ofAnswer url answer) := by
  unfold ofAnswer
  split
  · exact feedIsProper_failed _
  · exact feedIsProper_ofChunks url _ _ _ _

end Element

end Xml

/-! ### Tables and columns -/

/-- The name of a column and the values of its attributes are proper texts, and no attribute is there
twice. -/
def Column.IsProper (column : Column) : Prop :=
  column.name.IsProper ∧ column.attributes.keys.Nodup ∧
    ∀ entry ∈ column.attributes, entry.2.IsProper

/-- A stream delivers proper columns. -/
def Column.FeedIsProper (feed : Feed Column) : Prop := ∀ column ∈ feed.items, column.IsProper

namespace Source

variable {σ : Type} (source : Source σ)

theorem isProper_elements (url : Text) (session : Http.Session σ) :
    Xml.Element.FeedIsProper (source.elements url session).1 := by
  rw [Exchanges.elements_eq]
  dsimp only
  unfold elementsIn
  split
  · exact Xml.Element.feedIsProper_ofAnswer url _
  · exact Xml.Element.feedIsProper_failed _

/-- Whatever a service answers, it names tables with proper texts. -/
theorem isProper_tableNames (session : Http.Session σ) :
    ∀ name ∈ (source.tableNames session).1.items, name.IsProper := by
  have proper := source.isProper_elements source.tableListUrl session
  unfold tableNames
  rw [Attempt.run_map]
  generalize source.elements source.tableListUrl session = answered at proper ⊢
  intro name member
  obtain ⟨element, delivered, rfl⟩ := List.mem_map.mp member
  exact (proper element delivered).1

/-- And so it does columns. -/
theorem isProper_columns (table : Text) (session : Http.Session σ) :
    Column.FeedIsProper (source.columns table session).1 := by
  have proper := source.isProper_elements (source.columnListUrl table) session
  have mapped := Attempt.run_map (source.elements (source.columnListUrl table))
    (·.map fun element => ({ name := element.name, attributes := element.attributes } : Column))
    session
  have asked : source.columns table session = _ := mapped
  rw [asked]
  generalize source.elements (source.columnListUrl table) session = answered at proper ⊢
  intro column member
  obtain ⟨element, delivered, rfl⟩ := List.mem_map.mp member
  exact proper element delivered

end Source

end ApiDoc
