/-
This file proves that the events of a document are those of a tree: every element that starts ends,
within the element that it started in, and there is one root. This holds of every document that can
be read, whatever it declares and refers to, because an entity ends what it starts.
-/
import ApiDoc.Proofs.SuitableMarkup
import ApiDoc.Proofs.TreeEvents
import ApiDoc.Proofs.WrittenTags

namespace ApiDoc.Xml

/-! ### Walks along events -/

/-- The stage after the end of an element, where some number of others are open: the root is over
when none is. -/
def stageAfter : Nat → Option Nat
  | 0 => none
  | depth + 1 => some (depth + 1)

/-- Events lead from one stage to another. A stage is a number of open elements, or nothing if the
root is over. -/
inductive Walk : Option Nat → List Event → Option Nat → Prop where
  | done (stage : Option Nat) : Walk stage [] stage
  | opened {depth : Nat} {name : ExpandedName} {attributes : List (ExpandedName × List Char)}
      {rest : List Event} {last : Option Nat} (plain : '\x7d' ∉ name.localName)
      (further : Walk (some (depth + 1)) rest last) :
      Walk (some depth) (Tree.opening name attributes :: rest) last
  | closed {depth : Nat} {rest : List Event} {last : Option Nat}
      (further : Walk (stageAfter depth) rest last) : Walk (some (depth + 1)) (.closed :: rest) last

theorem Walk.append {first second : List Event} {start middle last : Option Nat}
    (walk : Walk start first middle) (further : Walk middle second last) :
    Walk start (first ++ second) last := by
  induction walk with
  | done stage => exact further
  | opened plain _ inductionHypothesis => exact .opened plain (inductionHypothesis further)
  | closed _ inductionHypothesis => exact .closed (inductionHypothesis further)

/-- Where elements are open and the root is over in the end, the elements that start first are
followed by the end of the innermost one that is open. -/
theorem Walk.exists_forest {depth : Nat} {events : List Event}
    (walk : Walk (some (depth + 1)) events none) :
    ∃ trees rest, Tree.ArePlain trees ∧ events = Tree.eventsOfAll trees ++ .closed :: rest ∧
      Walk (stageAfter depth) rest none := by
  cases walk with
  | closed further => exact ⟨[], _, trivial, rfl, further⟩
  | @opened _ name attributes events _ plain further =>
    obtain ⟨inner, others, plainInner, same, furthest⟩ := further.exists_forest
    have fewer : others.length < events.length := by
      rw [same]
      simp
      omega
    obtain ⟨trees, rest, plainTrees, sameOthers, walkRest⟩ := furthest.exists_forest
    refine ⟨.node name attributes inner :: trees, rest,
      ⟨⟨plain, plainInner⟩, plainTrees⟩, ?_, walkRest⟩
    simp [same, sameOthers, Tree.eventsOfAll, Tree.events]
termination_by events.length

/-- The events from the beginning to the end of the root are those of a tree. -/
theorem Walk.exists_tree {events : List Event} (walk : Walk (some 0) events none) :
    ∃ tree : Tree, tree.IsPlain ∧ events = tree.events := by
  cases walk with
  | @opened _ name attributes _ _ plain further =>
    obtain ⟨trees, rest, plainTrees, rfl, ended⟩ := further.exists_forest
    cases ended
    exact ⟨.node name attributes trees, ⟨plain, plainTrees⟩, by simp [Tree.events]⟩

/-! ### Steps -/

/-- Within an element. -/
def Place.isWithin : Place → Bool
  | .content | .characterData => true
  | .prolog _ | .subset | .afterSubset | .epilog => false

namespace Progress

/-- How far the elements of a document have come. -/
def stage (progress : Progress) : Option Nat :=
  if progress.place = .epilog then none else some progress.ancestors.length

/-- Elements are open where they should be. -/
def IsSound (progress : Progress) : Prop := progress.place.isWithin = !progress.ancestors.isEmpty

/-- Events lead from one progress to another that is sound. -/
def Leads (progress : Progress) (events : List Event) (next : Progress) : Prop :=
  Walk progress.stage events next.stage ∧ next.IsSound

theorem Leads.append {progress between next : Progress} {first second : List Event}
    (leads : progress.Leads first between) (further : between.Leads second next) :
    progress.Leads (first ++ second) next :=
  ⟨leads.1.append further.1, further.2⟩

theorem leads_self {progress : Progress} (sound : progress.IsSound) : progress.Leads [] progress :=
  ⟨.done _, sound⟩

/-- A name that is resolved for an element is one in its namespace. -/
theorem exists_expandedName {namespaces : Namespaces} {written name : List Char}
    (plain : '\x7d' ∉ written) (resolved : namespaces.elementName? written = some name) :
    ∃ expanded : ExpandedName, '\x7d' ∉ expanded.localName ∧ expanded.resolved = name := by
  unfold Namespaces.elementName? Namespaces.parts at resolved
  split at resolved
  · cases resolved
    exact ⟨⟨_, written⟩, plain, rfl⟩
  · rename_i bound localName parts
    split at parts
    · exact nomatch parts
    · rename_i behind
      cases parts
      obtain ⟨uri, -, rfl⟩ := Option.map_eq_some_iff.1 resolved
      refine ⟨⟨uri, localName⟩, fun member => plain ?_, rfl⟩
      refine (List.dropWhile_suffix (fun character => decide (character ≠ ':'))).subset ?_
      rw [behind]
      exact List.mem_cons_of_mem _ member

/-- A start tag reports that an element starts. -/
theorem exists_opening {written : WrittenTag} {doctype : Doctype} {outer : Namespaces} {tag : Tag}
    (plain : '\x7d' ∉ written.name) (resolved : written.resolve? doctype outer = some tag) :
    ∃ name attributes, '\x7d' ∉ name.localName ∧ opening tag = Tree.opening name attributes := by
  unfold WrittenTag.resolve? at resolved
  simp only [Option.bind_eq_bind, Option.bind_eq_some_iff] at resolved
  obtain ⟨given, -, namespaces, -, name, named, attributes, -, resolved⟩ := resolved
  split at resolved
  · cases resolved
    obtain ⟨expanded, plainName, rfl⟩ := exists_expandedName plain named
    refine ⟨expanded, attributes.map fun entry => (⟨[], entry.1⟩, entry.2), plainName, ?_⟩
    simp [opening, Tree.opening, ExpandedName.resolved, Namespaces.resolved]
  · cases resolved

theorem stage_of_startsElement {progress : Progress}
    (starts : progress.place.startsElement = true) :
    progress.stage = some progress.ancestors.length := by
  rw [stage, if_neg]
  intro ended
  rw [ended] at starts
  exact nomatch starts

/-- Behind an element the progress is as far as the others that are open tell. -/
theorem among_eq (progress : Progress) (ancestors : List OpenElement) :
    let next := { progress with place := placeAmong ancestors, ancestors }
    next.stage = stageAfter ancestors.length ∧ next.IsSound := by
  cases ancestors with
  | nil => exact ⟨rfl, rfl⟩
  | cons element others => exact ⟨rfl, rfl⟩

/-- Markup that neither starts nor ends an element. -/
theorem leads_silently {progress next : Progress} (sound : progress.IsSound)
    (sameAncestors : next.ancestors = progress.ancestors)
    (sameSide : next.place.isWithin = progress.place.isWithin)
    (notOver : progress.place ≠ .epilog) (notOverThen : next.place ≠ .epilog) :
    progress.Leads [] next := by
  have sameStage : next.stage = progress.stage := by
    rw [stage, stage, if_neg notOver, if_neg notOverThen, sameAncestors]
  refine ⟨sameStage ▸ .done _, ?_⟩
  rw [IsSound, sameAncestors, sameSide]
  exact sound

theorem leads_enter? {progress next : Progress} {written : WrittenTag} {events : List Event}
    (starts : progress.place.startsElement = true) (plain : '\x7d' ∉ written.name)
    (entered : progress.enter? written = some (events, next)) : progress.Leads events next := by
  unfold enter? at entered
  simp only [Option.bind_eq_bind, Option.bind_eq_some_iff] at entered
  obtain ⟨tag, resolved, entered⟩ := entered
  obtain ⟨name, attributes, plainName, opens⟩ := exists_opening plain resolved
  rw [opens] at entered
  unfold Leads
  rw [stage_of_startsElement starts]
  split at entered
  · cases entered
    obtain ⟨stage, sound⟩ := among_eq progress progress.ancestors
    exact ⟨.opened plainName (.closed (stage ▸ .done _)), sound⟩
  · cases entered
    exact ⟨.opened plainName (.done _), rfl⟩

theorem leads_leave? {progress next : Progress} {name : List Char} {events : List Event}
    (inContent : progress.place = .content) (left : progress.leave? name = some (events, next)) :
    progress.Leads events next := by
  have starts : progress.place.startsElement = true := by
    rw [inContent]
    rfl
  unfold Leads
  rw [stage_of_startsElement starts]
  unfold leave? at left
  split at left
  · exact nomatch left
  · rename_i element ancestors opened
    split at left
    · cases left
      obtain ⟨stage, sound⟩ := among_eq progress ancestors
      rw [opened]
      exact ⟨.closed (stage ▸ .done _), sound⟩
    · exact nomatch left

/-- A piece of markup leads on, if entities do. -/
theorem leads_step? {follow? : List Char → Progress → Option (List Event × Progress)}
    (leadsEntity : ∀ text progress events next, progress.IsSound → progress.place = .content →
      follow? text progress = some (events, next) → progress.Leads events next)
    {progress next : Progress} {markup : Markup} {events : List Event} (sound : progress.IsSound)
    (suits : markup.Suits progress.place)
    (stepped : progress.step? follow? markup = some (events, next)) :
    progress.Leads events next := by
  cases markup with
  | passed =>
    cases stepped
    exact leads_self sound
  | startTag tag => exact leads_enter? suits.1 suits.2 stepped
  | endTag name => exact leads_leave? suits stepped
  | header header =>
    obtain ⟨hasDoctype, inProlog⟩ := suits
    cases stepped
    refine leads_silently sound rfl ?_ (by rw [inProlog]; nofun) ?_
    · rw [inProlog]
      dsimp only
      split <;> rfl
    · dsimp only
      split <;> nofun
  | declaration declaration =>
    have inSubset : progress.place = .subset := suits
    obtain ⟨doctype, -, silent⟩ := Option.bind_eq_some_iff.1 stepped
    cases silent
    exact leads_silently sound rfl rfl (by rw [inSubset]; nofun) (by rw [inSubset]; nofun)
  | parameterReference =>
    have inSubset : progress.place = .subset := suits
    cases stepped
    exact leads_silently sound rfl rfl (by rw [inSubset]; nofun) (by rw [inSubset]; nofun)
  | subsetEnd =>
    have inSubset : progress.place = .subset := suits
    cases stepped
    exact leads_silently sound rfl (by rw [inSubset]; rfl) (by rw [inSubset]; nofun) nofun
  | headerEnd =>
    have behindSubset : progress.place = .afterSubset := suits
    cases stepped
    exact leads_silently sound rfl (by rw [behindSubset]; rfl) (by rw [behindSubset]; nofun) nofun
  | dataStart =>
    have inContent : progress.place = .content := suits
    cases stepped
    exact leads_silently sound rfl (by rw [inContent]; rfl) (by rw [inContent]; nofun) nofun
  | dataEnd =>
    have inData : progress.place = .characterData := suits
    cases stepped
    exact leads_silently sound rfl (by rw [inData]; rfl) (by rw [inData]; nofun) nofun
  | reference reference =>
    cases reference with
    | number value =>
      obtain ⟨character, -, silent⟩ := Option.bind_eq_some_iff.1 stepped
      cases silent
      exact leads_self sound
    | name name =>
      simp only [step?] at stepped
      split at stepped
      · cases stepped
        exact leads_self sound
      · split at stepped
        · exact leadsEntity _ _ _ _ sound suits stepped
        · exact nomatch stepped

/-! ### Runs -/

/-- What is followed leads on, if entities do. -/
theorem leads_followUpTo? {follow? : List Char → Progress → Option (List Event × Progress)}
    (leadsEntity : ∀ text progress events next, progress.IsSound → progress.place = .content →
      follow? text progress = some (events, next) → progress.Leads events next) :
    ∀ (limit : Nat) {progress : Progress} {text : List Char} {followed : Followed},
      progress.IsSound → followUpTo? follow? limit progress text = some followed →
        progress.Leads followed.events followed.progress
  | 0, progress, text, followed, sound, follows => by
    cases follows
    exact leads_self sound
  | limit + 1, progress, text, followed, sound, follows => by
    rw [followUpTo?] at follows
    cases scanned : Markup.scan progress.place text with
    | unfinished =>
      rw [scanned] at follows
      cases follows
      exact leads_self sound
    | malformed =>
      rw [scanned] at follows
      cases follows
    | found markup rest =>
      rw [scanned] at follows
      simp only [Option.bind_eq_bind, Option.bind_eq_some_iff] at follows
      obtain ⟨⟨events, between⟩, stepped, further, followsRest, follows⟩ := follows
      cases follows
      have suits := Markup.suits_scan _ _ _ _ scanned
      have leads := leads_step? leadsEntity sound suits stepped
      exact leads.append (leads_followUpTo? leadsEntity limit leads.2 followsRest)

/-- An entity ends what it starts and nothing else. -/
theorem leads_followEntity? : ∀ (depth : Nat) (text : List Char) (progress : Progress)
    (events : List Event) (next : Progress), progress.IsSound → progress.place = .content →
      followEntity? depth text progress = some (events, next) → progress.Leads events next
  | 0, _, _, _, _, _, _, follows => nomatch follows
  | depth + 1, text, progress, events, next, sound, inContent, follows => by
    rw [followEntity?] at follows
    simp only [Option.bind_eq_bind, Option.bind_eq_some_iff] at follows
    obtain ⟨followed, followedInside, ends⟩ := follows
    split at ends
    · cases ends
      let inside := { progress with floor := progress.ancestors.length }
      have leads : inside.Leads followed.events followed.progress :=
        leads_followUpTo? (leads_followEntity? depth) _ sound followedInside
      exact leads
    · exact nomatch ends

theorem leads_report {progress stand : Progress} {text pending : List Char}
    (sound : progress.IsSound)
    (stands : (progress.report text).stand? = some (stand, pending)) :
    progress.Leads (progress.report text).events stand := by
  have follows := progress.follow?_eq_report text
  rw [stands] at follows
  refine leads_followUpTo? (fun entity => ?_) text.length sound follows
  intro progress events next soundThen inContent followed
  exact leads_followEntity? _ _ _ _ _ soundThen inContent followed

end Progress

/-! ### Documents -/

namespace Reader

theorem complete_of_defect? {reading : Reading} (sound : reading.defect? = none) :
    ∃ reader, reading.stand = .ok reader ∧ reader.pending = [] ∧
      reader.progress.place = .epilog := by
  unfold Reading.defect? at sound
  split at sound
  · exact nomatch sound
  · rename_i reader stands
    split at sound
    · rename_i complete
      simp only [Bool.and_eq_true, List.isEmpty_iff, Progress.isComplete,
        decide_eq_true_eq] at complete
      exact ⟨reader, stands, complete.1.2, complete.2⟩
    · exact nomatch sound

/-- A document that can be read has been followed from its beginning to its end. -/
theorem exists_report {body : Bytes} (sound : (({} : Reader).look body).defect? = none) :
    ∃ standalone text stand, stand.place = .epilog ∧
      Progress.report { doctype := { standalone } } text =
        { events := (({} : Reader).look body).events, stand? := some (stand, []) } := by
  obtain ⟨reader, stands, nothingLeft, ended⟩ := complete_of_defect? sound
  unfold look at stands ⊢
  cases told : Preamble.detect? body with
  | none =>
    simp only [told] at stands
    cases stands
    cases ended
  | some tellings =>
    obtain ⟨coding, bytes⟩ := tellings
    simp only [told, begun] at stands ⊢
    cases read : Preamble.read coding bytes with
    | error defect =>
      simp only [read] at stands
      cases stands
    | ok preamble? => cases preamble? with
      | none =>
        simp only [read] at stands
        cases stands
        cases ended
      | some preamble =>
        simp only [read, followed, knowing, List.nil_append] at stands ⊢
        split at stands
        · cases stands
        · rename_i stand pending reaches
          split at stands
          · cases stands
            obtain rfl : pending = [] := nothingLeft
            exact ⟨preamble.standalone, _, stand, ended, by rw [← reaches]⟩
          · cases stands

/-- Whatever a document is that can be read, what is reported of it are the events of a tree. -/
theorem exists_tree {body : Bytes} (sound : (({} : Reader).look body).defect? = none) :
    ∃ tree : Tree, tree.IsPlain ∧ (({} : Reader).look body).events = tree.events := by
  obtain ⟨standalone, text, stand, ended, report⟩ := exists_report sound
  have leads := Progress.leads_report (by rfl) (congrArg Progress.Report.stand? report)
  have last : stand.stage = none := if_pos ended
  rw [report, Progress.Leads, last] at leads
  exact leads.1.exists_tree

end Reader

end ApiDoc.Xml
