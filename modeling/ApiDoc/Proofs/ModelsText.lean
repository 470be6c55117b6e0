/-
This file proves that the text of all models is one JSON object, whatever the service answers: the
text holds nothing beyond ASCII, and what is read of it are the finished tables in the order of the
list of tables. Labels alone may be read otherwise than they were: an opening half of a surrogate
pair in a label has become one character with a closing half that follows it.
-/
import ApiDoc.Http.Replay
import ApiDoc.Proofs.AsciiText
import ApiDoc.Proofs.FinishedTables
import ApiDoc.Proofs.JsonRereading
import ApiDoc.Proofs.SchemaMembers

namespace ApiDoc

open Json (reread rereadMembers IsRereadable HaveRereadable)
open Json.Token (Spells SpellsBefore rereadString)

/-! ### Joined labels -/

/-- The listed value with the halves of surrogate pairs joined, if it is a label. -/
def Property.joinLabel : Json → Json
  | .string label => .string label.joinHalves
  | identifier => identifier

/-- The property with the halves of surrogate pairs joined in its labels. -/
def Property.joined (property : Property) : Property :=
  { property with enum := property.enum.map joinLabel }

/-- The table with the halves of surrogate pairs joined in its labels. -/
def Table.joined (table : Table) : Table :=
  { table with properties := table.properties.mapEntries fun _ property => property.joined }

/-- Labels in which no half of a surrogate pair finds its other half stay as they are. -/
theorem Property.joined_eq_self {property : Property}
    (apart : ∀ label, .string label ∈ property.enum → label.joinHalves = label) :
    property.joined = property := by
  have same : property.enum.map joinLabel = property.enum.map id := by
    refine List.map_congr_left fun entry member => ?_
    cases entry with
    | string label => exact congrArg Json.string (apart label member)
    | null | bool | integer | double | array | object => rfl
  unfold joined
  rw [same, List.map_id]

theorem Table.joined_eq_self {table : Table}
    (same : ∀ entry ∈ table.properties, entry.2.joined = entry.2) : table.joined = table := by
  have mapped : (table.properties.mapEntries fun _ property => property.joined) =
      table.properties.map id :=
    List.map_congr_left fun entry member => Prod.ext rfl (same entry member)
  unfold joined
  rw [mapped, List.map_id]

/-! ### Reading values again -/

theorem Json.Token.rereadString_of_isProper {text : Text} (proper : text.IsProper) :
    rereadString true text = text :=
  proper.joinHalves_eq

namespace Json

/-- A value of no more than some levels is read as another when it is written with nothing but
ASCII. -/
structure ReadsAs (depth : Nat) (value next : Json) : Prop where
  rereadable : IsRereadable true depth value
  reread : reread true value = next

/-- Members are read as others. -/
structure MembersReadAs (depth : Nat) (members others : Dict Json) : Prop where
  rereadable : HaveRereadable true depth members
  reread : rereadMembers true members = others

variable {depth : Nat}

theorem readsAs_string {text : Text} (proper : text.IsProper) :
    ReadsAs depth (.string text) (.string text) :=
  ⟨trivial, congrArg string (Token.rereadString_of_isProper proper)⟩

theorem readsAs_integer {value : Int} (short : Numeral.IsShort value) :
    ReadsAs depth (.integer value) (.integer value) :=
  ⟨short, rfl⟩

theorem readsAs_array {items : List Json} {change : Json → Json}
    (reads : ∀ item ∈ items, ReadsAs depth item (change item)) :
    ReadsAs (depth + 1) (.array items) (.array (items.map change)) where
  rereadable := (areRereadable_iff true depth items).mpr fun item member =>
    (reads item member).rereadable
  reread := by
    rw [reread, rereadItems_eq_map]
    exact congrArg array (List.map_congr_left fun item member => (reads item member).reread)

theorem readsAs_array_self {items : List Json} (reads : ∀ item ∈ items, ReadsAs depth item item) :
    ReadsAs (depth + 1) (.array items) (.array items) := by
  have mapped : ReadsAs (depth + 1) (.array items) (.array (items.map id)) := readsAs_array reads
  rwa [List.map_id] at mapped

theorem membersReadAs_nil : MembersReadAs depth [] [] := ⟨trivial, rfl⟩

theorem MembersReadAs.append {members others rest further : Dict Json}
    (reads : MembersReadAs depth members others) (readsRest : MembersReadAs depth rest further) :
    MembersReadAs depth (members ++ rest) (others ++ further) where
  rereadable := by
    have first := (haveRereadable_iff true depth members).mp reads.rereadable
    have second := (haveRereadable_iff true depth rest).mp readsRest.rereadable
    exact (haveRereadable_iff true depth _).mpr fun entry member =>
      (List.mem_append.mp member).elim (first entry) (second entry)
  reread := by
    rw [← reads.reread, ← readsRest.reread]
    simp only [rereadMembers_eq_map, List.map_append]

/-- Members that are written for the items of a list under proper names. -/
theorem membersReadAs_map {α : Type} {items : List α} {name : α → Text} {write next : α → Json}
    (proper : ∀ item ∈ items, (name item).IsProper)
    (reads : ∀ item ∈ items, ReadsAs depth (write item) (next item)) :
    MembersReadAs depth (items.map fun item => (name item, write item))
      (items.map fun item => (name item, next item)) where
  rereadable := by
    rw [haveRereadable_iff, List.forall_mem_map]
    exact fun item member => (reads item member).rereadable
  reread := by
    rw [rereadMembers_eq_map, List.map_map]
    refine List.map_congr_left fun item member => ?_
    show (rereadString true (name item), reread true (write item)) = (name item, next item)
    rw [Token.rereadString_of_isProper (proper item member), (reads item member).reread]

theorem membersReadAs_singleton {key : Text} (proper : key.IsProper) {value next : Json}
    (reads : ReadsAs depth value next) : MembersReadAs depth [(key, value)] [(key, next)] where
  rereadable := ⟨reads.rereadable, trivial⟩
  reread := by
    show [(rereadString true key, reread true value)] = _
    rw [Token.rereadString_of_isProper proper, reads.reread]

theorem membersReadAs_optionalPart {α : Type} {key : Text} (proper : key.IsProper)
    {write : α → Json} {value? : Option α}
    (reads : ∀ value ∈ value?, ReadsAs depth (write value) (write value)) :
    MembersReadAs depth (Dict.optionalPart key write value?)
      (Dict.optionalPart key write value?) := by
  cases value? with
  | none => exact membersReadAs_nil
  | some value => exact membersReadAs_singleton proper (reads value rfl)

/-- Members with distinct keys make up an object. -/
theorem MembersReadAs.object {members others : Dict Json}
    (reads : MembersReadAs depth members others) (distinct : others.keys.Nodup) :
    ReadsAs (depth + 1) (.object members) (.object others) where
  rereadable := ⟨reads.reread ▸ distinct, reads.rereadable⟩
  reread := congrArg Json.object reads.reread

end Json

/-! ### Properties -/

namespace Property

theorem readsAs_listed {entry : Json} (listed : IsListed entry) (depth : Nat) :
    Json.ReadsAs depth entry (joinLabel entry) := by
  cases entry with
  | null | string => exact ⟨trivial, rfl⟩
  | integer value => exact Json.readsAs_integer listed
  | bool | double | array | object => exact listed.elim

/-- The choices of an enumerated property are read as they are. -/
theorem readsAs_identifierOrLabel :
    Json.ReadsAs 2 (.array (identifierOrLabel.map .object))
      (.array (identifierOrLabel.map .object)) := by
  have choice (type : String) : Json.ReadsAs 1 (.object [("type", .string type)])
      (.object [("type", .string type)]) :=
    (Json.membersReadAs_singleton (Text.isProper_ofString "type")
      (Json.readsAs_string (Text.isProper_ofString type))).object (List.nodup_singleton _)
  refine Json.readsAs_array_self (List.forall_mem_map.mpr fun members member => ?_)
  rcases List.mem_cons.mp member with rfl | other
  · exact choice "integer"
  · obtain rfl := List.mem_singleton.mp other
    exact choice "string"

/-- A plain property is read with its labels joined. -/
theorem readsAs_toJson {property : Property} (plain : property.IsPlain) :
    Json.ReadsAs 3 property.toJson property.joined.toJson := by
  have proper (key : String) : Text.IsProper key := Text.isProper_ofString key
  refine Json.MembersReadAs.object ?_ (nodup_keys_toMembers property.joined)
  unfold toMembers Dict.ofParts
  simp only [List.flatten_cons, List.flatten_nil, List.append_nil]
  refine .append ?type (.append ?format (.append ?description (.append ?maxLength
    (.append ?nullable (.append ?enum ?oneOf)))))
  case type =>
    refine Json.membersReadAs_optionalPart (proper "type") fun text member => ?_
    exact Json.readsAs_string
      (plain.texts text (List.mem_append_left _ (Option.mem_toList.mpr member)))
  case format =>
    refine Json.membersReadAs_optionalPart (proper "format") fun text member => ?_
    exact Json.readsAs_string (plain.texts text
      (List.mem_append_right _ (List.mem_append_left _ (Option.mem_toList.mpr member))))
  case description =>
    refine Json.membersReadAs_optionalPart (proper "description") fun text member => ?_
    exact Json.readsAs_string (plain.texts text
      (List.mem_append_right _ (List.mem_append_right _ (Option.mem_toList.mpr member))))
  case maxLength =>
    refine Json.membersReadAs_optionalPart (proper "maxLength") fun length member => ?_
    exact Json.readsAs_integer (plain.maxLength length member)
  case nullable =>
    show Json.MembersReadAs 2 (if property.nullable then _ else _)
      (if property.nullable then _ else _)
    split
    · exact Json.membersReadAs_singleton (proper "nullable") ⟨trivial, rfl⟩
    · exact Json.membersReadAs_nil
  case enum =>
    have same : property.joined.enum.isEmpty = property.enum.isEmpty := List.isEmpty_map
    rw [same]
    split
    · exact Json.membersReadAs_nil
    · exact Json.membersReadAs_singleton (proper "enum") (Json.readsAs_array fun entry member =>
        readsAs_listed (plain.enum entry member) 1)
  case oneOf =>
    refine Json.membersReadAs_optionalPart (proper "oneOf") fun choices member => ?_
    rw [plain.oneOf choices member]
    exact readsAs_identifierOrLabel

end Property

/-! ### Tables -/

namespace Table

/-- A plain table is read with its labels joined. -/
theorem readsAs_toJson {table : Table} (plain : table.IsPlain) :
    Json.ReadsAs 5 table.toJson table.joined.toJson := by
  have proper (key : String) : Text.IsProper key := Text.isProper_ofString key
  refine Json.MembersReadAs.object ?_ (nodup_keys_toMembers table.joined)
  unfold toMembers Dict.ofParts
  simp only [List.flatten_cons, List.flatten_nil, List.append_nil]
  refine .append ?type (.append ?required ?properties)
  case type =>
    exact Json.membersReadAs_singleton (proper "type") (Json.readsAs_string (proper "object"))
  case required =>
    show Json.MembersReadAs 4 table.requiredMember table.requiredMember
    unfold requiredMember
    split
    · exact Json.membersReadAs_nil
    · refine Json.membersReadAs_singleton (proper "required") (Json.readsAs_array_self ?_)
      exact List.forall_mem_map.mpr fun name member =>
        Json.readsAs_string (plain.required name member)
  case properties =>
    have properties : Json.MembersReadAs 3
        (table.properties.map fun entry => (entry.1, entry.2.toJson))
        (table.properties.map fun entry => (entry.1, entry.2.joined.toJson)) :=
      Json.membersReadAs_map (fun entry member => (plain.properties entry member).1)
        fun entry member => Property.readsAs_toJson (plain.properties entry member).2
    refine Json.membersReadAs_singleton (proper "properties") (Json.MembersReadAs.object ?_ ?_)
    · unfold joined Dict.mapEntries
      rw [List.map_map]
      exact properties
    · unfold joined
      rw [Dict.keys_mapEntries, Dict.keys_mapEntries]
      exact plain.distinct

/-- Plain tables of different names make up an object. -/
theorem readsAs_object {tables : List Table} (plain : ∀ table ∈ tables, table.IsPlain)
    (distinct : (tables.map (·.name)).Nodup) :
    Json.ReadsAs 6 (.object (tables.map fun table => (table.name, table.toJson)))
      (.object (tables.map fun table => (table.name, table.joined.toJson))) := by
  refine Json.MembersReadAs.object (Json.membersReadAs_map (fun table member =>
    (plain table member).name) fun table member => readsAs_toJson (plain table member)) ?_
  unfold Dict.keys
  rw [List.map_map]
  exact distinct

end Table

/-! ### The text of tables -/

/-- One line without any space and without a character beyond ASCII. -/
def Json.Layout.denseAscii : Layout := { dense with asciiOnly := true }

namespace Json.Layout

theorem isAscii_denseAscii : denseAscii.IsAscii := ⟨rfl, rfl, rfl⟩

theorem isLegible_denseAscii : denseAscii.IsLegible where
  comma := spells_comma
  commaDelimits _ := Token.delimits_cons rfl _
  colon := spells_colon

end Json.Layout

open Json.Layout (denseAscii isAscii_denseAscii isLegible_denseAscii isLegible_spacedAscii)

namespace Table

theorem spellsBefore_member (table : Table) {depth : Nat}
    (rereadable : IsRereadable true depth table.toJson) :
    SpellsBefore table.member
      (.string (rereadString true table.name) :: .colon :: Json.tokens true table.toJson) :=
  Json.spells_member isLegible_denseAscii table.name
    (Json.spells_print isLegible_spacedAscii table.toJson depth rereadable 0)

/-- Tables after the first spell their tokens. -/
theorem spellsBefore_members {tables : List Table} {depth : Nat}
    (rereadable : ∀ table ∈ tables, IsRereadable true depth table.toJson) :
    SpellsBefore ((tables.map member).flatMap
        (denseAscii.comma ++ denseAscii.lineBreak 1 ++ ·))
      (Json.memberTokens true true (tables.map fun table => (table.name, table.toJson))) := by
  induction tables with
  | nil => exact Json.Token.spells_nil.before
  | cons table rest inductionHypothesis =>
    refine Json.spells_separated isLegible_denseAscii
      (table.spellsBefore_member (rereadable table List.mem_cons_self)) ?_
    exact inductionHypothesis fun other member => rereadable other (.tail _ member)

end Table

namespace Source

/-- The pieces are those of an object whose members are the tables. -/
theorem ofPieces_modelPieces (tables : List Table) :
    Text.ofPieces (modelPieces tables) =
      Json.enclose denseAscii 0 "\x7b" "\x7d" (tables.map Table.member) := by
  cases tables with
  | nil => rfl
  | cons first rest =>
    have lineBreak (level : Nat) : denseAscii.lineBreak level = [] := rfl
    have comma : denseAscii.comma = "," := rfl
    unfold modelPieces memberChunks
    rw [List.map_cons, Json.enclose]
    dsimp only
    rw [Json.join_cons]
    simp only [Text.ofPieces, lineBreak, comma, List.flatMap_def, List.map_map, Function.comp_def,
      List.cons_append, List.flatten_cons, List.flatten_append, List.flatten_nil, List.append_nil,
      List.nil_append, List.append_assoc]

/-- The pieces spell the tokens of the object. -/
theorem spells_modelPieces {tables : List Table} {depth : Nat}
    (rereadable : ∀ table ∈ tables, IsRereadable true depth table.toJson) :
    SpellsBefore (Text.ofPieces (modelPieces tables))
      (Json.tokens true (.object (tables.map fun table => (table.name, table.toJson)))) := by
  have opening : Spells "\x7b" [.openObject] := Json.Token.spells_punctuation rfl
  have closing : Spells "\x7d" [.closeObject] := Json.Token.spells_punctuation rfl
  rw [ofPieces_modelPieces]
  cases tables with
  | nil => exact (opening.append closing).before
  | cons first rest =>
    have enclosed := Json.spells_enclose isLegible_denseAscii opening closing
      (fun _ => Json.Token.delimits_cons rfl _)
      (first.spellsBefore_member (rereadable first List.mem_cons_self))
      (Table.spellsBefore_members fun table member => rereadable table (.tail _ member))
    exact enclosed.before

theorem isAscii_modelPieces (tables : List Table) :
    (Text.ofPieces (modelPieces tables)).isAscii = true := by
  rw [ofPieces_modelPieces]
  refine Json.isAscii_enclose isAscii_denseAscii 0 rfl rfl (List.forall_mem_map.mpr ?_)
  intro table _
  refine Text.isAscii_ofPieces ?_
  simp only [List.forall_mem_cons]
  exact ⟨Json.isAscii_print Json.Layout.isAscii_spacedAscii (.string table.name) 0, rfl,
    Json.isAscii_print Json.Layout.isAscii_spacedAscii table.toJson 0, List.forall_mem_nil _⟩

/-- What is read of the text of plain tables of different names. -/
theorem read_modelPieces {tables : List Table} (plain : ∀ table ∈ tables, table.IsPlain)
    (distinct : (tables.map (·.name)).Nodup) :
    Json.read (Text.ofPieces (modelPieces tables)) =
      .ok (.object (tables.map fun table => (table.name, table.joined.toJson))) := by
  have spells := spells_modelPieces fun table member =>
    (Table.readsAs_toJson (plain table member)).rereadable
  have reads := Table.readsAs_object plain distinct
  rw [Json.read_of_spells spells (by decide) reads.rereadable, reads.reread]

/-! ### The object -/

/-- The text is one JSON object in ASCII: for every name in a list of tables, in the order in which
the names first come, it holds the schema of that table under the name, with the halves of surrogate
pairs joined in its labels. -/
structure IsTextOf (names : List Text) (tables : List Table) (text : Text) : Prop where
  names : tables.map (·.name) = names.eraseDups
  distinct : (tables.map (·.name)).Nodup
  ascii : text.isAscii = true
  read : Json.read text =
    .ok (.object (tables.map fun table => (table.name, table.joined.toJson)))

variable {σ : Type} (source : Source σ)

theorem isTextOf_modelPieces (state : Cached (Http.Session σ)) (short : state.cache.IsShort)
    {tables : List Table} (finished : (source.tables none state).1.toExcept = .ok tables) :
    IsTextOf (source.tableNames state.rest).1.items tables (Text.ofPieces (modelPieces tables)) := by
  obtain ⟨plain, names⟩ := source.finished_tables short finished
  have distinct : (tables.map (·.name)).Nodup := by
    rw [names, ← newNames_nil_known]
    exact nodup_newNames [] _
  exact ⟨names, distinct, isAscii_modelPieces tables, read_modelPieces plain distinct⟩

theorem toExcept_modelChunks (state : Cached (Http.Session σ)) :
    (source.modelChunks none state).1.toExcept =
      (source.tables none state).1.toExcept.map modelPieces :=
  (Prod.mk.inj (source.modelChunks_none state)).1

/-- The models text of a run with a cache of its own is the object of the tables it finishes. -/
theorem models_readable (session : Http.Session σ) (text : Text)
    (succeeds : (source.models.perform session).1 = .ok text) :
    ∃ tables, (source.finish session).1.toExcept = .ok tables ∧
      IsTextOf (source.tableNames session).1.items tables text := by
  rw [perform_models] at succeeds
  dsimp only at succeeds
  obtain ⟨tables, finished, rfl⟩ := map_eq_ok_iff.mp succeeds
  have readable := source.isTextOf_modelPieces { cache := {}, rest := session }
    EnumCache.isShort_empty finished
  dsimp only at readable
  exact ⟨tables, finished, readable⟩

/-! ### A label whose halves meet -/

/-- A service that is asked for what it has replied before. -/
def replayed : Source (List Http.Reply) where
  connection := { productionUrl := "http://host/services", developmentUrl := "http://host/dev" }
  environment := .production
  remote := Http.Replay.remote

/-- Replies that name one table with one column, which draws from an enumeration. The one label of
that has a space between the two halves of a surrogate pair. -/
def replies : List Http.Reply :=
  ["<tables><Room/></tables>", "<columns><KindEnum/></columns>",
    "[\x7b\"enumId\": 1, \"description\": \"\\ud83d \\ude00\"\x7d]"].map fun body =>
      .ok { status := 200, chunks := [Utf8.encode (Text.ofString body)] }

/-- The beginning of a run that gets these replies. -/
def unasked : Cached (Http.Session (List Http.Reply)) := { cache := {}, rest := { remote := replies } }

/-- The table that the replies make up. The space in the label is gone. -/
def repliedTable : Table where
  name := "Room"
  properties := [("KindEnum",
    { description := some "References KindEnum table"
      enum := [.integer 1, .string [.surrogate 0x3D, .surrogate 0x600]]
      oneOf := some Property.identifierOrLabel })]

theorem tables_replayed : (replayed.tables none unasked).1.toExcept = .ok [repliedTable] := by
  have finished : (replayed.tables none unasked).1.toExcept.toOption = some [repliedTable] := by
    decide +kernel
  cases outcome : (replayed.tables none unasked).1.toExcept with
  | error failure => rw [outcome] at finished; cases finished
  | ok tables => rw [outcome] at finished; exact congrArg Except.ok (Option.some_inj.mp finished)

theorem modelChunks_replayed :
    (replayed.modelChunks none unasked).1.toExcept = .ok (modelPieces [repliedTable]) := by
  rw [toExcept_modelChunks, tables_replayed]
  rfl

/-! ### The stream of pieces -/

/-- The pieces of a run that succeeds are together the object of the tables that it finishes, whatever
the enumerations are that it knows from before, if their identifiers are short. -/
theorem modelChunks_readable (state : Cached (Http.Session σ)) (short : state.cache.IsShort)
    (chunks : List Text) (succeeds : (source.modelChunks none state).1.toExcept = .ok chunks) :
    ∃ tables, (source.tables none state).1.toExcept = .ok tables ∧
      IsTextOf (source.tableNames state.rest).1.items tables (Text.ofPieces chunks) := by
  rw [toExcept_modelChunks] at succeeds
  obtain ⟨tables, finished, rfl⟩ := map_eq_ok_iff.mp succeeds
  exact ⟨tables, finished, source.isTextOf_modelPieces state short finished⟩

/-- The text of the replies is read as their table with the halves of its label joined. -/
theorem modelChunks_readable_replayed :
    unasked.cache.IsShort ∧
      (replayed.modelChunks none unasked).1.toExcept = .ok (modelPieces [repliedTable]) ∧
      ∃ tables, (replayed.tables none unasked).1.toExcept = .ok tables ∧
        IsTextOf (replayed.tableNames unasked.rest).1.items tables
          (Text.ofPieces (modelPieces [repliedTable])) :=
  ⟨EnumCache.isShort_empty, modelChunks_replayed,
    replayed.modelChunks_readable unasked EnumCache.isShort_empty _ modelChunks_replayed⟩

/-- So what is read of the text of a run that succeeds need not be the tables that it finishes. -/
theorem modelChunks_not_reread :
    (replayed.modelChunks none unasked).1.toExcept = .ok (modelPieces [repliedTable]) ∧
      (replayed.tables none unasked).1.toExcept = .ok [repliedTable] ∧
      Json.read (Text.ofPieces (modelPieces [repliedTable])) ≠
        .ok (.object [(repliedTable.name, repliedTable.toJson)]) := by
  refine ⟨modelChunks_replayed, tables_replayed, fun same => ?_⟩
  have reads := (replayed.isTextOf_modelPieces unasked EnumCache.isShort_empty tables_replayed).read
  have differ : repliedTable.joined.toJson ≠ repliedTable.toJson := by decide +kernel
  rw [reads] at same
  simp only [List.map_cons, List.map_nil, Except.ok.injEq, Json.object.injEq, List.cons.injEq,
    Prod.mk.injEq] at same
  exact differ same.1.2

end Source

end ApiDoc
